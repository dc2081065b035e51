import ContentBlocker.Proofs.Filter.Elements
import ContentBlocker.Proofs.Host.LookupKeys
import ContentBlocker.Proofs.Index.Filed
import ContentBlocker.Proofs.Index.RoundTrip
import ContentBlocker.Proofs.Matching.Answers
import ContentBlocker.Proofs.Subscription.ElementHiding
import ContentBlocker.Reference.Engine
import ContentBlocker.Reference.Suffixes
import ContentBlocker.Subscription.Basic
import Mathlib.Data.List.FinRange
import Mathlib.Data.List.Perm.Subperm
/-!
# How often filters run their calls

A filter that runs calls is posted under each domain that it names, and the calls for a document are
looked up under all names that match it. A filter that is active on the document is therefore run
once for each of its domains that matches; no other filter is run. So every active filter is run
just once exactly if none of them names two domains that match.
-/

namespace ContentBlocker

section Lists

variable {ι α ε : Type}

/-- Of distinct items, one that is picked under several keys is listed once for each of them. -/
theorem count_flatMap_filter [DecidableEq α] {all : List α} (distinct : all.Nodup)
    (picked : ι → α → Bool) {a : α} (there : a ∈ all) (keys : List ι) :
    (keys.flatMap fun key => all.filter (picked key)).count a =
      keys.countP fun key => picked key a := by
  induction keys with
  | nil => rfl
  | cons key rest ih =>
    rw [List.flatMap_cons, List.count_append, ih, List.countP_cons, Nat.add_comm]
    by_cases here : picked key a
    · rw [List.count_filter here, List.count_eq_one_of_mem distinct there, if_pos here]
    · rw [List.count_eq_zero_of_not_mem fun kept => here (List.mem_filter.1 kept).2, if_neg here]

/-- What is written for some items is longer than what is written for fewer of them, if something is
written for each. -/
theorem perm_of_flatMap_eq {written : ι → List α} (nonempty : ∀ i, written i ≠ []) {a b : List ι}
    (within : a.Subperm b) (same : a.flatMap written = b.flatMap written) : a.Perm b := by
  obtain ⟨a', reordered, sublist⟩ := within
  obtain ⟨more, all⟩ := sublist.exists_perm_append
  have lengths : (b.flatMap written).length =
      (a.flatMap written).length + (more.flatMap written).length := by
    rw [(all.flatMap_right written).length_eq, List.flatMap_append, List.length_append,
      (reordered.flatMap_right written).length_eq]
  have nothing : more.flatMap written = [] := by
    apply List.eq_nil_of_length_eq_zero
    rw [same] at lengths
    omega
  have none : more = [] := by
    apply List.eq_nil_iff_forall_not_mem.2
    intro i there
    exact nonempty i (List.flatMap_eq_nil_iff.1 nothing i there)
  rw [none, List.append_nil] at all
  exact reordered.symm.trans all.symm

end Lists

/-- The domains that a filter names and that match a document. -/
def DomainSet.matching [Host.SuffixList] (domains : DomainSet) (document : Text) : List Text :=
  domains.included.filter fun name => Host.domainMatches name document = .ok true

/-- Whether a filter is filed under a key. -/
def SnippetFilter.isFiled (key : Text) (filter : SnippetFilter) : Bool :=
  filter.domains.keys.contains key

/-- A filter that runs calls names domains, in small letters, and has a call. -/
structure SnippetFilter.Bound (filter : SnippetFilter) : Prop where
  wellFormed : filter.domains.WellFormed
  named : filter.domains.included ≠ []
  small : ∀ name ∈ filter.domains.included, name.lower = name
  calls : filter.calls ≠ []

namespace Filter

variable [RegexEngine]

theorem bound_of_parse {privileged : Bool} {line : Text} {filter : SnippetFilter}
    (read : parse privileged line = .ok (.snippet filter)) : filter.Bound := by
  have wellFormed : filter.domains.WellFormed := wellFormed_parse read
  rcases cases_of_parse read with ⟨before, separator, after, -, made⟩ | ⟨-, made, -, same⟩
  · cases made with
    | snippet named scripted =>
      have domains := SnippetFilter.domains_ofScript scripted
      refine ⟨wellFormed, ?_, ?_, SnippetFilter.calls_ofScript scripted⟩
      · rw [domains]
        exact named
      · rw [domains]
        exact fun name member => lower_of_mem_domainsBefore member
  · cases same

theorem bound_of_mem_snippets {privileged : Bool} {lines : List Text} {filter : SnippetFilter}
    (member : filter ∈ (ofLines privileged lines).filterMap snippet?) : filter.Bound := by
  obtain ⟨whole, there, isSnippet⟩ := List.mem_filterMap.1 member
  obtain ⟨line, -, read⟩ := mem_ofLines.1 there
  cases whole with
  | url _ | content _ => cases isSnippet
  | snippet found =>
    cases isSnippet
    exact bound_of_parse read

end Filter

theorem Builder.files_snippets {filters : List Filter}
    (wellFormed : ∀ filter ∈ filters, filter.WellFormed) :
    (ofFilters filters).Files .snippet (filters.filterMap Filter.snippet?)
      SnippetFilter.isFiled := by
  refine files_ofFilters wellFormed ?_ ?_
  · rintro (filter | filter | filter) <;> rfl
  · rintro (filter | filter | filter) _ ⟨⟩ key
    simp [SnippetFilter.isFiled, Filter.isFiled]

namespace SnippetFilter

variable [Host.SuffixList] {members : List SnippetFilter} {document : Text}

/-- The calls of filters that run in an order. -/
def callsOf (members : List SnippetFilter) (order : List (Fin members.length)) :
    List SnippetCall :=
  order.flatMap fun i => members[i].calls

/-- Whether a filter is filed under a key and does not avoid a document. -/
def runsUnder (document key : Text) (filter : SnippetFilter) : Bool :=
  filter.isFiled key ∧ filter.domains.lists.isExcludedOn document = .ok false

/-- The order in which filters run in a document: those under its first key, then those under the
next. -/
def runOrder (members : List SnippetFilter) (document : Text) : List (Fin members.length) :=
  (Host.lookupKeys document).flatMap fun key =>
    (List.finRange members.length).filter fun i => members[i].runsUnder document key

/-- How often a filter runs in a document: once for each of its domains that matches. -/
def runs (filter : SnippetFilter) (document : Text) : Nat :=
  if filter.domains.lists.isActiveOn document = .ok true then
    (filter.domains.matching document).length
  else 0

/-- The calls are those of the active filters, each of which runs once. -/
def RunsOnce (members : List SnippetFilter) (document : Text) (calls : List SnippetCall) : Prop :=
  ∃ order : List (Fin members.length), calls = callsOf members order ∧
    ∀ i, order.count i =
      if members[i].domains.lists.isActiveOn document = .ok true then 1 else 0

theorem callsOf_runOrder : callsOf members (runOrder members document) =
    (Host.lookupKeys document).flatMap fun key =>
      (members.filter (runsUnder document key)).flatMap calls := by
  have numbered : ∀ key, members.filter (runsUnder document key) =
      ((List.finRange members.length).filter fun i => members[i].runsUnder document key).map
        (members[·]) := by
    intro key
    conv_lhs => rw [← List.map_getElem_finRange members, List.filter_map]
    rfl
  simp only [callsOf, runOrder, List.flatMap_assoc, numbered, List.flatMap_map]

/-- As many lookup keys of a document as a filter has domains that match it lead to the filter. -/
theorem Bound.countP_lookupKeys {filter : SnippetFilter} (h : filter.Bound)
    (small : document.lower = document) (noEndDot : document.getLast? ≠ some '.') :
    (Host.lookupKeys document).countP (filter.isFiled ·) =
      (filter.domains.matching document).length := by
  rw [List.countP_eq_length_filter]
  refine List.Perm.length_eq ((List.perm_ext_iff_of_nodup ?_ ?_).2 fun name => ?_)
  · exact (Host.nodup_lookupKeys noEndDot).filter _
  · exact h.wellFormed.included.nodup.filter _
  · rw [DomainSet.matching, List.mem_filter, List.mem_filter, isFiled, DomainSet.keys,
      if_neg h.named, List.contains_iff_mem, decide_eq_true_iff, and_comm]
    refine and_congr_right fun member => ?_
    exact Host.mem_lookupKeys (h.wellFormed.named name (.inl member)) (h.small name member) small
      noEndDot

/-- A filter that runs calls is active where it matches and does not avoid. -/
theorem Bound.isActiveOn_iff {filter : SnippetFilter} (h : filter.Bound)
    (noEndDot : document.getLast? ≠ some '.') :
    filter.domains.lists.isActiveOn document = .ok true ↔
      filter.domains.lists.isExcludedOn document = .ok false ∧
        filter.domains.matching document ≠ [] := by
  have some : (∃ name ∈ filter.domains.included, Host.domainMatches name document = .ok true) ↔
      filter.domains.matching document ≠ [] := by
    simp [DomainSet.matching, List.filter_eq_nil_iff]
  rw [h.wellFormed.isActiveOn_iff noEndDot, or_iff_right h.named, some]

/-- The keys under which a filter runs in a document are as many as its domains that match, if it is
active there, and none otherwise. -/
theorem Bound.countP_runsUnder {filter : SnippetFilter} (h : filter.Bound)
    (small : document.lower = document) (noEndDot : document.getLast? ≠ some '.') :
    (Host.lookupKeys document).countP (filter.runsUnder document ·) = filter.runs document := by
  have listed := h.countP_lookupKeys small noEndDot
  have active := h.isActiveOn_iff noEndDot
  unfold runs runsUnder
  by_cases avoided : filter.domains.lists.isExcludedOn document = .ok false
  · simp only [avoided, and_true, Bool.decide_eq_true, true_and] at active ⊢
    rw [listed]
    by_cases none : filter.domains.matching document = []
    · rw [none, List.length_nil, ite_self]
    · rw [if_pos (active.2 none)]
  · simp [active, avoided]

theorem count_runOrder (bound : ∀ filter ∈ members, filter.Bound)
    (small : document.lower = document) (noEndDot : document.getLast? ≠ some '.')
    (i : Fin members.length) :
    (runOrder members document).count i = members[i].runs document := by
  have h : members[i].Bound := bound _ (List.getElem_mem i.isLt)
  rw [runOrder, count_flatMap_filter (List.nodup_finRange _) _ (List.mem_finRange i)]
  exact h.countP_runsUnder small noEndDot

theorem Bound.runs_pos_iff {filter : SnippetFilter} (h : filter.Bound)
    (noEndDot : document.getLast? ≠ some '.') :
    0 < filter.runs document ↔ filter.domains.lists.isActiveOn document = .ok true := by
  rw [runs]
  by_cases active : filter.domains.lists.isActiveOn document = .ok true
  · rw [if_pos active, List.length_pos_iff]
    exact iff_of_true ((h.isActiveOn_iff noEndDot).1 active).2 active
  · rw [if_neg active]
    exact iff_of_false (Nat.lt_irrefl 0) active

theorem mem_runOrder_iff (bound : ∀ filter ∈ members, filter.Bound)
    (small : document.lower = document) (noEndDot : document.getLast? ≠ some '.')
    (i : Fin members.length) :
    i ∈ runOrder members document ↔
      members[i].domains.lists.isActiveOn document = .ok true := by
  have h : members[i].Bound := bound _ (List.getElem_mem i.isLt)
  rw [← List.count_pos_iff, count_runOrder bound small noEndDot, h.runs_pos_iff noEndDot]

/-- Each active filter runs once just if none of them names two domains that match. -/
theorem runsOnce_runOrder_iff (bound : ∀ filter ∈ members, filter.Bound)
    (small : document.lower = document) (noEndDot : document.getLast? ≠ some '.') :
    RunsOnce members document (callsOf members (runOrder members document)) ↔
      ∀ filter ∈ members, filter.domains.lists.isActiveOn document = .ok true →
        (filter.domains.matching document).length ≤ 1 := by
  have counts := count_runOrder bound small noEndDot
  have positive : ∀ i : Fin members.length, 0 < members[i].runs document ↔
      members[i].domains.lists.isActiveOn document = .ok true :=
    fun i => (bound _ (List.getElem_mem i.isLt)).runs_pos_iff noEndDot
  constructor
  · rintro ⟨order, same, once⟩ filter member active
    obtain ⟨n, inside, rfl⟩ := List.getElem_of_mem member
    have within : order.Subperm (runOrder members document) := by
      refine List.subperm_ext_iff.2 fun i _ => ?_
      rw [once, counts]
      split
      · rename_i here
        exact (positive i).2 here
      · exact Nat.zero_le _
    have reordered := perm_of_flatMap_eq
      (fun i : Fin members.length => (bound _ (List.getElem_mem i.isLt)).calls) within same.symm
    have count := reordered.count_eq ⟨n, inside⟩
    rw [once, counts, runs] at count
    simp only [Fin.getElem_fin, if_pos active] at count
    exact count.ge
  · intro single
    refine ⟨_, rfl, fun i => ?_⟩
    rw [counts]
    split
    · rename_i active
      have least := (positive i).2 active
      rw [runs, if_pos active] at least ⊢
      exact Nat.le_antisymm (single _ (List.getElem_mem i.isLt) active) least
    · rename_i inactive
      rw [runs, if_neg inactive]

end SnippetFilter

namespace Subscription

open SnippetFilter

variable {s : Subscription} {filters : List Filter} {metadata : Metadata} {source : Text}
  {document : Text}

theorem calls_eq_ok [Host.SuffixList]
    (contains : s.snapshot.Contains (Builder.ofFilters filters) metadata source)
    (wellFormed : ∀ filter ∈ filters, filter.WellFormed)
    (noEndDot : document.getLast? ≠ some '.') :
    s.calls document = .ok (callsOf (filters.filterMap Filter.snippet?)
      (runOrder (filters.filterMap Filter.snippet?) document.lower)) := by
  have files := Builder.files_snippets wellFormed
  have reads := contains.snippet? (Builder.gathered_ofFilters filters)
  have lowerEnd := Text.getLast?_lower_ne_dot noEndDot
  rw [callsOf_runOrder, Subscription.calls]
  refine flatMapM_ok fun key _ => ?_
  dsimp only
  rw [contains.filterMap_lookup files reads,
    filterM_ok fun filter _ => filter.lists.not_isExcludedOn_ok lowerEnd, List.filter_map,
    List.filter_filter]
  show Except.ok (List.flatMap IndexedSnippet.calls (List.map indexed _)) = _
  rw [List.flatMap_map]
  refine congrArg (fun kept : List SnippetFilter => Except.ok (kept.flatMap SnippetFilter.calls)) ?_
  refine List.filter_congr fun filter _ => ?_
  rw [runsUnder, Bool.decide_and, Bool.decide_eq_true, Bool.and_comm]
  rfl

/-- The calls for a document are those of the filters that are active on it, in the order in which
they run: each of them as often as it names domains that match. Each runs once just if none names
two. -/
theorem calls_buildIndex [RegexEngine] [Host.SuffixList] {privileged : Bool} {lines : List Text}
    {metadata : Metadata} {source : Text}
    (fits : (buildIndex (Filter.ofLines privileged lines) metadata source).size < 2 ^ 32) :
    let members := (Filter.ofLines privileged lines).filterMap Filter.snippet?
    ∃ snapshot, Snapshot.load (buildIndex (Filter.ofLines privileged lines) metadata source) =
        .ok snapshot ∧
      ∀ s : Subscription, s.snapshot = snapshot → ∀ document : Text,
        document.getLast? ≠ some '.' → ∃ order : List (Fin members.length),
          s.calls document = .ok (callsOf members order) ∧
          (∀ i, (i ∈ order ↔
              members[i].domains.lists.isActiveOn document.lower = .ok true) ∧
            order.count i = members[i].runs document.lower) ∧
          (RunsOnce members document.lower (callsOf members order) ↔
            ∀ filter ∈ members, filter.domains.lists.isActiveOn document.lower = .ok true →
              (filter.domains.matching document.lower).length ≤ 1) := by
  intro members
  have wellFormed := Filter.wellFormed_ofLines privileged lines
  have bound : ∀ filter ∈ members, filter.Bound := fun _ => Filter.bound_of_mem_snippets
  obtain ⟨snapshot, loaded, contains⟩ := Builder.load_ofFilters fits
  refine ⟨snapshot, loaded, ?_⟩
  rintro s rfl document noEndDot
  have small : document.lower.lower = document.lower := Text.lower_lower document
  have lowerEnd := Text.getLast?_lower_ne_dot noEndDot
  exact ⟨_, calls_eq_ok contains wellFormed noEndDot,
    fun i => ⟨mem_runOrder_iff bound small lowerEnd i, count_runOrder bound small lowerEnd i⟩,
    runsOnce_runOrder_iff bound small lowerEnd⟩

/-- A filter that is active through one of its domains runs once, one that matches with and without
registry twice, and one that avoids the document does not run. -/
theorem calls_buildIndex_three_filters :
    let lines : List Text :=
      ["example.com,other.example#$#log hello; trace", "example.*,www.example.com#$#hide 'a b'",
        "~www.example.com,example.com#$#race"]
    let members := (Filter.ofLines true lines).filterMap Filter.snippet?
    (buildIndex (Filter.ofLines true lines) .absent []).size < 2 ^ 32 ∧
      "WWW.example.com".toList.getLast? ≠ some '.' ∧
      ∃ snapshot, Snapshot.load (buildIndex (Filter.ofLines true lines) .absent []) =
          .ok snapshot ∧
        ∀ s : Subscription, s.snapshot = snapshot → ∃ order : List (Fin members.length),
          s.calls "WWW.example.com" = .ok (callsOf members order) ∧
          (List.finRange members.length).map order.count = [1, 2, 0] := by
  intro lines members
  have fits : (buildIndex (Filter.ofLines true lines) .absent []).size < 2 ^ 32 :=
    size_buildIndex_lt (by decide +kernel)
  have noEndDot : "WWW.example.com".toList.getLast? ≠ some '.' := by decide
  obtain ⟨snapshot, loaded, runs⟩ := calls_buildIndex fits
  refine ⟨fits, noEndDot, snapshot, loaded, fun s installed => ?_⟩
  obtain ⟨order, calls, counts, -⟩ := runs s installed "WWW.example.com" noEndDot
  refine ⟨order, calls, ?_⟩
  rw [List.map_congr_left fun i _ => (counts i).2]
  decide +kernel

/-- A filter that names a host and the domain above it runs twice on the host. -/
theorem not_runsOnce_calls :
    ¬ ∀ [RegexEngine] [Host.SuffixList] (lines : List Text) (metadata : Metadata) (source : Text),
      (buildIndex (Filter.ofLines true lines) metadata source).size < 2 ^ 32 →
      ∀ s : Subscription, Snapshot.load (buildIndex (Filter.ofLines true lines) metadata source) =
          .ok s.snapshot →
        ∀ document : Text, document.getLast? ≠ some '.' →
          ∃ calls, s.calls document = .ok calls ∧
            RunsOnce ((Filter.ofLines true lines).filterMap Filter.snippet?) document.lower
              calls := by
  intro claimed
  let lines : List Text := ["example.com,www.example.com#$#log hello"]
  have fits : (buildIndex (Filter.ofLines true lines) .absent []).size < 2 ^ 32 :=
    size_buildIndex_lt (by decide +kernel)
  have wellFormed := Filter.wellFormed_ofLines true lines
  obtain ⟨snapshot, loaded, contains⟩ := Builder.load_ofFilters fits
  have noEndDot : "www.example.com".toList.getLast? ≠ some '.' := by decide
  let s : Subscription := ⟨snapshot, 0, .installed, 0⟩
  have answers : s.calls "www.example.com" = .ok _ := calls_eq_ok contains wellFormed noEndDot
  obtain ⟨calls, answered, once⟩ :=
    claimed lines .absent [] fits s loaded "www.example.com" noEndDot
  rw [answers, Except.ok.injEq] at answered
  rw [← answered, runsOnce_runOrder_iff (fun _ => Filter.bound_of_mem_snippets)
    (Text.lower_lower _) (Text.getLast?_lower_ne_dot noEndDot)] at once
  revert once
  decide +kernel

end Subscription

end ContentBlocker
