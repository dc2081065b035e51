import ContentBlocker.Proofs.Filter.Elements
import ContentBlocker.Proofs.Host.LookupKeys
import ContentBlocker.Proofs.Index.Filed
import ContentBlocker.Proofs.Index.RoundTrip
import ContentBlocker.Proofs.Matching.Answers
import ContentBlocker.Reference.Engine
import ContentBlocker.Reference.Suffixes
import ContentBlocker.Subscription.Basic
/-!
# Looking up filters on elements finds the active ones

A filter on elements is filed under the domains that it names, and looked up under the names that
match a document. What is found in this way is what going through all filters would find: the
filters that are active on the document.
-/

namespace ContentBlocker

namespace DomainLists

variable [Host.SuffixList] {document : Text}

theorem anyMatches_iff (names : List Text) (noEndDot : document.getLast? ≠ some '.') :
    anyMatches names document = .ok true ↔
      ∃ name ∈ names, Host.domainMatches name document = .ok true := by
  induction names with
  | nil => simp [anyMatches, pure, Except.pure]
  | cons name rest ih =>
    obtain ⟨first, matched⟩ := Host.domainMatches_ok name noEndDot
    unfold anyMatches at ih ⊢
    rw [List.anyM_cons, matched]
    cases first with
    | true => simp [matched, bind, Except.bind, pure, Except.pure]
    | false => simpa [matched, bind, Except.bind] using ih

/-- Whether a filter may act on a document that does not end in a dot is always decided. -/
theorem not_isExcludedOn_ok (lists : DomainLists) (noEndDot : document.getLast? ≠ some '.') :
    (return !(← lists.isExcludedOn document) : Except Host.Fault Bool) =
      .ok (lists.isExcludedOn document = .ok false) := by
  obtain ⟨excluded, decided⟩ := anyMatches_ok lists.excluded noEndDot
  have avoids : lists.isExcludedOn document = .ok excluded := decided
  rw [avoids]
  cases excluded <;> rfl

end DomainLists

/-- A filter is active on a document that it does not avoid, if it needs no domain or needs one that
matches. -/
theorem DomainSet.WellFormed.isActiveOn_iff [Host.SuffixList] {domains : DomainSet}
    (h : domains.WellFormed) {document : Text} (noEndDot : document.getLast? ≠ some '.') :
    domains.lists.isActiveOn document = .ok true ↔
      domains.lists.isExcludedOn document = .ok false ∧ (domains.included = [] ∨
        ∃ name ∈ domains.included, Host.domainMatches name document = .ok true) := by
  have generic : domains.lists.isGeneric = domains.isEmpty := h.isGeneric []
  have named : domains.lists.included.filter (· ≠ []) = domains.included := by
    refine List.filter_eq_self.2 fun name member => ?_
    exact decide_eq_true (h.named name (.inl member))
  rw [← DomainLists.anyMatches_iff _ noEndDot]
  unfold DomainLists.isActiveOn
  rw [generic, named]
  by_cases none : domains.isEmpty
  · simp only [DomainSet.isEmpty, Bool.and_eq_true, List.isEmpty_iff] at none
    have avoidsNothing : domains.lists.isExcludedOn document = .ok false := by
      rw [DomainLists.isExcludedOn, show domains.lists.excluded = [] from none.2]
      rfl
    simp [DomainSet.isEmpty, none, avoidsNothing]
  · rw [if_neg none]
    obtain ⟨excluded, decided⟩ := DomainLists.anyMatches_ok domains.lists.excluded noEndDot
    have avoids : domains.lists.isExcludedOn document = .ok excluded := decided
    rw [avoids]
    cases excluded with
    | true => simp [bind, Except.bind, pure, Except.pure]
    | false =>
      cases domains.included with
      | nil => simp [bind, Except.bind, pure, Except.pure]
      | cons name rest => simp [bind, Except.bind]

/-- Whether a filter is filed under a key of the sub-index of a kind. -/
def ContentFilter.isFiled (kind : ContentKind) (key : Text) (filter : ContentFilter) : Bool :=
  filter.kind = kind && filter.domains.keys.contains key

/-- The filters on elements of a kind that are active on a document; with `specific` only those that
name a domain on which they apply. -/
def activeContents [Host.SuffixList] (filters : List Filter) (kind : ContentKind)
    (document : Text) (specific : Bool) : List ContentFilter :=
  (filters.filterMap Filter.content?).filter fun filter =>
    filter.kind = kind ∧ filter.domains.lists.isActiveOn document = .ok true ∧
      (specific → filter.domains.included ≠ [])

theorem Filter.parsed_of_mem_contents [RegexEngine] {privileged : Bool} {lines : List Text}
    {filter : ContentFilter} (member : filter ∈ (ofLines privileged lines).filterMap content?) :
    ∃ line, parse privileged line = .ok (.content filter) := by
  obtain ⟨whole, there, isContent⟩ := List.mem_filterMap.1 member
  obtain ⟨line, -, read⟩ := mem_ofLines.1 there
  cases whole with
  | url _ => cases isContent
  | content found =>
    cases isContent
    exact ⟨line, read⟩
  | snippet _ => cases isContent

theorem Builder.files_contents {filters : List Filter}
    (wellFormed : ∀ filter ∈ filters, filter.WellFormed) (kind : ContentKind) :
    (ofFilters filters).Files (.content kind) (filters.filterMap Filter.content?)
      (ContentFilter.isFiled kind) := by
  refine files_ofFilters wellFormed ?_ ?_
  · rintro (filter | filter | filter) <;> rfl
  · rintro (filter | filter | filter) _ ⟨⟩ key
    simp [ContentFilter.isFiled, Filter.isFiled, eq_comm]

/-- A filter is filed under a key that is looked up for a document, and does not avoid the document,
if it is active there. -/
theorem ContentFilter.exists_key_iff [Host.SuffixList] {filter : ContentFilter}
    (wellFormed : filter.domains.WellFormed)
    (small : ∀ name ∈ filter.domains.included, name.lower = name) {document : Text}
    (smallDocument : document.lower = document) (noEndDot : document.getLast? ≠ some '.')
    (specific : Bool) :
    ((∃ key ∈ (if specific then [] else [[]]) ++ Host.lookupKeys document,
        key ∈ filter.domains.keys) ∧ filter.domains.lists.isExcludedOn document = .ok false) ↔
      filter.domains.lists.isActiveOn document = .ok true ∧
        (specific → filter.domains.included ≠ []) := by
  rw [wellFormed.isActiveOn_iff noEndDot, DomainSet.keys]
  by_cases generic : filter.domains.included = []
  · have unlisted := Host.nil_not_mem_lookupKeys noEndDot
    cases specific <;> simp [generic, unlisted]
  · have listed : (∃ key ∈ (if specific then [] else [[]]) ++ Host.lookupKeys document,
        key ∈ filter.domains.included) ↔
        ∃ name ∈ filter.domains.included, Host.domainMatches name document = .ok true := by
      constructor
      · rintro ⟨key, looked, member⟩
        have named := wellFormed.named key (.inl member)
        rw [List.mem_append] at looked
        rcases looked with blank | looked
        · cases specific <;> simp [named] at blank
        · exact ⟨key, member,
            (Host.mem_lookupKeys named (small key member) smallDocument noEndDot).1 looked⟩
      · rintro ⟨name, member, matched⟩
        have named := wellFormed.named name (.inl member)
        have looked :=
          (Host.mem_lookupKeys named (small name member) smallDocument noEndDot).2 matched
        exact ⟨name, List.mem_append_right _ looked, member⟩
    rw [if_neg generic, listed]
    simp [generic, and_comm]

namespace Subscription

variable {s : Subscription} {filters : List Filter} {metadata : Metadata} {source : Text}
  {document : Text}

section Filed

variable [Host.SuffixList]

/-- The filters of a kind under a key that do not avoid a document. -/
def contentsFiled (filters : List Filter) (kind : ContentKind) (document key : Text) :
    List ContentFilter :=
  (filters.filterMap Filter.content?).filter fun filter =>
    filter.isFiled kind key ∧ filter.domains.lists.isExcludedOn document = .ok false

/-- Looking up filters does not break off for a document that does not end in a dot. -/
theorem contentUnder_eq_ok (s : Subscription) (noEndDot : document.getLast? ≠ some '.')
    (kind : ContentKind) (key : Text) :
    s.contentUnder kind document key = .ok
      (((s.snapshot.lookup (.content kind) key).filterMap fun id =>
        s.snapshot.content? id.toNat).filter fun filter =>
          filter.lists.isExcludedOn document = .ok false) :=
  filterM_ok fun filter _ => filter.lists.not_isExcludedOn_ok noEndDot

theorem contentUnder_ok (contains : s.snapshot.Contains (Builder.ofFilters filters) metadata source)
    (wellFormed : ∀ filter ∈ filters, filter.WellFormed)
    (noEndDot : document.getLast? ≠ some '.') (kind : ContentKind) (key : Text) :
    s.contentUnder kind document key =
      .ok ((contentsFiled filters kind document key).map ContentFilter.indexed) := by
  have files := Builder.files_contents wellFormed kind
  have reads := contains.content? (Builder.gathered_ofFilters filters)
  rw [s.contentUnder_eq_ok noEndDot, contains.filterMap_lookup files reads,
    List.filter_map, List.filter_filter]
  refine congrArg (fun kept : List ContentFilter => Except.ok (kept.map ContentFilter.indexed)) ?_
  refine List.filter_congr fun filter _ => ?_
  rw [Bool.decide_and, Bool.decide_eq_true, Bool.and_comm]
  rfl

/-- What the filters under a key say about hiding in a document. -/
def hidingFiled (filters : List Filter) (document key : Text) : ContentData :=
  { ContentData.empty with
    selectors := (contentsFiled filters .hide document key).map ContentFilter.selector
    exceptions := (contentsFiled filters .hideException document key).map ContentFilter.selector }

/-- What the other filters under a key say, and those that keep from hiding. -/
def emulationFiled (filters : List Filter) (document key : Text) : ContentData :=
  { selectors := (contentsFiled filters .emulation document key).map ContentFilter.selector
    exceptions := (contentsFiled filters .hideException document key).map ContentFilter.selector
    removed := (contentsFiled filters .remove document key).map ContentFilter.selector
    inlineCss := (contentsFiled filters .inlineCss document key).map fun filter =>
      (filter.selector, filter.css) }

theorem hidingUnder_ok (contains : s.snapshot.Contains (Builder.ofFilters filters) metadata source)
    (wellFormed : ∀ filter ∈ filters, filter.WellFormed)
    (noEndDot : document.getLast? ≠ some '.') (key : Text) :
    s.hidingUnder document key = .ok (hidingFiled filters document key) := by
  have under := contentUnder_ok contains wellFormed noEndDot
  rw [hidingUnder, under, under]
  simp [bind, Except.bind, pure, Except.pure, hidingFiled, Function.comp_def, ContentFilter.indexed]

theorem emulationUnder_ok
    (contains : s.snapshot.Contains (Builder.ofFilters filters) metadata source)
    (wellFormed : ∀ filter ∈ filters, filter.WellFormed)
    (noEndDot : document.getLast? ≠ some '.') (key : Text) :
    s.emulationUnder document key = .ok (emulationFiled filters document key) := by
  have under := contentUnder_ok contains wellFormed noEndDot
  rw [emulationUnder, under, under, under, under]
  simp [bind, Except.bind, pure, Except.pure, emulationFiled, Function.comp_def,
    ContentFilter.indexed]

end Filed

/-- What is gathered under keys that all answer holds, part by part, what each of them says. -/
theorem gather_ok (keys : List Text) {under : Text → Except Host.Fault ContentData}
    {part : Text → ContentData} (answers : ∀ key, under key = .ok (part key)) :
    ∃ data, gather keys under = .ok data ∧
      ∀ {α : Type} (field : ContentData → List α), field .empty = [] →
        (∀ a b, field (a.append b) = field a ++ field b) →
        field data = keys.flatMap fun key => field (part key) := by
  have step : ∀ (rest : List Text) (start : ContentData),
      ∃ data, rest.foldlM (fun data key => return data.append (← under key)) start =
          Except.ok (ε := Host.Fault) data ∧
        ∀ {α : Type} (field : ContentData → List α),
          (∀ a b, field (a.append b) = field a ++ field b) →
          field data = field start ++ rest.flatMap fun key => field (part key) := by
    intro rest
    induction rest with
    | nil =>
      intro start
      exact ⟨start, rfl, fun field _ => (List.append_nil _).symm⟩
    | cons key rest ih =>
      intro start
      obtain ⟨data, gathered, fields⟩ := ih (start.append (part key))
      refine ⟨data, ?_, fun field splits => ?_⟩
      · rw [List.foldlM_cons, answers key]
        exact gathered
      · rw [fields field splits, splits, List.flatMap_cons, List.append_assoc]
  obtain ⟨data, gathered, fields⟩ := step keys .empty
  refine ⟨data, gathered, fun field blank splits => ?_⟩
  rw [fields field splits, blank, List.nil_append]

/-- What several items say, put together, holds part by part what each of them says. -/
theorem foldlM_append_eq_ok {ι : Type} {say : ι → Except Host.Fault ContentData} {items : List ι}
    {start data : ContentData}
    (folded : items.foldlM (fun data i => return data.append (← say i)) start = .ok data) :
    (∀ i ∈ items, ∃ said, say i = .ok said) ∧
      ∀ {α : Type} (part : ContentData → List α),
        (∀ a b, part (a.append b) = part a ++ part b) → ∀ a, a ∈ part data ↔
          a ∈ part start ∨ ∃ i ∈ items, ∃ said, say i = .ok said ∧ a ∈ part said := by
  induction items generalizing start with
  | nil =>
    cases folded
    exact ⟨nofun, fun part splits a => by simp⟩
  | cons i rest ih =>
    rw [List.foldlM_cons] at folded
    cases answered : say i with
    | error fault =>
      rw [answered] at folded
      cases folded
    | ok said =>
      rw [answered] at folded
      obtain ⟨answers, parts⟩ := ih folded
      refine ⟨?_, fun part splits a => ?_⟩
      · intro other member
        rcases List.mem_cons.1 member with rfl | member
        · exact ⟨said, answered⟩
        · exact answers other member
      · rw [parts part splits, splits, List.mem_append, or_assoc]
        simp [answered]

section Parsed

variable [RegexEngine] [Host.SuffixList] {privileged : Bool} {lines : List Text}

/-- Under the keys that are looked up for a document stand the filters that are active there. -/
theorem mem_contentsFiled_iff (smallDocument : document.lower = document)
    (noEndDot : document.getLast? ≠ some '.') (kind : ContentKind) (specific : Bool)
    {filter : ContentFilter} :
    (∃ key ∈ (if specific then [] else [[]]) ++ Host.lookupKeys document,
      filter ∈ contentsFiled (Filter.ofLines privileged lines) kind document key) ↔
      filter ∈ activeContents (Filter.ofLines privileged lines) kind document specific := by
  simp only [contentsFiled, activeContents, ContentFilter.isFiled, List.mem_filter,
    decide_eq_true_eq, Bool.and_eq_true, List.contains_iff_mem]
  by_cases member : filter ∈ (Filter.ofLines privileged lines).filterMap Filter.content?
  · obtain ⟨line, read⟩ := Filter.parsed_of_mem_contents member
    have listed := ContentFilter.exists_key_iff (Filter.wellFormed_parse read)
      (Filter.content_of_parse read).1 smallDocument noEndDot specific
    rw [← listed]
    constructor
    · rintro ⟨key, looked, -, ⟨kind, key'⟩, kept⟩
      exact ⟨member, kind, ⟨key, looked, key'⟩, kept⟩
    · rintro ⟨-, kind, ⟨key, looked, key'⟩, kept⟩
      exact ⟨key, looked, member, ⟨kind, key'⟩, kept⟩
  · simp [member]

theorem mem_flatMap_contentsFiled {α : Type} (f : ContentFilter → α)
    (smallDocument : document.lower = document) (noEndDot : document.getLast? ≠ some '.')
    (kind : ContentKind) (specific : Bool) (a : α) :
    (a ∈ ((if specific then [] else [[]]) ++ Host.lookupKeys document).flatMap fun key =>
      (contentsFiled (Filter.ofLines privileged lines) kind document key).map f) ↔
      a ∈ (activeContents (Filter.ofLines privileged lines) kind document specific).map f := by
  simp only [List.mem_flatMap, List.mem_map, ← mem_contentsFiled_iff smallDocument noEndDot]
  constructor
  · rintro ⟨key, looked, filter, filed, rfl⟩
    exact ⟨filter, ⟨key, looked, filed⟩, rfl⟩
  · rintro ⟨filter, ⟨key, looked, filed⟩, rfl⟩
    exact ⟨key, looked, filter, filed, rfl⟩

/-- Filters that do more than hide all name a domain. -/
theorem activeContents_specific {kind : ContentKind} (other : kind ≠ .hide)
    (other' : kind ≠ .hideException) (document : Text) :
    activeContents (Filter.ofLines privileged lines) kind document true =
      activeContents (Filter.ofLines privileged lines) kind document false := by
  refine List.filter_congr fun filter member => ?_
  obtain ⟨line, read⟩ := Filter.parsed_of_mem_contents member
  have bound := (Filter.content_of_parse read).2
  by_cases same : filter.kind = kind
  · have named : filter.domains.included ≠ [] := by
      intro nothing
      rcases bound nothing with hides | keeps
      · exact other (same.symm.trans hides)
      · exact other' (same.symm.trans keeps)
    simp [named]
  · simp [same]

/-- What is found for the elements of a frame is what going through all filters finds: the selectors
of the filters that hide, or keep others from it, and are active on the host of the frame; of these
only the ones that name a domain if specific filters are asked for. In the same way all active
filters of the other kinds are found. -/
theorem elementData_buildIndex {metadata : Metadata} {source : Text}
    (fits : (buildIndex (Filter.ofLines privileged lines) metadata source).size < 2 ^ 32) :
    ∃ snapshot, Snapshot.load (buildIndex (Filter.ofLines privileged lines) metadata source) =
        .ok snapshot ∧
      ∀ s : Subscription, s.snapshot = snapshot → ∀ url, (frameHost url).getLast? ≠ some '.' →
        let active kind := activeContents (Filter.ofLines privileged lines) kind (frameHost url)
        (∀ specific, ∃ data, s.elementData url specific = .ok data ∧
          (∀ selector, selector ∈ data.selectors ↔
            selector ∈ (active .hide specific).map ContentFilter.selector) ∧
          (∀ selector, selector ∈ data.exceptions ↔
            selector ∈ (active .hideException specific).map ContentFilter.selector) ∧
          data.removed = [] ∧ data.inlineCss = []) ∧
        ∃ data, s.emulationData url = .ok data ∧
          (∀ selector, selector ∈ data.selectors ↔
            selector ∈ (active .emulation false).map ContentFilter.selector) ∧
          (∀ selector, selector ∈ data.removed ↔
            selector ∈ (active .remove false).map ContentFilter.selector) ∧
          (∀ rule, rule ∈ data.inlineCss ↔
            rule ∈ (active .inlineCss false).map fun filter => (filter.selector, filter.css)) ∧
          ∀ selector, selector ∈ data.exceptions ↔
            selector ∈ (active .hideException true).map ContentFilter.selector := by
  have wellFormed := Filter.wellFormed_ofLines privileged lines
  obtain ⟨snapshot, loaded, contains⟩ := Builder.load_ofFilters fits
  refine ⟨snapshot, loaded, ?_⟩
  rintro s rfl url noEndDot active
  have small : (frameHost url).lower = frameHost url := Text.lower_lower _
  refine ⟨fun specific => ?_, ?_⟩
  · obtain ⟨data, gathered, fields⟩ := gather_ok
      ((if specific then [] else [[]]) ++ Host.lookupKeys (frameHost url))
      (hidingUnder_ok contains wellFormed noEndDot)
    refine ⟨data, gathered, fun selector => ?_, fun selector => ?_, ?_, ?_⟩
    · rw [fields ContentData.selectors rfl fun _ _ => rfl]
      exact mem_flatMap_contentsFiled _ small noEndDot _ _ _
    · rw [fields ContentData.exceptions rfl fun _ _ => rfl]
      exact mem_flatMap_contentsFiled _ small noEndDot _ _ _
    · rw [fields ContentData.removed rfl fun _ _ => rfl]
      exact List.flatMap_eq_nil_iff.2 fun _ _ => rfl
    · rw [fields ContentData.inlineCss rfl fun _ _ => rfl]
      exact List.flatMap_eq_nil_iff.2 fun _ _ => rfl
  · obtain ⟨data, gathered, fields⟩ := gather_ok (Host.lookupKeys (frameHost url))
      (emulationUnder_ok contains wellFormed noEndDot)
    have all : ∀ kind, kind ≠ .hide → kind ≠ .hideException →
        active kind true = active kind false :=
      fun kind other other' => activeContents_specific other other' (frameHost url)
    refine ⟨data, gathered, fun selector => ?_, fun selector => ?_, fun rule => ?_,
      fun selector => ?_⟩
    · rw [fields ContentData.selectors rfl fun _ _ => rfl, ← all .emulation (by decide) (by decide)]
      exact mem_flatMap_contentsFiled _ small noEndDot _ true _
    · rw [fields ContentData.removed rfl fun _ _ => rfl, ← all .remove (by decide) (by decide)]
      exact mem_flatMap_contentsFiled _ small noEndDot _ true _
    · rw [fields ContentData.inlineCss rfl fun _ _ => rfl, ← all .inlineCss (by decide) (by decide)]
      exact mem_flatMap_contentsFiled _ small noEndDot _ true _
    · rw [fields ContentData.exceptions rfl fun _ _ => rfl]
      exact mem_flatMap_contentsFiled _ small noEndDot _ true _

end Parsed

theorem elementData_buildIndex_specific :
    let lines : List Text :=
      ["example.com##.ad", "##.promo", "~www.example.com##.top", "example.*#?#div:-abp-has(a)"]
    let filters := Filter.ofLines false lines
    let url : Text := "https://www.example.com/"
    ∃ snapshot, Snapshot.load (buildIndex filters .absent []) = .ok snapshot ∧
      ∀ s : Subscription, s.snapshot = snapshot →
        (∃ data, s.elementData url false = .ok data ∧
          ∀ selector ∈ ([".ad", ".promo", ".top"] : List Text),
            selector ∈ data.selectors ↔ selector ≠ ".top".toList) ∧
        ∃ data, s.emulationData url = .ok data ∧ "div:-abp-has(a)".toList ∈ data.selectors := by
  intro lines filters url
  have fits : (buildIndex filters .absent []).size < 2 ^ 32 :=
    size_buildIndex_lt (by decide +kernel)
  obtain ⟨snapshot, loaded, finds⟩ := elementData_buildIndex fits
  refine ⟨snapshot, loaded, fun s installed => ?_⟩
  obtain ⟨elements, data, emulation, selectors, -⟩ := finds s installed url (by decide +kernel)
  obtain ⟨found, answered, hidden, -⟩ := elements false
  refine ⟨⟨found, answered, fun selector member => (hidden selector).trans ?_⟩,
    data, emulation, (selectors _).2 ?_⟩
  · revert selector
    decide +kernel
  · decide +kernel

end Subscription

end ContentBlocker
