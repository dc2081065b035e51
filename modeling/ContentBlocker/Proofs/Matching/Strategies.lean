import ContentBlocker.Proofs.Matching.Buckets
import ContentBlocker.Reference.Engine
import ContentBlocker.Reference.Suffixes
/-!
# Testing one by one and testing merged patterns

Looking for the first filter that matches finds one exactly when testing every candidate does, and
what it finds is among what testing every candidate finds. About the engines it is only assumed that
an alternation that answers does so for its members (`MergesSoundly`): patterns that are empty,
refer to groups, stand alone, or whose alternation is rejected or gives up are tested themselves.
-/

namespace ContentBlocker.Query

/-- A search for a member with a property either found one, or there is none. -/
def Finds {α : Type} (holds : α → Bool) (as : List α) : Option α → Prop
  | some a => a ∈ as ∧ holds a = true
  | none => ∀ a ∈ as, holds a = false

section Finds

variable {α : Type} {holds : α → Bool} {as : List α}

theorem finds_find? (holds : α → Bool) (as : List α) : Finds holds as (as.find? holds) := by
  cases found : as.find? holds with
  | none =>
    intro a member
    exact Bool.eq_false_iff.2 (List.find?_eq_none.1 found a member)
  | some a => exact ⟨List.mem_of_find?_eq_some found, List.find?_some found⟩

/-- Searching several lists in turn searches all that their members make up. -/
theorem Finds.findSome? {parts : List (List α)} {found : List (Option α)}
    (h : List.Forall₂ (fun part answer => Finds holds part answer) parts found)
    (members : ∀ a, a ∈ as ↔ ∃ part ∈ parts, a ∈ part) : Finds holds as (found.findSome? id) := by
  have inParts : ∀ {parts found},
      List.Forall₂ (fun part answer => Finds holds part answer) parts found →
        Finds holds parts.flatten (found.findSome? id) := by
    intro parts found h
    induction h with
    | nil => simp [Finds]
    | @cons part answer parts found first _ ih =>
      rw [List.findSome?_cons, List.flatten_cons]
      cases answer with
      | some a => exact ⟨List.mem_append_left _ first.1, first.2⟩
      | none =>
        simp only [id]
        cases later : found.findSome? id with
        | some a =>
          rw [later] at ih
          exact ⟨List.mem_append_right _ ih.1, ih.2⟩
        | none =>
          rw [later] at ih
          intro a member
          exact (List.mem_append.1 member).elim (first a) (ih a)
  have all := inParts h
  cases answer : found.findSome? id with
  | some a =>
    rw [answer] at all
    exact ⟨(members a).2 (List.mem_flatten.1 all.1), all.2⟩
  | none =>
    rw [answer] at all
    exact fun a member => all a (List.mem_flatten.2 ((members a).1 member))

end Finds

/-- The candidates of one case mode whose patterns may be merged. -/
def mergeable (matchCase : Bool) (candidates : List IndexedUrl) : List IndexedUrl :=
  candidates.filter fun filter => !hasReference filter.source && filter.matchCase == matchCase

theorem mergeable_true (candidates : List IndexedUrl) :
    mergeable true candidates =
      (candidates.filter (not ∘ fun filter => hasReference filter.source)).filter
        (·.matchCase) := by
  rw [List.filter_filter, mergeable]
  congr 1
  funext filter
  cases filter.matchCase <;> simp

theorem mergeable_false (candidates : List IndexedUrl) :
    mergeable false candidates =
      (candidates.filter (not ∘ fun filter => hasReference filter.source)).filter
        (not ∘ (·.matchCase)) := by
  rw [List.filter_filter, mergeable]
  congr 1
  funext filter
  cases matchCase : filter.matchCase <;> simp [matchCase]

/-- Every candidate is in one of the three groups. -/
theorem mem_groups (candidates : List IndexedUrl) (filter : IndexedUrl) :
    filter ∈ candidates ↔ ∃ part ∈ [mergeable false candidates, mergeable true candidates,
      candidates.filter fun filter => hasReference filter.source], filter ∈ part := by
  cases reference : hasReference filter.source <;> cases matchCase : filter.matchCase <;>
    simp [mergeable, reference, matchCase]

section Engine

variable [RegexEngine]

/-- What is assumed of the engines: if an alternation of at least two patterns is valid and its
search answers, it answers whether one of the patterns matches. -/
def MergesSoundly (url : Text) (matchCase : Bool) (group : List IndexedUrl) : Prop :=
  2 ≤ group.length →
    let p := CompiledPattern.compile (alternation (group.map IndexedUrl.source)) matchCase
    p.isValid = true → ∀ answer, p.tryMatch url = some answer →
      answer = group.any (·.matchesUrl url)

instance (url : Text) (matchCase : Bool) (group : List IndexedUrl) :
    Decidable (MergesSoundly url matchCase group) :=
  inferInstanceAs (Decidable (_ → _))

/-- A group is given up only where a valid alternation says that nothing matches. -/
theorem mergedAnswer_eq_false {count : Nat} {p : CompiledPattern} {answer : Option Bool}
    (h : (mergedAnswer count p answer).1 = false) : p.isValid = true ∧ answer = some false := by
  unfold mergedAnswer at h
  split at h
  · cases h
  · rename_i valid
    refine ⟨by simpa using valid, ?_⟩
    rcases answer with _ | found
    · cases h
    · exact congrArg some h

theorem gives_groupMayMatch (slot : Nat) {url : Text} {matchCase : Bool} {group : List IndexedUrl}
    (merges : MergesSoundly url matchCase group) :
    ∃ may, (groupMayMatch slot url matchCase group).Gives may ∧
      (may = false → ∀ filter ∈ group, filter.matchesUrl url = false) := by
  match group with
  | [] => exact ⟨false, gives_pure false, fun _ _ member => absurd member List.not_mem_nil⟩
  | [filter] =>
    refine ⟨_, gives_test slot url filter, fun misses other member => ?_⟩
    rw [List.mem_singleton.1 member]
    exact misses
  | first :: second :: rest =>
    let group := first :: second :: rest
    let p := CompiledPattern.compile (alternation (group.map IndexedUrl.source)) matchCase
    refine ⟨(mergedAnswer group.length p (p.tryMatch url)).1,
      gives_merged slot url matchCase first second rest, ?_⟩
    intro misses filter member
    have two : 2 ≤ group.length := Nat.le_add_left 2 rest.length
    obtain ⟨valid, answered⟩ := mergedAnswer_eq_false misses
    have none := (merges two valid false answered).symm
    rw [List.any_eq_false] at none
    exact Bool.eq_false_iff.2 (none filter member)

theorem gives_findInGroup (slot : Nat) {url : Text} {matchCase : Bool} {group : List IndexedUrl}
    (merges : MergesSoundly url matchCase group) :
    ∃ found, (findInGroup slot url matchCase group).Gives found ∧
      Finds (·.matchesUrl url) group found := by
  obtain ⟨may, answers, misses⟩ := gives_groupMayMatch slot merges
  cases may with
  | false =>
    exact ⟨none, gives_bind answers (gives_pure none), misses rfl⟩
  | true =>
    refine ⟨_, gives_bind answers ?_, finds_find? (·.matchesUrl url) group⟩
    exact gives_findM? fun filter _ => gives_test slot url filter

theorem matchesUrl_of_source_eq_nil {filter : IndexedUrl} (blank : filter.source = [])
    (url : Text) : filter.matchesUrl url = true := by
  rw [IndexedUrl.matchesUrl, blank]
  rfl

/-- Among the candidates under one word, the special cases and the groups lose none that matches. -/
theorem gives_findAmong (slot : Nat) {url : Text} {candidates : List IndexedUrl}
    (merges : ∀ matchCase, MergesSoundly url matchCase (mergeable matchCase candidates)) :
    ∃ found, (findAmong slot url candidates).Gives found ∧
      Finds (·.matchesUrl url) candidates found := by
  rw [findAmong]
  cases blank : candidates.find? fun filter => filter.source = [] with
  | some filter =>
    have empty := List.find?_some blank
    simp only [decide_eq_true_eq] at empty
    exact ⟨some filter, gives_pure _, List.mem_of_find?_eq_some blank,
      matchesUrl_of_source_eq_nil empty url⟩
  | none =>
    let alone := candidates.filter fun filter => hasReference filter.source
    obtain ⟨inFolded, givesFolded, findsFolded⟩ := gives_findInGroup slot (merges false)
    obtain ⟨inExact, givesExact, findsExact⟩ := gives_findInGroup slot (merges true)
    have givesAlone : Gives (alone.findM? (test slot url)) (alone.find? (·.matchesUrl url)) :=
      gives_findM? fun filter _ => gives_test slot url filter
    have findsAlone := finds_find? (·.matchesUrl url) alone
    rw [mergeable_false] at givesFolded
    rw [mergeable_true] at givesExact
    refine ⟨_, ?_, Finds.findSome? (.cons findsFolded (.cons findsExact (.cons findsAlone .nil)))
      (mem_groups candidates)⟩
    simp only [List.partition_eq_filter_filter]
    exact gives_firstSome (.cons givesFolded (.cons givesExact (.cons givesAlone .nil)))

variable [Host.SuffixList]

/-- Looking for the first filter finds one among all candidates, if any of them matches. -/
theorem gives_findFirst (s : Snapshot) (slot : Nat) (index : SubIndex) {query : UrlQuery}
    (noEndDot : query.document.getLast? ≠ some '.') (keys : s.keyCount index ≠ 0)
    (merges : ∀ keyword ∈ query.keywords, ∀ matchCase, MergesSoundly query.url matchCase
      (mergeable matchCase (candidatesUnder s index query keyword))) :
    ∃ found, (findFirst s slot index query).Gives found ∧
      Finds (·.matchesUrl query.url) (query.keywords.flatMap (candidatesUnder s index query))
        found := by
  have underWords : ∀ keywords : List Text, (∀ keyword ∈ keywords, keyword ∈ query.keywords) →
      ∃ answers, List.Forall₂ Gives (keywords.map fun keyword => do
          findAmong slot query.url (← s.candidates index query keyword)) answers ∧
        List.Forall₂ (fun part answer => Finds (·.matchesUrl query.url) part answer)
          (keywords.map (candidatesUnder s index query)) answers := by
    intro keywords
    induction keywords with
    | nil => exact fun _ => ⟨[], .nil, .nil⟩
    | cons keyword rest ih =>
      intro known
      obtain ⟨answers, gives, finds⟩ := ih fun other member => known other (.tail _ member)
      obtain ⟨answer, given, found⟩ := gives_findAmong slot (merges keyword (known _ (.head _)))
      refine ⟨answer :: answers, .cons ?_ gives, .cons found finds⟩
      dsimp only
      rw [candidates_ok s index keyword noEndDot]
      exact gives_bind (gives_ok _) given
  obtain ⟨answers, gives, finds⟩ := underWords query.keywords fun _ member => member
  refine ⟨_, ?_, Finds.findSome? finds fun filter => ?_⟩
  · rw [findFirst, if_neg keys]
    exact gives_firstSome gives
  · simp only [List.mem_flatMap, List.mem_map]
    constructor
    · rintro ⟨keyword, member, there⟩
      exact ⟨_, ⟨keyword, member, rfl⟩, there⟩
    · rintro ⟨_, ⟨keyword, member, rfl⟩, there⟩
      exact ⟨keyword, member, there⟩

end Engine

end ContentBlocker.Query
