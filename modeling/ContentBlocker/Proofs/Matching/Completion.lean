import ContentBlocker.Proofs.Matching.TwoRuns
/-!
# Queries that do not break off

Only the comparison of domains can break off, and it does not for a document whose name does not end
in a dot. The search for a filter then has an answer, the same in every state of the caches.
-/

namespace ContentBlocker.Query

variable [RegexEngine] {α β : Type}

/-- The query has an answer, whatever the caches hold. -/
def Completes (q : Query α) : Prop := ∃ a, q.Gives a

theorem completes_pure (a : α) : Completes (pure a) := ⟨a, gives_pure a⟩

theorem Completes.bind {q : Query α} {f : α → Query β} (h : q.Completes)
    (h' : ∀ a, (f a).Completes) : (q >>= f).Completes := by
  obtain ⟨a, first⟩ := h
  obtain ⟨b, second⟩ := h' a
  exact ⟨b, gives_bind first second⟩

theorem completes_findM? {p : α → Query Bool} {as : List α} (h : ∀ a ∈ as, (p a).Completes) :
    (as.findM? p).Completes := by
  induction as with
  | nil => exact completes_pure none
  | cons a rest ih =>
    rw [List.findM?]
    refine (h a List.mem_cons_self).bind fun holds => ?_
    cases holds with
    | true => exact completes_pure (some a)
    | false => exact ih fun b member => h b (List.mem_cons_of_mem _ member)

theorem completes_anyM {p : α → Query Bool} {as : List α} (h : ∀ a ∈ as, (p a).Completes) :
    (as.anyM p).Completes := by
  rw [anyM_eq_findM?]
  exact (completes_findM? h).bind fun _ => completes_pure _

theorem completes_firstSome {qs : List (Query (Option α))} (h : ∀ q ∈ qs, q.Completes) :
    (firstSome qs).Completes := by
  induction qs with
  | nil => exact completes_pure none
  | cons q rest ih =>
    rw [firstSome]
    refine (h q List.mem_cons_self).bind fun answer => ?_
    cases answer with
    | some a => exact completes_pure (some a)
    | none => exact ih fun other member => h other (List.mem_cons_of_mem _ member)

section Find

variable (slot : Nat) (url : Text)

theorem completes_test (filter : IndexedUrl) : (test slot url filter).Completes :=
  ⟨_, gives_test slot url filter⟩

theorem completes_groupMayMatch (matchCase : Bool) (group : List IndexedUrl) :
    (groupMayMatch slot url matchCase group).Completes := by
  match group with
  | [] => exact completes_pure false
  | [filter] => exact completes_test slot url filter
  | first :: second :: rest => exact ⟨_, gives_merged slot url matchCase first second rest⟩

theorem completes_findInGroup (matchCase : Bool) (group : List IndexedUrl) :
    (findInGroup slot url matchCase group).Completes := by
  unfold findInGroup
  refine (completes_groupMayMatch slot url matchCase group).bind fun may => ?_
  cases may with
  | true => exact completes_findM? fun filter _ => completes_test slot url filter
  | false => exact completes_pure none

theorem completes_findAmong (candidates : List IndexedUrl) :
    (findAmong slot url candidates).Completes := by
  unfold findAmong
  split
  · exact completes_pure _
  · refine completes_firstSome fun q member => ?_
    simp only [List.mem_cons, List.not_mem_nil, or_false] at member
    rcases member with rfl | rfl | rfl
    · exact completes_findInGroup _ _ _ _
    · exact completes_findInGroup _ _ _ _
    · exact completes_findM? fun filter _ => completes_test slot url filter

/-- The search for a filter does not break off if the document does not end in a dot. -/
theorem completes_findFirst [Host.SuffixList] (s : Snapshot) (index : SubIndex)
    {query : UrlQuery} (noEndDot : query.document.getLast? ≠ some '.') :
    (findFirst s slot index query).Completes := by
  unfold findFirst
  split
  · exact completes_pure none
  · refine completes_firstSome fun q member => ?_
    obtain ⟨keyword, -, rfl⟩ := List.mem_map.1 member
    rw [candidates_ok s index keyword noEndDot]
    exact Completes.bind ⟨_, gives_ok _⟩ fun candidates => completes_findAmong slot _ candidates

end Find

end ContentBlocker.Query
