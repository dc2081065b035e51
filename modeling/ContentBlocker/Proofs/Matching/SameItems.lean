import ContentBlocker.Proofs.Matching.TwoRuns
/-!
# Going through the same items in any order

What a search over queries finds, or a collection over them gathers, is a matter of the answers that
the queries can give: the order of the items, and how often each of them is asked, only decides
which of several items is found first.
-/

namespace ContentBlocker

/-- Two lists hold the same items, in any order and with any repetitions. -/
def SameMembers {α : Type} (as bs : List α) : Prop := ∀ a, a ∈ as ↔ a ∈ bs

namespace SameMembers

variable {α β : Type} {as bs : List α}

theorem filter (same : SameMembers as bs) (p : α → Bool) :
    SameMembers (as.filter p) (bs.filter p) := by
  intro a
  rw [List.mem_filter, List.mem_filter, same a]

theorem isEmpty (same : SameMembers as bs) : as.isEmpty = bs.isEmpty := by
  rw [Bool.eq_iff_iff, List.isEmpty_iff, List.isEmpty_iff, List.eq_nil_iff_forall_not_mem,
    List.eq_nil_iff_forall_not_mem]
  exact forall_congr' fun a => not_congr (same a)

end SameMembers

namespace Query

variable [RegexEngine] {α β : Type}

/-- A steady query has one answer at most. -/
theorem Steady.canGive_iff {q : Query α} (h : q.Steady) {a b : α} (given : q.CanGive a) :
    q.CanGive b ↔ b = a := by
  constructor
  · rintro ⟨state, given'⟩
    obtain ⟨state', given⟩ := given
    exact h state state' b a given' given
  · rintro rfl
    exact given

theorem relates_of_ensures {R : α → β → Prop} {P : α → Prop} {Q : β → Prop} {q : Query α}
    {q' : Query β} (h : q.Ensures P) (h' : q'.Ensures Q) (both : ∀ a b, P a → Q b → R a b) :
    Relates R q q' :=
  fun state state' a b answered answered' =>
    both a b (h state a answered) (h' state' b answered')

section Searches

variable {p : α → Query Bool} {as bs : List α}

theorem ensures_findM? (h : ∀ a, (p a).Steady) (as : List α) :
    (as.findM? p).Ensures fun found => found.isSome ↔ ∃ a ∈ as, (p a).CanGive true := by
  induction as with
  | nil => exact ensures_pure (by simp)
  | cons a rest ih =>
    rw [List.findM?]
    refine ensures_bind (ensures_canGive (p a)) fun holds given => ?_
    cases holds with
    | true => exact ensures_pure ⟨fun _ => ⟨a, List.mem_cons_self, given⟩, fun _ => rfl⟩
    | false =>
      refine ih.mono fun found rest => ?_
      rw [rest]
      simp [(h a).canGive_iff given]

theorem ensures_firstSome {qs : List (Query (Option α))} (h : ∀ q ∈ qs, q.Steady) :
    (firstSome qs).Ensures fun found => found.isSome ↔ ∃ q ∈ qs, ∃ a, q.CanGive (some a) := by
  induction qs with
  | nil => exact ensures_pure (by simp)
  | cons q rest ih =>
    rw [firstSome]
    refine ensures_bind (ensures_canGive q) fun answer given => ?_
    cases answer with
    | some a => exact ensures_pure ⟨fun _ => ⟨q, List.mem_cons_self, a, given⟩, fun _ => rfl⟩
    | none =>
      refine (ih fun other member => h other (List.mem_cons_of_mem _ member)).mono
        fun found rest => ?_
      rw [rest]
      simp [(h q List.mem_cons_self).canGive_iff given]

theorem relates_findM?_of_same (h : ∀ a, (p a).Steady) (same : SameMembers as bs) :
    Relates (fun found found' => found.isSome = found'.isSome) (as.findM? p) (bs.findM? p) := by
  refine relates_of_ensures (ensures_findM? h as) (ensures_findM? h bs)
    fun found found' is is' => ?_
  rw [Bool.eq_iff_iff, is, is']
  simp only [same _]

theorem relates_anyM_of_same (h : ∀ a, (p a).Steady) (same : SameMembers as bs) :
    Relates Eq (as.anyM p) (bs.anyM p) := by
  rw [anyM_eq_findM?, anyM_eq_findM?]
  exact relates_bind (relates_findM?_of_same h same) fun _ _ alike => relates_pure alike

theorem relates_firstSome_of_same {ι : Type} {f : ι → Query (Option α)} {items items' : List ι}
    (h : ∀ i, (f i).Steady) (same : SameMembers items items') :
    Relates (fun found found' => found.isSome = found'.isSome) (firstSome (items.map f))
      (firstSome (items'.map f)) := by
  have steady : ∀ items : List ι, ∀ q ∈ items.map f, q.Steady := by
    intro items q member
    obtain ⟨i, -, rfl⟩ := List.mem_map.1 member
    exact h i
  refine relates_of_ensures (ensures_firstSome (steady items)) (ensures_firstSome (steady items'))
    fun found found' is is' => ?_
  rw [Bool.eq_iff_iff, is, is']
  simp only [List.mem_map, same _]

end Searches

section Collecting

variable {as bs : List α}

theorem ensures_mapM {f : α → Query β} (h : ∀ a, (f a).Steady) (as : List α) :
    (as.mapM f).Ensures fun found => ∀ b, b ∈ found ↔ ∃ a ∈ as, (f a).CanGive b := by
  induction as with
  | nil => exact ensures_pure (by simp)
  | cons a rest ih =>
    rw [List.mapM_cons]
    refine ensures_bind (ensures_canGive (f a)) fun first given => ?_
    refine ensures_bind ih fun others rest => ensures_pure fun b => ?_
    rw [List.mem_cons, rest]
    simp [(h a).canGive_iff given]

theorem ensures_flatMapM {f : α → Query (List β)} (h : ∀ a, (f a).Steady) (as : List α) :
    (as.flatMapM f).Ensures fun found =>
      ∀ b, b ∈ found ↔ ∃ a ∈ as, ∃ part, (f a).CanGive part ∧ b ∈ part := by
  induction as with
  | nil => exact ensures_pure (by simp)
  | cons a rest ih =>
    rw [List.flatMapM_cons]
    refine ensures_bind (ensures_canGive (f a)) fun first given => ?_
    refine ensures_bind ih fun others rest => ensures_pure fun b => ?_
    rw [List.mem_append, rest]
    simp [(h a).canGive_iff given]

theorem relates_mapM_of_same {f : α → Query β} (h : ∀ a, (f a).Steady)
    (same : SameMembers as bs) : Relates SameMembers (as.mapM f) (bs.mapM f) := by
  refine relates_of_ensures (ensures_mapM h as) (ensures_mapM h bs) fun found found' is is' b => ?_
  rw [is, is']
  simp only [same _]

theorem relates_flatMapM_of_same {f : α → Query (List β)} (h : ∀ a, (f a).Steady)
    (same : SameMembers as bs) : Relates SameMembers (as.flatMapM f) (bs.flatMapM f) := by
  refine relates_of_ensures (ensures_flatMapM h as) (ensures_flatMapM h bs)
    fun found found' is is' b => ?_
  rw [is, is']
  simp only [same _]

end Collecting

end Query

end ContentBlocker
