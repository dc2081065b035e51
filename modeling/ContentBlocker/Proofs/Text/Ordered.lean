import ContentBlocker.Text.Ordered
import Mathlib.Data.List.Sort
/-!
# Ordered lists are determined by their members

Two lists with the same members have the same members in order.
-/

namespace ContentBlocker

variable {α : Type} [LT α] [DecidableLT α] [DecidableEq α]
  [IsStrictTotalOrder α (· < ·)]

theorem pairwise_insertOrdered {a : α} {as : List α} (h : as.Pairwise (· < ·)) :
    (insertOrdered a as).Pairwise (· < ·) := by
  induction as with
  | nil => exact List.pairwise_singleton _ a
  | cons b rest ih =>
    obtain ⟨below, ordered⟩ := List.pairwise_cons.1 h
    rw [insertOrdered]
    by_cases less : a < b
    · rw [if_pos less]
      refine List.pairwise_cons.2 ⟨fun c member => ?_, h⟩
      rcases List.mem_cons.1 member with rfl | later
      · exact less
      · exact IsTrans.trans _ _ _ less (below c later)
    · rw [if_neg less]
      by_cases same : a = b
      · rwa [if_pos same]
      · rw [if_neg same]
        refine List.pairwise_cons.2 ⟨fun c member => ?_, ih ordered⟩
        rcases mem_insertOrdered.1 member with rfl | later
        · by_contra greater
          exact same (Std.Trichotomous.trichotomous c b less greater)
        · exact below c later

theorem pairwise_orderedSet (as : List α) : (orderedSet as).Pairwise (· < ·) := by
  induction as with
  | nil => exact List.Pairwise.nil
  | cons a rest ih => exact pairwise_insertOrdered ih

/-- The members in order do not depend on the order in which they were given, nor on how often. -/
theorem orderedSet_congr {as bs : List α} (same : ∀ a, a ∈ as ↔ a ∈ bs) :
    orderedSet as = orderedSet bs := by
  refine (pairwise_orderedSet as).eq_of_mem_iff (pairwise_orderedSet bs) fun a => ?_
  rw [mem_orderedSet, mem_orderedSet]
  exact same a

end ContentBlocker
