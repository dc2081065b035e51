import ContentBlocker.Text.Basic
/-!
# Ordered lists

Lists in ascending order without repetition. Texts are ordered by their characters, and characters
by code point, which is also the order of their UTF-8 forms.
-/

namespace ContentBlocker

variable {α : Type} [LT α] [DecidableLT α] [DecidableEq α]

/-- `a` put in its place in an ordered list, unless it is there already. -/
def insertOrdered (a : α) : List α → List α
  | [] => [a]
  | b :: rest =>
    if a < b then a :: b :: rest
    else if a = b then b :: rest
    else b :: insertOrdered a rest

/-- The members of a list in order, each of them once. -/
def orderedSet (as : List α) : List α := as.foldr insertOrdered []

theorem mem_insertOrdered {a c : α} {as : List α} : c ∈ insertOrdered a as ↔ c = a ∨ c ∈ as := by
  induction as with
  | nil => simp [insertOrdered]
  | cons b rest ih => grind [insertOrdered]

theorem mem_orderedSet {c : α} {as : List α} : c ∈ orderedSet as ↔ c ∈ as := by
  induction as with
  | nil => rfl
  | cons a rest ih =>
    rw [show orderedSet (a :: rest) = insertOrdered a (orderedSet rest) from rfl,
      mem_insertOrdered, ih, List.mem_cons]

end ContentBlocker
