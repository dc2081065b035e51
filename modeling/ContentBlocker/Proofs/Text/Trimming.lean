import ContentBlocker.Proofs.Text.Cutting
import Mathlib.Data.List.DropRight
/-!
# Trimming texts

Trimming takes the white space off both ends, in either order, and all of it at once; what is no
white space stays.
-/

namespace ContentBlocker.Text

theorem trim_eq (t : Text) : t.trim = (t.dropWhile isBlank).rdropWhile isBlank := rfl

/-- Dropping what satisfies `p` from the start keeps what does not. -/
theorem mem_dropWhile {p : Char → Bool} {c : Char} (h : p c = false) {t : Text} :
    c ∈ t.dropWhile p ↔ c ∈ t := by
  refine ⟨fun member => (List.dropWhile_sublist p).subset member, fun member => ?_⟩
  rw [← List.takeWhile_append_dropWhile (p := p) (l := t), List.mem_append] at member
  refine member.resolve_left fun dropped => ?_
  rw [List.mem_takeWhile_imp dropped] at h
  cases h

theorem mem_trim {c : Char} (h : isBlank c = false) {t : Text} : c ∈ t.trim ↔ c ∈ t := by
  rw [trim, trimBoth, dropEndWhile, List.mem_reverse, mem_dropWhile h, List.mem_reverse,
    mem_dropWhile h]

theorem rdropWhile_cons (p : Char → Bool) (c : Char) (t : Text) :
    (c :: t).rdropWhile p =
      if t.rdropWhile p = [] ∧ p c then [] else c :: t.rdropWhile p := by
  rw [List.rdropWhile, List.rdropWhile, List.reverse_cons, List.dropWhile_append]
  by_cases nothing : t.reverse.dropWhile p = []
  · by_cases dropped : p c <;> simp [nothing, dropped]
  · simp [nothing]

/-- It does not matter from which end is dropped first. -/
theorem dropWhile_rdropWhile (p q : Char → Bool) (t : Text) :
    (t.rdropWhile q).dropWhile p = (t.dropWhile p).rdropWhile q := by
  induction t with
  | nil => rfl
  | cons c t ih =>
    rw [rdropWhile_cons]
    by_cases dropped : p c
    · rw [List.dropWhile_cons_of_pos dropped, ← ih]
      by_cases nothing : t.rdropWhile q = [] ∧ q c
      · simp [nothing]
      · rw [if_neg nothing, List.dropWhile_cons_of_pos dropped]
    · rw [List.dropWhile_cons_of_neg dropped, rdropWhile_cons]
      by_cases nothing : t.rdropWhile q = [] ∧ q c
      · rw [if_pos nothing, List.dropWhile_nil]
      · rw [if_neg nothing, List.dropWhile_cons_of_neg dropped]

/-- What is dropped from the end does not count at the start, if no character is of both kinds. -/
theorem takeWhile_rdropWhile {p q : Char → Bool} (apart : ∀ c, p c → q c = false) (t : Text) :
    (t.rdropWhile q).takeWhile p = t.takeWhile p := by
  induction t with
  | nil => rfl
  | cons c t ih =>
    rw [rdropWhile_cons]
    by_cases taken : p c
    · rw [if_neg (by simp [apart c taken]), List.takeWhile_cons_of_pos taken, ih,
        List.takeWhile_cons_of_pos taken]
    · rw [List.takeWhile_cons_of_neg taken]
      split
      · rfl
      · exact List.takeWhile_cons_of_neg taken

theorem trim_concat {c : Char} (blank : isBlank c) (t : Text) : (t ++ [c]).trim = t.trim := by
  rw [trim_eq, trim_eq, List.dropWhile_append]
  by_cases nothing : t.dropWhile isBlank = []
  · simp [nothing, blank]
  · rw [List.isEmpty_eq_false_iff.2 nothing, if_neg Bool.false_ne_true,
      List.rdropWhile_concat_pos _ _ _ blank]

/-- Dropping from the end what is trimmed anyway changes nothing. -/
theorem trim_rdropWhile (t : Text) : trim (t.rdropWhile isBlank) = trim t := by
  rw [trim_eq, trim_eq, dropWhile_rdropWhile, List.rdropWhile_idempotent]

theorem trim_trim (t : Text) : t.trim.trim = t.trim := by
  rw [trim_eq t, trim_rdropWhile, trim_eq, List.dropWhile_idempotent]

end ContentBlocker.Text
