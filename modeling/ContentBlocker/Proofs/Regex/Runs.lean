import ContentBlocker.Proofs.Regex.Spans
import Mathlib.Tactic.Common
/-!
# The text that a span covers

A span of a set covers one character, a span of a repeated set a run of them. Here the positions of
spans are traded for the text between them, so that what an expression matches can be compared with
what a pattern says about the text.
-/

namespace ContentBlocker

/-- The text `run` stands in `s` from position `i` up to position `j`. -/
structure Text.Covers (s : Text) (i : Nat) (run : Text) (j : Nat) : Prop where
  inside : j ≤ s.length
  length : j = i + run.length
  drop : s.drop i = run ++ s.drop j

namespace Text.Covers

variable {s a b rest : Text} {c : Char} {i j k : Nat}

theorem start_le (h : s.Covers i a j) : i ≤ s.length := by
  have inside := h.inside
  have length := h.length
  omega

/-- What stands at the beginning of the rest of a text covers its length. -/
theorem of_drop (inside : i ≤ s.length) (split : s.drop i = a ++ rest) :
    s.Covers i a (i + a.length) ∧ s.drop (i + a.length) = rest := by
  have tail : s.drop (i + a.length) = rest := by
    rw [← List.drop_drop, split, List.drop_left]
  refine ⟨⟨?_, rfl, split.trans (by rw [tail])⟩, tail⟩
  have length := congrArg List.length split
  simp only [List.length_drop, List.length_append] at length
  omega

theorem covers_nil : s.Covers i [] j ↔ j = i ∧ i ≤ s.length := by
  constructor
  · intro h
    exact ⟨h.length, h.start_le⟩
  · rintro ⟨rfl, inside⟩
    exact ⟨inside, rfl, rfl⟩

theorem append (first : s.Covers i a j) (second : s.Covers j b k) : s.Covers i (a ++ b) k := by
  refine ⟨second.inside, ?_, ?_⟩
  · have one := first.length
    have two := second.length
    simp only [List.length_append]
    omega
  · rw [first.drop, second.drop, List.append_assoc]

theorem split (h : s.Covers i (a ++ b) k) : ∃ j, s.Covers i a j ∧ s.Covers j b k := by
  have parts : s.drop i = a ++ (b ++ s.drop k) := by
    rw [h.drop, List.append_assoc]
  obtain ⟨first, rest⟩ := of_drop h.start_le parts
  refine ⟨_, first, h.inside, ?_, rest⟩
  have length := h.length
  simp only [List.length_append] at length
  omega

theorem covers_cons : s.Covers i (c :: a) k ↔ ∃ j, s.Covers i [c] j ∧ s.Covers j a k := by
  constructor
  · intro h
    exact split (a := [c]) h
  · rintro ⟨j, first, rest⟩
    exact first.append rest

/-- From the start of a text on, what is covered is what precedes the rest. -/
theorem of_start (h : s.Covers 0 a j) : s = a ++ s.drop j := h.drop

end Text.Covers

namespace Regex

open Text.Covers

variable {s : Text} {members : CharSet} {i j : Nat}

theorem spans_set_iff_covers : Spans s (.set members) i j ↔
    ∃ c, s.Covers i [c] j ∧ members.mem c = true := by
  rw [spans_set]
  constructor
  · rintro ⟨rfl, c, there, member⟩
    obtain ⟨inside, rfl⟩ := List.getElem?_eq_some_iff.1 there
    exact ⟨_, ⟨inside, rfl, List.drop_eq_getElem_cons inside⟩, member⟩
  · rintro ⟨c, covers, member⟩
    refine ⟨covers.length, c, ?_, member⟩
    rw [← List.head?_drop, covers.drop]
    rfl

/-- Turns of a set cover as many characters, all of the set. -/
theorem turns_set {count : Nat} (inside : i ≤ s.length) :
    Turns (Spans s (.set members)) count i j ↔
      ∃ run, s.Covers i run j ∧ run.length = count ∧ ∀ c ∈ run, members.mem c = true := by
  constructor
  · intro turns
    induction turns with
    | done => exact ⟨[], covers_nil.2 ⟨rfl, inside⟩, rfl, by simp⟩
    | more first _ ih =>
      obtain ⟨run, rest, rfl, all⟩ := ih first.bounds.2
      obtain ⟨c, one, member⟩ := spans_set_iff_covers.1 first
      exact ⟨c :: run, one.append rest, rfl, by simpa [member] using all⟩
  · rintro ⟨run, covers, rfl, all⟩
    induction run generalizing i with
    | nil =>
      obtain ⟨rfl, -⟩ := covers_nil.1 covers
      exact .done
    | cons c run ih =>
      obtain ⟨m, one, rest⟩ := covers_cons.1 covers
      have member := all c List.mem_cons_self
      refine .more (spans_set_iff_covers.2 ⟨c, one, member⟩) (ih one.inside rest ?_)
      intro d there
      exact all d (List.mem_cons_of_mem _ there)

/-- A set repeated without bound covers a run of its members. -/
theorem spans_many {least : Nat} : Spans s (.repeated (.set members) least none) i j ↔
    ∃ run, s.Covers i run j ∧ least ≤ run.length ∧ ∀ c ∈ run, members.mem c = true := by
  rw [spans_repeated]
  constructor
  · rintro ⟨inside, count, turns, enough, -⟩
    obtain ⟨run, covers, rfl, all⟩ := (turns_set inside).1 turns
    exact ⟨run, covers, enough, all⟩
  · rintro ⟨run, covers, enough, all⟩
    have inside := covers.start_le
    exact ⟨inside, run.length, (turns_set inside).2 ⟨run, covers, rfl, all⟩, enough, by simp⟩

theorem spans_optional {r : Regex} : Spans s (.repeated r 0 (some 1)) i j ↔
    (j = i ∧ i ≤ s.length) ∨ Spans s r i j := by
  rw [spans_repeated]
  constructor
  · rintro ⟨inside, count, turns, -, few⟩
    have once := few 1 rfl
    cases turns with
    | done => exact .inl ⟨rfl, inside⟩
    | more first rest =>
      cases rest with
      | done => exact .inr first
      | more => omega
  · rintro (⟨rfl, inside⟩ | span)
    · exact ⟨inside, 0, .done, Nat.zero_le 0, by simp⟩
    · exact ⟨Nat.le_trans span.bounds.1 span.bounds.2, 1, .more span .done, Nat.zero_le 1, by simp⟩

theorem spans_start : Spans s (.anchor .start) i j ↔ i = 0 ∧ j = 0 := by
  rw [spans_anchor]
  constructor
  · rintro ⟨rfl, inside, atStart⟩
    by_cases first : j = 0
    · exact ⟨first, first⟩
    · have before : j - 1 < s.length := by omega
      simp [Anchor.holdsAt, Anchor.holds, first, List.getElem?_eq_getElem before] at atStart
  · rintro ⟨rfl, rfl⟩
    exact ⟨rfl, Nat.zero_le _, rfl⟩

theorem spans_stop : Spans s (.anchor .stop) i j ↔ i = s.length ∧ j = s.length := by
  rw [spans_anchor]
  constructor
  · rintro ⟨rfl, inside, atEnd⟩
    simp [Anchor.holdsAt, Anchor.holds] at atEnd
    omega
  · rintro ⟨rfl, rfl⟩
    simp [Anchor.holdsAt, Anchor.holds]

end Regex

end ContentBlocker
