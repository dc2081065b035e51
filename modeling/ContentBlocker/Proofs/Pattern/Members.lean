import ContentBlocker.Proofs.Pattern.Meaning
import ContentBlocker.Proofs.Pattern.Source
import ContentBlocker.Proofs.Text.Ascii
import ContentBlocker.Proofs.Text.Folding
/-!
# The characters that the expressions of a pattern take

Each set of characters in the expression of a pattern is compared with what the pattern says in its
place. Case makes no difference to a set of marks, of word characters or of separators, so only the
characters that stand for themselves are read up to case.
-/

namespace ContentBlocker

open Regex

variable {ignoreCase : Bool} {b c : Char}

theorem CharSet.mem_single : (CharSet.single b).mem c = true ↔ c = b := by
  simp only [single, mem, Bool.and_eq_true, decide_eq_true_eq]
  constructor
  · rintro ⟨low, high⟩
    exact Char.le_antisymm high low
  · rintro rfl
    exact ⟨Char.le_refl c, Char.le_refl c⟩

theorem CharSet.mem_folded {s : CharSet} :
    (CharSet.folded s).mem c = true ↔ ∃ d, Text.sameFold c d = true ∧ s.mem d = true := by
  simp only [mem, List.any_eq_true, Text.mem_orbit]

/-- Case does not count for a set of marks. -/
theorem mem_bracket_of_marks {s : CharSet}
    (marks : ∀ d, s.mem d = true → d.toNat < 0x80 ∧ d.isAlpha = false) :
    (Mode.bracket { ignoreCase } s).mem c = true ↔ s.mem c = true := by
  cases ignoreCase with
  | false => exact Iff.rfl
  | true =>
    refine CharSet.mem_folded.trans ⟨?_, ?_⟩
    · rintro ⟨d, same, member⟩
      rw [Text.eq_of_sameFold (marks d member).1 (marks d member).2 same]
      exact member
    · intro member
      exact ⟨c, beq_self_eq_true _, member⟩

theorem mem_literal_ignoreCase :
    (Mode.literal { ignoreCase := true } b).mem c = true ↔ Text.sameFold b c = true := by
  refine CharSet.mem_folded.trans ⟨?_, ?_⟩
  · rintro ⟨d, same, member⟩
    rw [CharSet.mem_single.1 member, Text.sameFold_comm] at same
    exact same
  · intro same
    exact ⟨b, (Text.sameFold_comm c b).trans same, CharSet.mem_single.2 rfl⟩

theorem mem_literal {matchCase : Bool} :
    (Mode.literal { ignoreCase := !matchCase } b).mem c = true ↔
      Pattern.standsFor matchCase b c = true := by
  cases matchCase with
  | false => exact mem_literal_ignoreCase
  | true =>
    refine CharSet.mem_single.trans ?_
    rw [Pattern.standsFor, if_pos rfl, beq_iff_eq, eq_comm]

theorem mem_literal_of_mark (ascii : b.toNat < 0x80) (mark : b.isAlpha = false) :
    (Mode.literal { ignoreCase } b).mem c = true ↔ c = b := by
  refine (mem_bracket_of_marks (s := .single b) ?_).trans CharSet.mem_single
  intro d member
  rw [CharSet.mem_single.1 member]
  exact ⟨ascii, mark⟩

theorem mem_dot : (Mode.dot { ignoreCase }).mem c = true ↔ c ≠ '\n' := by
  have single := CharSet.mem_single (b := '\n') (c := c)
  simp [Mode.dot, CharSet.mem, ← single]

theorem ascii_of_mem_separators (member : PatternPart.separators.mem c = true) :
    c.toNat < 0x80 := by
  have last : c ≤ '\x7f' := by
    simp only [PatternPart.separators, CharSet.unionAll, List.foldr, CharSet.mem, CharSet.single,
      Bool.or_eq_true, Bool.and_eq_true, decide_eq_true_eq] at member
    rcases member with h | h | h | h | h | h | h | h
    all_goals first
      | exact Char.le_trans h.2 (by decide)
      | cases h
  exact Nat.lt_succ_of_le (UInt32.le_iff_toNat_le.1 last)

theorem mem_separators : (Mode.bracket { ignoreCase } PatternPart.separators).mem c = true ↔
    Pattern.isSeparator c = true := by
  have plain : ∀ d, d.toNat < 0x80 →
      PatternPart.separators.mem d = Pattern.isSeparator d ∧
        (Pattern.isSeparator d = true → d.isAlpha = false) :=
    fun d ascii => Text.of_ascii (P := fun d =>
      PatternPart.separators.mem d = Pattern.isSeparator d ∧
        (Pattern.isSeparator d = true → d.isAlpha = false)) (by decide +kernel) ascii
  refine (mem_bracket_of_marks ?_).trans ?_
  · intro d member
    have ascii := ascii_of_mem_separators member
    exact ⟨ascii, (plain d ascii).2 ((plain d ascii).1 ▸ member)⟩
  · constructor
    · intro member
      rw [← (plain c (ascii_of_mem_separators member)).1, member]
    · intro separator
      have ascii : c.toNat < 0x80 := by
        simp only [Pattern.isSeparator, Bool.and_eq_true, decide_eq_true_eq] at separator
        exact separator.1
      rw [(plain c ascii).1, separator]

theorem mem_scheme :
    (Mode.bracket { ignoreCase } (.unionAll [.word, .single '-'])).mem c = true ↔
      Text.isWordChar c = true ∨ c = '-' := by
  have plain : ∀ d, (CharSet.unionAll [.word, .single '-']).mem d = true ↔
      Text.isWordChar d = true ∨ d = '-' := by
    intro d
    simp [CharSet.unionAll, CharSet.mem, CharSet.mem_single]
  cases ignoreCase with
  | false => exact plain c
  | true =>
    refine CharSet.mem_folded.trans ⟨?_, ?_⟩
    · rintro ⟨d, same, member⟩
      rcases (plain d).1 member with word | rfl
      · left
        rw [← Text.isWordChar_fold, beq_iff_eq.1 same, Text.isWordChar_fold, word]
      · exact .inr (Text.eq_of_sameFold (by decide) (by decide) same)
    · intro member
      exact ⟨c, beq_self_eq_true _, (plain c).2 member⟩

theorem mem_label :
    (CharSet.compl (Mode.bracket { ignoreCase } (.unionAll [.single '/']))).mem c = true ↔
      c ≠ '/' := by
  have slash : ∀ d, (CharSet.unionAll [.single '/']).mem d = true ↔ d = '/' := by
    intro d
    simp [CharSet.unionAll, CharSet.mem, CharSet.mem_single]
  have folded : (Mode.bracket { ignoreCase } (.unionAll [.single '/'])).mem c = true ↔ c = '/' := by
    refine (mem_bracket_of_marks ?_).trans (slash c)
    intro d member
    rw [(slash d).1 member]
    decide
  rw [CharSet.mem, Bool.not_eq_true', ← Bool.not_eq_true, folded]

end ContentBlocker
