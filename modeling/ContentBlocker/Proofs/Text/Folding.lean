import ContentBlocker.Proofs.Text.Ascii
import ContentBlocker.Text.Word
import Mathlib.Data.List.Chain
import Mathlib.Data.List.Nodup
import Mathlib.Data.Nat.Bitwise
import Mathlib.Tactic.Common
/-!
# Simple case folding is sound

The table of runs is looked at once, as the list of its pairs: which code point folds to which. From
what it promises follow the facts that patterns rest on. Folding twice is folding once, the
characters listed with a character are just those that fold to the same, being a word character does
not depend on case, and only the Kelvin sign and the long s agree with letters of ASCII from
outside.

A number serves as a set of code points here, so that the whole table can be decided quickly.
-/

namespace ContentBlocker.Text

/-- Numbers as the bits of one number. -/
def bitsOf (numbers : List Nat) : Nat := numbers.foldr (fun n bits => 1 <<< n ||| bits) 0

/-- The numbers in closed ranges as the bits of one number. -/
def bitsOfRanges (ranges : List (Nat × Nat)) : Nat :=
  ranges.foldr (fun (lo, hi) bits => (1 <<< (hi + 1 - lo) - 1) <<< lo ||| bits) 0

theorem testBit_bitsOf {numbers : List Nat} {n : Nat} :
    (bitsOf numbers).testBit n = true ↔ n ∈ numbers := by
  induction numbers with
  | nil => simp [bitsOf]
  | cons m rest ih =>
    rw [bitsOf, List.foldr_cons, ← bitsOf, Nat.testBit_or, Bool.or_eq_true, ih, List.mem_cons,
      Nat.one_shiftLeft, Nat.testBit_two_pow, decide_eq_true_eq, eq_comm]

theorem testBit_bitsOfRanges (ranges : List (Nat × Nat)) (n : Nat) :
    (bitsOfRanges ranges).testBit n = inRanges ranges n := by
  induction ranges with
  | nil => simp [bitsOfRanges, inRanges]
  | cons range rest ih =>
    obtain ⟨lo, hi⟩ := range
    rw [bitsOfRanges, List.foldr_cons, ← bitsOfRanges, Nat.testBit_or, ih, inRanges, inRanges,
      List.any_cons, Nat.testBit_shiftLeft, Nat.one_shiftLeft, Nat.testBit_two_pow_sub_one]
    congr 1
    rw [Bool.eq_iff_iff]
    simp
    omega

namespace FoldRun

/-- The code points of a run. -/
def members (run : FoldRun) : List Nat :=
  (List.range ((run.last - run.first) / run.stride + 1)).map (run.first + run.stride * ·)

theorem mem_members {run : FoldRun} (ordered : run.first ≤ run.last) {n : Nat} :
    n ∈ run.members ↔ run.covers n = true := by
  simp only [covers, Bool.and_eq_true, decide_eq_true_eq, beq_iff_eq]
  constructor
  · intro member
    obtain ⟨k, few, rfl⟩ := List.mem_map.1 member
    have few : k ≤ (run.last - run.first) / run.stride := Nat.le_of_lt_succ (List.mem_range.1 few)
    have within : run.stride * k ≤ run.last - run.first :=
      (Nat.mul_le_mul_left _ few).trans (Nat.mul_div_le _ _)
    refine ⟨⟨Nat.le_add_right _ _, by omega⟩, ?_⟩
    rw [Nat.add_sub_cancel_left, Nat.mul_mod_right]
  · rintro ⟨⟨low, high⟩, step⟩
    have whole := Nat.div_add_mod (n - run.first) run.stride
    have few : (n - run.first) / run.stride ≤ (run.last - run.first) / run.stride :=
      Nat.div_le_div_right (by omega)
    refine List.mem_map.2 ⟨(n - run.first) / run.stride, List.mem_range.2 (by omega), ?_⟩
    omega

end FoldRun

/-- The code points that fold to others, each with the one it folds to. -/
def foldPairs : List (Nat × Nat) :=
  foldRuns.flatMap fun run => run.members.map fun n => (n, (n + run.shift).toNat)

/-- What the table promises of a pair: both are characters, the second folds to no other, and
beyond ASCII both are word characters, of which only two leave for ASCII. -/
def isSoundPair (pair : Nat × Nat) : Bool :=
  pair.1.isValidChar && pair.2.isValidChar &&
    !(bitsOf (foldPairs.map Prod.fst)).testBit pair.2 &&
      if Nat.blt pair.1 0x80 then Nat.blt pair.2 0x80
      else (bitsOfRanges wordRanges).testBit pair.1 &&
        if Nat.blt pair.2 0x80 then pair == (0x212A, 0x6B) || pair == (0x17F, 0x73)
        else (bitsOfRanges wordRanges).testBit pair.2

/-- What the table of runs shows, looked at once. -/
theorem foldRuns_sound : (∀ pair ∈ foldPairs, isSoundPair pair = true) ∧
    (foldPairs.map Prod.fst).IsChain (· < ·) ∧
    ∀ run ∈ foldRuns, 0 < run.first ∧ run.first ≤ run.last ∧ 0 ≤ run.first + run.shift := by
  decide +kernel

theorem isSoundPair_of_mem : ∀ pair ∈ foldPairs, isSoundPair pair = true := foldRuns_sound.1

theorem isChain_foldPairs : (foldPairs.map Prod.fst).IsChain (· < ·) := foldRuns_sound.2.1

theorem foldRuns_ordered :
    ∀ run ∈ foldRuns, 0 < run.first ∧ run.first ≤ run.last ∧ 0 ≤ run.first + run.shift :=
  foldRuns_sound.2.2

theorem mem_foldPairs {n m : Nat} :
    (n, m) ∈ foldPairs ↔ ∃ run ∈ foldRuns, run.image? n = some m := by
  simp only [foldPairs, List.mem_flatMap, List.mem_map, Prod.mk.injEq]
  refine exists_congr fun run => and_congr_right fun member => ?_
  have ordered := (foldRuns_ordered run member).2.1
  rw [FoldRun.image?]
  constructor
  · rintro ⟨n, inside, rfl, rfl⟩
    rw [if_pos ((FoldRun.mem_members ordered).1 inside)]
  · intro image
    split at image
    · rename_i covered
      exact ⟨n, (FoldRun.mem_members ordered).2 covered, rfl, Option.some.inj image⟩
    · cases image

/-- A code point folds to one other at most. -/
theorem eq_of_mem_foldPairs {n m k : Nat} (pair : (n, m) ∈ foldPairs) (other : (n, k) ∈ foldPairs) :
    m = k := by
  have distinct : (foldPairs.map Prod.fst).Nodup :=
    (List.isChain_iff_pairwise.1 isChain_foldPairs).imp Nat.ne_of_lt
  have same := List.inj_on_of_nodup_map distinct pair other rfl
  exact congrArg Prod.snd same

theorem findSome?_image? {n m : Nat} (pair : (n, m) ∈ foldPairs) :
    foldRuns.findSome? (·.image? n) = some m := by
  obtain ⟨run, member, image⟩ := mem_foldPairs.1 pair
  cases found : foldRuns.findSome? (·.image? n) with
  | none =>
    rw [List.findSome?_eq_none_iff] at found
    rw [found run member] at image
    cases image
  | some k =>
    obtain ⟨other, there, image'⟩ := List.exists_of_findSome?_eq_some found
    rw [eq_of_mem_foldPairs pair (mem_foldPairs.2 ⟨other, there, image'⟩)]

theorem source?_eq_some {run : FoldRun} (member : run ∈ foldRuns) {n m : Nat} :
    run.source? m = some n ↔ run.image? n = some m := by
  obtain ⟨positive, -, inside⟩ := foldRuns_ordered run member
  rw [FoldRun.source?, FoldRun.image?]
  constructor
  · intro source
    split at source
    · rename_i covered
      cases source
      rw [if_pos covered, Option.some_inj]
      simp only [FoldRun.covers, Bool.and_eq_true, decide_eq_true_eq] at covered
      omega
    · cases source
  · intro image
    split at image
    · rename_i covered
      cases image
      have low := covered
      simp only [FoldRun.covers, Bool.and_eq_true, decide_eq_true_eq] at low
      have back : (((n + run.shift).toNat : Int) - run.shift).toNat = n := by omega
      rw [back, if_pos covered]
    · cases image

section Pairs

variable {n m : Nat} (pair : (n, m) ∈ foldPairs)
include pair

theorem isValidChar_of_mem_foldPairs : n.isValidChar ∧ m.isValidChar := by
  have sound := isSoundPair_of_mem _ pair
  simp only [isSoundPair, Bool.and_eq_true, decide_eq_true_eq] at sound
  exact sound.1.1

/-- What a code point folds to folds to no other. -/
theorem not_mem_foldPairs_of_mem (k : Nat) : (m, k) ∉ foldPairs := by
  intro further
  have sound := isSoundPair_of_mem _ pair
  simp only [isSoundPair, Bool.and_eq_true, Bool.not_eq_true'] at sound
  rw [testBit_bitsOf.2 (List.mem_map_of_mem further)] at sound
  exact Bool.noConfusion sound.1.2

theorem lt_of_mem_foldPairs (ascii : n < 0x80) : m < 0x80 := by
  have sound := isSoundPair_of_mem _ pair
  simp only [isSoundPair, Bool.and_eq_true, Nat.blt_eq, if_pos ascii] at sound
  exact sound.2

/-- Beyond ASCII only word characters fold, to word characters, and two of them into ASCII. -/
theorem word_of_mem_foldPairs (beyond : 0x80 ≤ n) : inRanges wordRanges n = true ∧
    ((n = 0x212A ∧ m = 0x6B) ∨ (n = 0x17F ∧ m = 0x73) ∨
      0x80 ≤ m ∧ inRanges wordRanges m = true) := by
  have sound := isSoundPair_of_mem _ pair
  simp only [isSoundPair, testBit_bitsOfRanges, Bool.and_eq_true, Nat.blt_eq,
    if_neg (Nat.not_lt.2 beyond)] at sound
  obtain ⟨-, source, image⟩ := sound
  refine ⟨source, ?_⟩
  split at image
  · simp only [Bool.or_eq_true, beq_iff_eq, Prod.mk.injEq] at image
    exact image.imp_right .inl
  · rename_i other
    exact .inr (.inr ⟨Nat.le_of_not_lt other, image⟩)

end Pairs

theorem toNat_ofNat {n : Nat} (valid : n.isValidChar) : (Char.ofNat n).toNat = n := by
  rw [Char.ofNat, dif_pos valid]
  rfl

/-- A character folds to its small letter in ASCII, and as the table says beyond. -/
theorem fold_cases (c : Char) :
    (c.toNat < 0x80 ∧ fold c = c.toLower) ∨
      (0x80 ≤ c.toNat ∧ fold c = c ∧ ∀ m, (c.toNat, m) ∉ foldPairs) ∨
      (0x80 ≤ c.toNat ∧ (c.toNat, (fold c).toNat) ∈ foldPairs) := by
  by_cases ascii : c.toNat < 0x80
  · exact .inl ⟨ascii, if_pos ascii⟩
  · have high := Nat.le_of_not_lt ascii
    rw [fold, if_neg ascii]
    cases found : foldRuns.findSome? (·.image? c.toNat) with
    | none =>
      refine .inr (.inl ⟨high, Char.ofNat_toNat c, ?_⟩)
      intro m pair
      rw [findSome?_image? pair] at found
      cases found
    | some m =>
      obtain ⟨run, member, image⟩ := List.exists_of_findSome?_eq_some found
      have pair := mem_foldPairs.2 ⟨run, member, image⟩
      refine .inr (.inr ⟨high, ?_⟩)
      rw [Option.getD_some, toNat_ofNat (isValidChar_of_mem_foldPairs pair).2]
      exact pair

theorem fold_of_mem_foldPairs {c d : Char} (high : 0x80 ≤ c.toNat)
    (pair : (c.toNat, d.toNat) ∈ foldPairs) : fold c = d := by
  rcases fold_cases c with ⟨ascii, -⟩ | ⟨-, -, none⟩ | ⟨-, folded⟩
  · omega
  · exact absurd pair (none _)
  · exact Char.toNat_inj.1 (eq_of_mem_foldPairs folded pair)

/-- Folding again changes nothing. -/
theorem fold_fold (c : Char) : fold (fold c) = fold c := by
  rcases fold_cases c with ⟨ascii, folded⟩ | ⟨-, folded, -⟩ | ⟨high, pair⟩
  · rw [folded, fold, if_pos (toLower_ascii ascii), toLower_toLower]
  · rw [folded, folded]
  · rcases fold_cases (fold c) with ⟨ascii, folded⟩ | ⟨-, folded, -⟩ | ⟨-, further⟩
    · rw [folded]
      rcases (word_of_mem_foldPairs pair high).2 with ⟨-, letter⟩ | ⟨-, letter⟩ | ⟨other, -⟩
      · rw [Char.toNat_inj.1 (letter.trans (rfl : _ = 'k'.toNat))]
        rfl
      · rw [Char.toNat_inj.1 (letter.trans (rfl : _ = 's'.toNat))]
        rfl
      · omega
    · exact folded
    · exact absurd further (not_mem_foldPairs_of_mem pair _)

/-- Beyond ASCII two characters fold into it, the Kelvin sign and the long s. -/
theorem fold_ascii {c : Char} (ascii : (fold c).toNat < 0x80) :
    (c.toNat < 0x80 ∧ fold c = c.toLower) ∨ (c = '\u212A' ∧ fold c = 'k') ∨
      (c = '\u017F' ∧ fold c = 's') := by
  rcases fold_cases c with folded | ⟨high, folded, -⟩ | ⟨high, pair⟩
  · exact .inl folded
  · rw [folded] at ascii
    omega
  · rcases (word_of_mem_foldPairs pair high).2 with
      ⟨sign, letter⟩ | ⟨sign, letter⟩ | ⟨other, -⟩
    · exact .inr (.inl ⟨Char.toNat_inj.1 sign, Char.toNat_inj.1 letter⟩)
    · exact .inr (.inr ⟨Char.toNat_inj.1 sign, Char.toNat_inj.1 letter⟩)
    · omega

/-- A capital is the capital of its small letter. -/
theorem toUpper_toLower {c : Char} (capital : c ≠ c.toLower) :
    c.toLower.isLower = true ∧ c.toLower.toUpper = c := by
  have number := toNat_toLower c
  split at number
  · refine ⟨isLower_iff.2 (by omega), Char.toNat_inj.1 ?_⟩
    rw [toNat_toUpper, if_pos (by omega)]
    omega
  · exact absurd (Char.toNat_inj.1 number.symm) capital

/-- A small letter is the small letter of its capital. -/
theorem toLower_toUpper {c : Char} (small : c.isLower = true) :
    c.toUpper.toNat < 0x80 ∧ c.toUpper.toLower = c ∧ c.toUpper ≠ c := by
  have number := toNat_toUpper c
  rw [if_pos (isLower_iff.1 small)] at number
  rw [isLower_iff] at small
  refine ⟨by omega, Char.toNat_inj.1 ?_, fun same => ?_⟩
  · rw [toNat_toLower, if_pos (by omega)]
    omega
  · rw [same] at number
    omega

theorem mem_foldsTo_of_isLower {c d : Char} (small : c.isLower = true) :
    d ∈ foldsTo c ↔ fold d = c ∧ d ≠ c := by
  obtain ⟨ascii, lower, capital⟩ := toLower_toUpper small
  have listed : d ∈ foldsTo c ↔
      d = c.toUpper ∨ (c = 'k' ∧ d = '\u212A') ∨ (c = 's' ∧ d = '\u017F') := by
    rw [foldsTo, if_pos small, List.mem_cons]
    by_cases k : c = 'k'
    · simp [k]
    · by_cases s : c = 's' <;> simp [k, s]
  rw [listed]
  constructor
  · rintro (rfl | ⟨rfl, rfl⟩ | ⟨rfl, rfl⟩)
    · exact ⟨(if_pos ascii).trans lower, capital⟩
    · decide +kernel
    · decide +kernel
  · rintro ⟨folded, other⟩
    rcases fold_ascii (folded ▸ ascii_of_isLower small) with ⟨-, small'⟩ | ⟨rfl, k⟩ | ⟨rfl, s⟩
    · rw [folded] at small'
      subst small'
      exact .inl (toUpper_toLower other).2.symm
    · exact .inr (.inl ⟨folded.symm.trans k, rfl⟩)
    · exact .inr (.inr ⟨folded.symm.trans s, rfl⟩)

/-- The characters listed for one that folds to itself are the others that fold to it. -/
theorem mem_foldsTo {c d : Char} (folded : fold c = c) : d ∈ foldsTo c ↔ fold d = c ∧ d ≠ c := by
  by_cases small : c.isLower = true
  · exact mem_foldsTo_of_isLower small
  rw [foldsTo, if_neg small]
  split
  · rename_i ascii
    refine iff_of_false List.not_mem_nil ?_
    rintro ⟨same, other⟩
    rcases fold_ascii (same ▸ ascii) with ⟨-, lower⟩ | ⟨-, k⟩ | ⟨-, s⟩
    · rw [same] at lower
      subst lower
      exact small (toUpper_toLower other).1
    · rw [same] at k
      subst k
      exact small rfl
    · rw [same] at s
      subst s
      exact small rfl
  · rename_i beyond
    have listed : d ∈ (foldRuns.filterMap (·.source? c.toNat)).map Char.ofNat ↔
        (d.toNat, c.toNat) ∈ foldPairs := by
      simp only [List.mem_map, List.mem_filterMap]
      constructor
      · rintro ⟨n, ⟨run, member, source⟩, rfl⟩
        have pair := mem_foldPairs.2 ⟨run, member, (source?_eq_some member).1 source⟩
        rw [toNat_ofNat (isValidChar_of_mem_foldPairs pair).1]
        exact pair
      · intro pair
        obtain ⟨run, member, image⟩ := mem_foldPairs.1 pair
        exact ⟨d.toNat, ⟨run, member, (source?_eq_some member).2 image⟩, Char.ofNat_toNat d⟩
    rw [listed]
    constructor
    · intro pair
      have high : 0x80 ≤ d.toNat := by
        by_contra ascii
        exact beyond (lt_of_mem_foldPairs pair (Nat.lt_of_not_le ascii))
      refine ⟨fold_of_mem_foldPairs high pair, ?_⟩
      rintro rfl
      exact not_mem_foldPairs_of_mem pair _ pair
    · rintro ⟨same, other⟩
      rcases fold_cases d with ⟨ascii, lower⟩ | ⟨-, fixed, -⟩ | ⟨-, pair⟩
      · rw [← same, lower] at beyond
        exact absurd (toLower_ascii ascii) beyond
      · exact absurd (fixed.symm.trans same) other
      · exact same ▸ pair

/-- Two characters agree up to case when one is listed with the other. -/
theorem mem_orbit {c d : Char} : d ∈ orbit c ↔ sameFold c d = true := by
  rw [orbit, List.mem_cons, mem_foldsTo (fold_fold c), sameFold, beq_iff_eq]
  constructor
  · rintro (rfl | ⟨same, -⟩)
    · exact (fold_fold c).symm
    · exact same.symm
  · intro same
    by_cases here : d = fold c
    · exact .inl here
    · exact .inr ⟨same.symm, here⟩

/-- Case does not count for being a word character. -/
theorem isWordChar_fold (c : Char) : isWordChar (fold c) = isWordChar c := by
  rcases fold_cases c with ⟨ascii, folded⟩ | ⟨-, folded, -⟩ | ⟨high, pair⟩
  · rw [folded]
    exact of_ascii (P := fun c => isWordChar c.toLower = isWordChar c) (by decide +kernel) ascii
  · rw [folded]
  · obtain ⟨source, image⟩ := word_of_mem_foldPairs pair high
    have isWord : isWordChar c = true := by
      rw [isWordChar, if_neg (Nat.not_lt.2 high), source]
    rw [isWord]
    rcases image with ⟨-, letter⟩ | ⟨-, letter⟩ | ⟨beyond, image⟩
    · rw [Char.toNat_inj.1 (letter.trans (rfl : _ = 'k'.toNat))]
      rfl
    · rw [Char.toNat_inj.1 (letter.trans (rfl : _ = 's'.toNat))]
      rfl
    · rw [isWordChar, if_neg (Nat.not_lt.2 beyond), image]

theorem sameFold_comm (c d : Char) : sameFold c d = sameFold d c := Bool.beq_comm

/-- A mark of ASCII agrees with no other character. -/
theorem eq_of_sameFold {c d : Char} (ascii : d.toNat < 0x80) (mark : d.isAlpha = false)
    (same : sameFold c d = true) : c = d := by
  have noLetter := mark
  rw [Bool.eq_false_iff, ne_eq, isAlpha_iff] at noLetter
  have noSmall : d.isLower = false := by
    rw [Bool.eq_false_iff, ne_eq, isLower_iff]
    omega
  have kept : d.toLower = d := by
    apply Char.toNat_inj.1
    rw [toNat_toLower, if_neg (by omega)]
  have folded : fold c = d := by
    rw [beq_iff_eq.1 same, fold, if_pos ascii, kept]
  rcases fold_ascii (folded ▸ ascii) with ⟨-, lower⟩ | ⟨-, k⟩ | ⟨-, s⟩
  · exact eq_of_toLower_eq noSmall (lower.symm.trans folded)
  · rw [← folded, k] at mark
    cases mark
  · rw [← folded, s] at mark
    cases mark

/-- A character that no character on the other side of ASCII's border is taken for. Where case does
not count, the Kelvin sign is taken for `k` and the long s for `s`. -/
def Unmistaken (ignoreCase : Bool) (c : Char) : Prop :=
  ignoreCase = true → c ≠ '\u212A' ∧ c ≠ '\u017F'

instance (ignoreCase : Bool) (c : Char) : Decidable (Unmistaken ignoreCase c) :=
  inferInstanceAs (Decidable (ignoreCase = true → c ≠ '\u212A' ∧ c ≠ '\u017F'))

theorem unmistaken_of_ascii {ignoreCase : Bool} {c : Char} (ascii : c.toNat < 0x80) :
    Unmistaken ignoreCase c := by
  intro _
  constructor
  · rintro rfl
    exact absurd ascii (by decide)
  · rintro rfl
    exact absurd ascii (by decide)

/-- A character that agrees with one of ASCII has its small letter, unless it is only taken for it. -/
theorem toLower_eq_of_sameFold {c d : Char} (hd : Unmistaken true d) (ascii : c.toNat < 0x80)
    (same : sameFold c d = true) : d.toLower = c.toLower := by
  have folded : fold d = c.toLower := by
    rw [← beq_iff_eq.1 same, fold, if_pos ascii]
  rcases fold_ascii (folded ▸ toLower_ascii ascii) with ⟨-, lower⟩ | ⟨sign, -⟩ | ⟨sign, -⟩
  · rw [← lower, folded]
  · exact absurd sign (hd rfl).1
  · exact absurd sign (hd rfl).2

end ContentBlocker.Text
