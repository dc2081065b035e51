import ContentBlocker.Text.Blank
import ContentBlocker.Text.Folding
/-!
# ASCII text

The letters and digits of ASCII are ranges of numbers, and its two case maps move one range of
letters onto the other. Among ASCII characters, agreeing up to case is having the same small letter.
Beyond them it is not: the Kelvin sign agrees with `k`, the long s with `s`.
-/

namespace ContentBlocker.Text

/-- All characters of a text are ASCII characters. -/
def IsAscii (t : Text) : Prop := ∀ c ∈ t, c.toNat < 0x80

instance (t : Text) : Decidable t.IsAscii := List.decidableBAll _ t

/-- What holds of every ASCII character by number holds of every ASCII character. -/
theorem of_ascii {P : Char → Prop} (all : ∀ n < 0x80, P (Char.ofNat n)) {c : Char}
    (ascii : c.toNat < 0x80) : P c := by
  have holds := all c.toNat ascii
  rwa [Char.ofNat_toNat] at holds

theorem isUpper_iff {c : Char} : c.isUpper = true ↔ 65 ≤ c.toNat ∧ c.toNat ≤ 90 :=
  decide_eq_true_iff.trans (and_congr UInt32.le_iff_toNat_le UInt32.le_iff_toNat_le)

theorem isLower_iff {c : Char} : c.isLower = true ↔ 97 ≤ c.toNat ∧ c.toNat ≤ 122 :=
  Bool.and_eq_true_iff.trans (and_congr (decide_eq_true_iff.trans UInt32.le_iff_toNat_le)
    (decide_eq_true_iff.trans UInt32.le_iff_toNat_le))

theorem isAlpha_iff {c : Char} : c.isAlpha = true ↔
    (65 ≤ c.toNat ∧ c.toNat ≤ 90) ∨ (97 ≤ c.toNat ∧ c.toNat ≤ 122) :=
  Bool.or_eq_true_iff.trans (or_congr isUpper_iff isLower_iff)

theorem isDigit_iff {c : Char} : c.isDigit = true ↔ 48 ≤ c.toNat ∧ c.toNat ≤ 57 :=
  Char.isDigit_iff_toNat

theorem toNat_toLower (c : Char) : c.toLower.toNat =
    if 65 ≤ c.toNat ∧ c.toNat ≤ 90 then c.toNat + 32 else c.toNat := by
  have capital : (c.val ≥ 'A'.val ∧ c.val ≤ 'Z'.val) ↔ 65 ≤ c.toNat ∧ c.toNat ≤ 90 :=
    and_congr UInt32.le_iff_toNat_le UInt32.le_iff_toNat_le
  unfold Char.toLower
  by_cases range : 65 ≤ c.toNat ∧ c.toNat ≤ 90
  · rw [dif_pos (capital.2 range), if_pos range]
    change (c.toNat + 32) % 2 ^ 32 = c.toNat + 32
    omega
  · rw [dif_neg (mt capital.1 range), if_neg range]

theorem toNat_toUpper (c : Char) : c.toUpper.toNat =
    if 97 ≤ c.toNat ∧ c.toNat ≤ 122 then c.toNat - 32 else c.toNat := by
  have small : ('a'.val ≤ c.val ∧ c.val ≤ 'z'.val) ↔ 97 ≤ c.toNat ∧ c.toNat ≤ 122 :=
    and_congr UInt32.le_iff_toNat_le UInt32.le_iff_toNat_le
  unfold Char.toUpper
  by_cases range : 97 ≤ c.toNat ∧ c.toNat ≤ 122
  · rw [dif_pos (small.2 range), if_pos range]
    have difference : ('A'.val - 'a'.val).toNat = 4294967264 := by decide
    change (c.val + ('A'.val - 'a'.val)).toNat = c.toNat - 32
    rw [UInt32.toNat_add, difference, Char.toNat_val]
    omega
  · rw [dif_neg (mt small.1 range), if_neg range]

theorem toLower_ascii {c : Char} (ascii : c.toNat < 0x80) : c.toLower.toNat < 0x80 := by
  rw [toNat_toLower]
  split <;> omega

theorem toLower_eq_self {c : Char} (other : ¬ c.toNat < 0x80) : c.toLower = c := by
  apply Char.toNat_inj.1
  rw [toNat_toLower, if_neg (by omega)]

/-- What is no small letter is the small letter of nothing but itself. -/
theorem eq_of_toLower_eq {c d : Char} (noLetter : d.isLower = false) (same : c.toLower = d) :
    c = d := by
  have number := toNat_toLower c
  rw [same] at number
  rw [Bool.eq_false_iff, ne_eq, isLower_iff] at noLetter
  apply Char.toNat_inj.1
  split at number <;> omega

theorem toLower_toLower (c : Char) : c.toLower.toLower = c.toLower := by
  have number := toNat_toLower c
  apply Char.toNat_inj.1
  rw [toNat_toLower c.toLower, if_neg]
  split at number <;> omega

theorem lower_lower (t : Text) : t.lower.lower = t.lower := by
  rw [Text.lower, Text.lower, List.map_map]
  exact List.map_congr_left fun c _ => toLower_toLower c

theorem lower_eq_self_iff {t : Text} : t.lower = t ↔ ∀ c ∈ t, c.toLower = c := by
  induction t with
  | nil => simp [lower]
  | cons c rest ih => simpa [lower] using fun _ => ih

theorem ascii_of_isLower {c : Char} (small : c.isLower = true) : c.toNat < 0x80 := by
  rw [isLower_iff] at small
  omega

/-- What is its own small letter is no capital. -/
theorem isUpper_eq_false {c : Char} (small : c.toLower = c) : c.isUpper = false := by
  have number := toNat_toLower c
  rw [small] at number
  rw [Bool.eq_false_iff, ne_eq, isUpper_iff]
  split at number <;> omega

theorem isUpper_of_lower_eq {t : Text} (small : t.lower = t) : ∀ c ∈ t, c.isUpper = false :=
  fun c member => isUpper_eq_false (lower_eq_self_iff.1 small c member)

theorem isLower_toUpper (c : Char) : c.toUpper.isLower = false := by
  have number := toNat_toUpper c
  rw [Bool.eq_false_iff, ne_eq, isLower_iff]
  split at number <;> omega

/-- White space has none of the numbers of letters and digits. -/
theorem isBlank_eq_false {c : Char} (above : 32 < c.toNat) (below : c.toNat < 0x80) :
    isBlank c = false := by
  rw [Bool.eq_false_iff]
  intro blank
  simp only [isBlank, Bool.or_eq_true, Bool.and_eq_true, decide_eq_true_eq] at blank
  omega

theorem isBlank_of_isAlpha {c : Char} (letter : c.isAlpha = true) : isBlank c = false := by
  rw [isAlpha_iff] at letter
  exact isBlank_eq_false (by omega) (by omega)

theorem isBlank_of_isDigit {c : Char} (digit : c.isDigit = true) : isBlank c = false := by
  rw [isDigit_iff] at digit
  exact isBlank_eq_false (by omega) (by omega)

theorem isDigit_of_isAlpha {c : Char} (letter : c.isAlpha = true) : c.isDigit = false := by
  rw [isAlpha_iff] at letter
  rw [Bool.eq_false_iff, ne_eq, isDigit_iff]
  omega

theorem isAlpha_toLower (c : Char) : c.toLower.isAlpha = true ↔ c.isAlpha = true := by
  have number := toNat_toLower c
  rw [isAlpha_iff, isAlpha_iff]
  split at number <;> omega

theorem isLower_of_isBlank {c : Char} (blank : isBlank c = true) : c.isLower = false := by
  rw [Bool.eq_false_iff]
  intro small
  rw [isBlank_of_isAlpha (Bool.or_eq_true_iff.2 (.inr small))] at blank
  cases blank

/-- Small letters bring no white space into a text. -/
theorem isBlank_of_mem_lower {t : Text} (clear : ∀ c ∈ t, isBlank c = false) :
    ∀ c ∈ t.lower, isBlank c = false := by
  intro c member
  obtain ⟨d, there, rfl⟩ := List.mem_map.1 member
  rw [Bool.eq_false_iff]
  intro blank
  have same : d = d.toLower := eq_of_toLower_eq (isLower_of_isBlank blank) rfl
  rw [← same, clear d there] at blank
  cases blank

theorem getLast?_lower_ne_dot {t : Text} (noEndDot : t.getLast? ≠ some '.') :
    t.lower.getLast? ≠ some '.' := by
  intro dot
  rw [Text.lower, List.getLast?_map] at dot
  obtain ⟨c, last, small⟩ := Option.map_eq_some_iff.1 dot
  rw [eq_of_toLower_eq (by decide) small] at last
  exact noEndDot last

theorem IsAscii.of_subset {t u : Text} (h : t.IsAscii) (subset : u ⊆ t) : u.IsAscii :=
  fun c there => h c (subset there)

theorem IsAscii.append {t u : Text} (ht : t.IsAscii) (hu : u.IsAscii) : (t ++ u).IsAscii :=
  fun c there => (List.mem_append.1 there).elim (ht c) (hu c)

theorem IsAscii.lower {t : Text} (h : t.IsAscii) : t.lower.IsAscii := by
  intro c there
  obtain ⟨d, member, rfl⟩ := List.mem_map.1 there
  exact toLower_ascii (h d member)

end ContentBlocker.Text
