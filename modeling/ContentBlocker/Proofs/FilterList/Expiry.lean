import ContentBlocker.FilterList.Metadata
import ContentBlocker.Proofs.Text.Ascii
import ContentBlocker.Proofs.Text.Trimming
/-!
# Expiry values

A value is written as an amount in decimal digits and the name of a unit, perhaps with white space
in front of each and with a remark behind. The main statement says which amounts it yields: more
than fourteen days count as fourteen days, also where the product leaves 64 bits. An amount that
itself leaves 64 bits is refused, so that the list expires as if it said nothing.
-/

namespace ContentBlocker

namespace Text

/-- An amount in decimal digits behind `zeros` zeros. -/
def numeral (zeros amount : Nat) : Text := List.replicate zeros '0' ++ Nat.toDigits 10 amount

theorem decimal_numeral (zeros amount : Nat) : decimal (numeral zeros amount) = amount := by
  change Nat.ofDigitChars 10 (List.replicate zeros '0' ++ Nat.toDigits 10 amount) 0 = amount
  rw [Nat.ofDigitChars_append, Nat.ofDigitChars_replicate_zero, Nat.mul_zero,
    Nat.ofDigitChars_toDigits (by decide) (by decide)]

theorem numeral_ne_nil (zeros amount : Nat) : numeral zeros amount ≠ [] :=
  List.append_ne_nil_of_right_ne_nil _ Nat.toDigits_ne_nil

theorem isDigit_of_mem_numeral {zeros amount : Nat} :
    ∀ c ∈ numeral zeros amount, c.isDigit = true := by
  intro c member
  rcases List.mem_append.1 member with zero | digit
  · rw [List.eq_of_mem_replicate zero]
    decide
  · exact Nat.isDigit_of_mem_toDigits (by decide) (by decide) digit

end Text

namespace Expiry

open Text

/-- The names of the units in small letters, with their seconds. Days need no name. -/
def units : List (Text × Nat) :=
  [([], day), ("d", day), ("day", day), ("days", day), ("h", hour), ("hour", hour), ("hours", hour)]

/-- The name of a unit ends in front of the text: it is not one with more letters, and if nothing is
named, the text is not more of what stands in front of the name. -/
structure EndsBefore (name behind : Text) : Prop where
  letters : ∀ c ∈ behind.head?, ¬ c.isAlpha
  unnamed : name = [] → ∀ c ∈ behind.head?, ¬ isBlank c ∧ ¬ c.isDigit

theorem unit?_lower (name : Text) : unit? name.lower = unit? name := by
  unfold unit?
  rw [lower_lower]

theorem unit?_of_mem {name : Text} {unit : Nat} (named : (name.lower, unit) ∈ units) :
    unit? name = some unit := by
  have all : ∀ entry ∈ units, unit? entry.1 = some entry.2 := by decide
  rw [← unit?_lower]
  exact all _ named

theorem isAlpha_of_mem_units {name : Text} {unit : Nat} (named : (name.lower, unit) ∈ units) :
    ∀ c ∈ name, c.isAlpha = true := by
  have all : ∀ entry ∈ units, entry.1.all Char.isAlpha := by decide
  have letters := List.all_eq_true.1 (all _ named)
  exact fun c there => (isAlpha_toLower c).1 (letters _ (List.mem_map_of_mem there))

/-- The longest time fits into 64 bits, so what does not fit is longer. -/
theorem min_seconds (amount unit : Nat) :
    min (seconds amount unit) longest = min (amount * unit) longest := by
  have fits : longest ≤ UInt64.size - 1 := by decide
  rw [seconds, Nat.min_assoc, Nat.min_eq_right fits]

/-- A value is read by its first digits and by the first letters behind them. White space at its end
makes no difference. -/
theorem parse?_of_parts {value digits name : Text}
    (amount : value.trimStart.takeWhile Char.isDigit = digits)
    (unit : (trimStart (value.trimStart.dropWhile Char.isDigit)).takeWhile Char.isAlpha = name) :
    parse? value = if decimal digits = 0 ∨ UInt64.size ≤ decimal digits then none
      else (unit? name).map fun unit => min (decimal digits * unit) longest := by
  have amount' : value.trim.takeWhile Char.isDigit = digits := by
    rw [trim_eq, takeWhile_rdropWhile fun c => isBlank_of_isDigit]
    exact amount
  have unit' : (trimStart (value.trim.drop digits.length)).takeWhile Char.isAlpha = name := by
    rw [← amount', drop_length_takeWhile, trim_eq, dropWhile_rdropWhile, trimStart,
      dropWhile_rdropWhile, takeWhile_rdropWhile fun c => isBlank_of_isAlpha]
    exact unit
  simp only [parse?, amount', unit', min_seconds]

section Written

variable {lead gap name behind : Text} {unit : Nat} (indented : ∀ c ∈ lead, isBlank c)
  (spaced : ∀ c ∈ gap, isBlank c) (named : (name.lower, unit) ∈ units)
  (ends : EndsBefore name behind)

include indented in
theorem trimStart_written (zeros amount : Nat) (rest : Text) :
    trimStart (lead ++ (numeral zeros amount ++ rest)) = numeral zeros amount ++ rest := by
  refine dropWhile_append_of_stops indented (forall_head?_append ?_ ?_)
  · intro c digit
    simp [isBlank_of_isDigit (isDigit_of_mem_numeral c digit)]
  · exact fun none => absurd none (numeral_ne_nil zeros amount)

include named ends in
theorem not_isBlank_head : ∀ c ∈ (name ++ behind).head?, ¬ isBlank c := by
  refine forall_head?_append ?_ fun nothing c head => (ends.unnamed nothing c head).1
  intro c there
  simp [isBlank_of_isAlpha (isAlpha_of_mem_units named c there)]

include spaced named ends in
theorem not_isDigit_head : ∀ c ∈ (gap ++ (name ++ behind)).head?, ¬ c.isDigit := by
  refine forall_head?_append ?_ fun _ =>
    forall_head?_append ?_ fun nothing c head => (ends.unnamed nothing c head).2
  · intro c there digit
    have blank := spaced c there
    rw [isBlank_of_isDigit digit] at blank
    cases blank
  · intro c there
    simp [isDigit_of_isAlpha (isAlpha_of_mem_units named c there)]

include indented spaced named ends in
/-- A value yields the seconds that it writes, or fourteen days if that is less. Zero is refused,
and so is an amount that does not fit into 64 bits. -/
theorem parse?_numeral (zeros amount : Nat) :
    parse? (lead ++ numeral zeros amount ++ gap ++ name ++ behind) =
      if amount = 0 ∨ UInt64.size ≤ amount then none else some (min (amount * unit) (14 * day)) := by
  simp only [List.append_assoc]
  have start := trimStart_written indented zeros amount (gap ++ (name ++ behind))
  have digitsEnd := not_isDigit_head spaced named ends
  have digits : (trimStart (lead ++ (numeral zeros amount ++ (gap ++ (name ++ behind))))).takeWhile
      Char.isDigit = numeral zeros amount := by
    rw [start]
    exact takeWhile_eq_iff.2 ⟨_, rfl, isDigit_of_mem_numeral, digitsEnd⟩
  have letters : (trimStart ((trimStart (lead ++ (numeral zeros amount ++
      (gap ++ (name ++ behind))))).dropWhile Char.isDigit)).takeWhile Char.isAlpha = name := by
    rw [start, dropWhile_append_of_stops isDigit_of_mem_numeral digitsEnd, trimStart,
      dropWhile_append_of_stops spaced (not_isBlank_head named ends)]
    exact takeWhile_eq_iff.2 ⟨_, rfl, isAlpha_of_mem_units named, ends.letters⟩
  rw [parse?_of_parts digits letters, decimal_numeral, unit?_of_mem named]
  rfl

end Written

/-- The greatest amount that is read: its hours are capped twice. -/
theorem parse?_numeral_greatest :
    EndsBefore "hOurs" ", daily" ∧
      parse? "\u00a000018446744073709551615\thOurs, daily" = some (14 * day) := by
  have letters : ∀ c ∈ (", daily" : Text).head?, ¬ c.isAlpha := by
    rintro _ ⟨⟩
    decide
  have ends : EndsBefore "hOurs" ", daily" := ⟨letters, fun nothing => absurd nothing (by decide)⟩
  have value : ("\u00a000018446744073709551615\thOurs, daily" : Text) =
      "\u00a0" ++ numeral 3 (UInt64.size - 1) ++ "\t" ++ "hOurs" ++ ", daily" := by
    decide
  have read := @parse?_numeral "\u00a0" "\t" "hOurs" ", daily" hour
    (List.all_eq_true.1 (by decide)) (List.all_eq_true.1 (by decide)) (by decide) ends 3
    (UInt64.size - 1)
  have capped : 14 * day ≤ (UInt64.size - 1) * hour := by decide
  refine ⟨ends, ?_⟩
  rw [value, read, if_neg (by decide), Nat.min_eq_right capped]

/-- One more than the greatest amount counts for nothing, not for fourteen days. -/
theorem not_parse?_numeral :
    ¬ ∀ amount : Nat, 0 < amount →
      parse? (numeral 0 amount ++ " days") = some (min (amount * day) (14 * day)) := by
  intro claimed
  have lost : parse? (numeral 0 UInt64.size ++ " days") = none := by decide
  have capped := claimed UInt64.size (by decide)
  rw [lost] at capped
  cases capped

-- A list that asks for such an amount expires like one that says nothing.
example : Metadata.absent.add "! Expires: 18446744073709551616 days" = .absent := by decide

end Expiry

end ContentBlocker
