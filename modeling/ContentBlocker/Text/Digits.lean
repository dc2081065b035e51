import ContentBlocker.Text.Basic
/-!
# Numbers in text

The values of decimal and hexadecimal digits, all of them ASCII.
-/

namespace ContentBlocker.Text

/-- The number that decimal digits write, zero for no digits. -/
def decimal (digits : Text) : Nat := digits.foldl (fun n d => 10 * n + (d.toNat - '0'.toNat)) 0

/-- The value of a hexadecimal digit in either case. -/
def hexValue? (c : Char) : Option Nat :=
  if c.isDigit then some (c.toNat - '0'.toNat)
  else if 'a' ≤ c ∧ c ≤ 'f' then some (c.toNat - 'a'.toNat + 10)
  else if 'A' ≤ c ∧ c ≤ 'F' then some (c.toNat - 'A'.toNat + 10)
  else none

/-- The number that hexadecimal digits write; `none` if one of them is no such digit. -/
def hexadecimal? (digits : Text) : Option Nat :=
  digits.foldlM (fun n d => (hexValue? d).map (16 * n + ·)) 0

/-- The character whose code point hexadecimal digits write; there must be a digit. -/
def hexChar? (digits : Text) : Option Char := do
  let n ← hexadecimal? digits
  if digits ≠ [] ∧ n.isValidChar then some (Char.ofNat n) else none

end ContentBlocker.Text
