import ContentBlocker.Text.Basic
/-!
# Rounded quotients

A quotient is shown with one decimal place; a value halfway between two of them goes to the even
one.
-/

namespace ContentBlocker.Text

/-- `n / d` to the nearest whole number, halves to the even one. -/
def roundedQuotient (n d : Nat) : Nat :=
  let quotient := n / d
  let rest := 2 * (n % d)
  if d < rest ∨ (rest = d ∧ quotient % 2 = 1) then quotient + 1 else quotient

/-- `n / d` with one decimal place. -/
def oneDecimal (n d : Nat) : Text :=
  let tenths := roundedQuotient (10 * n) d
  Nat.toDigits 10 (tenths / 10) ++ '.' :: Nat.toDigits 10 (tenths % 10)

/-- The rounded quotient is at most half a unit away. -/
theorem roundedQuotient_near (n d : Nat) (h : 0 < d) :
    2 * n ≤ 2 * d * roundedQuotient n d + d ∧ 2 * d * roundedQuotient n d ≤ 2 * n + d := by
  have split := Nat.div_add_mod n d
  have below := Nat.mod_lt n h
  unfold roundedQuotient
  dsimp only
  split
  · rw [Nat.mul_add, Nat.mul_assoc]
    omega
  · rw [Nat.mul_assoc]
    omega

end ContentBlocker.Text
