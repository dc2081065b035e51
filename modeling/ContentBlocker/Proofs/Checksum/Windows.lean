import ContentBlocker.Checksum
import Mathlib.Data.Nat.Bitwise
import Mathlib.Logic.Function.Iterate
/-!
# What a checksum notices

Division by the polynomial loses nothing: it maps different states to different states, and since it
is linear, four bytes in a row reach every state from any other in exactly one way. Two byte strings
that differ in a window of at most four bytes therefore have different checksums.
-/

namespace ContentBlocker.Crc

section Division

theorem toNat_shiftRight_one (c : UInt32) : (c >>> 1).toNat = c.toNat / 2 := by
  simp [Nat.shiftRight_eq_div_pow]

theorem shiftBit_of_even {c : UInt32} (even : c.toNat % 2 = 0) : shiftBit c = c >>> 1 := by
  apply if_pos
  rw [← UInt32.toNat_inj]
  simpa using even

theorem shiftBit_of_odd {c : UInt32} (odd : c.toNat % 2 = 1) :
    shiftBit c = (c >>> 1) ^^^ 0xedb88320 := by
  apply if_neg
  rw [← UInt32.toNat_inj]
  simpa using odd

/-- Dividing a sum is dividing its terms. -/
theorem shiftBit_xor (a b : UInt32) : shiftBit (a ^^^ b) = shiftBit a ^^^ shiftBit b := by
  have parity : (a ^^^ b).toNat % 2 = (a.toNat + b.toNat) % 2 := by
    rw [UInt32.toNat_xor, Nat.xor_mod_two_eq]
  rcases Nat.mod_two_eq_zero_or_one a.toNat with ha | ha <;>
    rcases Nat.mod_two_eq_zero_or_one b.toNat with hb | hb
  · rw [shiftBit_of_even ha, shiftBit_of_even hb, shiftBit_of_even (by omega),
      UInt32.shiftRight_xor]
  · rw [shiftBit_of_even ha, shiftBit_of_odd hb, shiftBit_of_odd (by omega), UInt32.shiftRight_xor,
      UInt32.xor_assoc]
  · rw [shiftBit_of_odd ha, shiftBit_of_even hb, shiftBit_of_odd (by omega), UInt32.shiftRight_xor]
    ac_rfl
  · -- the polynomial is subtracted twice
    rw [shiftBit_of_odd ha, shiftBit_of_odd hb, shiftBit_of_even (by omega), UInt32.shiftRight_xor]
    have cancel : ∀ x y p : UInt32, x ^^^ y = (x ^^^ p) ^^^ (y ^^^ p) := by
      intro x y p
      calc x ^^^ y = (x ^^^ y) ^^^ (p ^^^ p) := by rw [UInt32.xor_self, UInt32.xor_zero]
        _ = (x ^^^ p) ^^^ (y ^^^ p) := by ac_rfl
    exact cancel _ _ _

/-- Only zero leaves zero: the top bit tells whether the polynomial was subtracted. -/
theorem shiftBit_eq_zero {c : UInt32} (zero : shiftBit c = 0) : c = 0 := by
  rw [← UInt32.toNat_inj, UInt32.toNat_zero]
  rcases Nat.mod_two_eq_zero_or_one c.toNat with even | odd
  · rw [shiftBit_of_even even, ← UInt32.toNat_inj, toNat_shiftRight_one, UInt32.toNat_zero] at zero
    omega
  · rw [shiftBit_of_odd odd, UInt32.xor_eq_zero_iff, ← UInt32.toNat_inj,
      toNat_shiftRight_one] at zero
    have small := c.toNat_lt
    have top : (0xedb88320 : UInt32).toNat = 0xedb88320 := rfl
    omega

theorem shiftBit_injective : Function.Injective shiftBit := by
  intro a b same
  rw [← UInt32.xor_eq_zero_iff]
  apply shiftBit_eq_zero
  rw [shiftBit_xor, same, UInt32.xor_self]

theorem shiftByte_eq_iterate : shiftByte = shiftBit^[8] := rfl

theorem shiftByte_injective : Function.Injective shiftByte := shiftBit_injective.iterate 8

theorem shiftByte_xor (a b : UInt32) : shiftByte (a ^^^ b) = shiftByte a ^^^ shiftByte b := by
  simp only [shiftByte, shiftBit_xor]

/-- Low bits that are zero are shifted out and nothing is subtracted. -/
theorem toNat_iterate_shiftBit {n k : Nat} {c : UInt32} (multiple : c.toNat = 2 ^ k * n) :
    (shiftBit^[k] c).toNat = n := by
  induction k generalizing c with
  | zero => simpa using multiple
  | succ k ih =>
    have double : c.toNat = 2 * (2 ^ k * n) := by rw [multiple, Nat.pow_succ']; ac_rfl
    rw [Function.iterate_succ_apply, shiftBit_of_even (by omega)]
    apply ih
    rw [toNat_shiftRight_one, double]
    omega

theorem shiftByte_shiftLeft {c : UInt32} (small : c.toNat < 2 ^ 24) : shiftByte (c <<< 8) = c := by
  rw [← UInt32.toNat_inj, shiftByte_eq_iterate]
  apply toNat_iterate_shiftBit
  simp [Nat.shiftLeft_eq]
  omega

end Division

section Windows

theorem xor_two_pow_mul {b : Nat} (small : b < 2 ^ 8) (n : Nat) :
    b ^^^ 2 ^ 8 * n = 2 ^ 8 * n + b := by
  apply Nat.eq_of_testBit_eq
  intro i
  have whole := Nat.testBit_two_pow_mul_add n (b := 0) (i := 8) (by decide) i
  rw [Nat.add_zero] at whole
  rw [Nat.testBit_xor, Nat.testBit_two_pow_mul_add n small, whole]
  by_cases low : i < 8
  · simp [low]
  · have power : 2 ^ 8 ≤ 2 ^ i := Nat.pow_le_pow_right (by decide) (Nat.not_lt.1 low)
    have high : b.testBit i = false := Nat.testBit_lt_two_pow (Nat.lt_of_lt_of_le small power)
    simp [low, high]

/-- The number whose bytes these are, lowest first. -/
def word : List UInt8 → Nat
  | [] => 0
  | byte :: rest => 2 ^ 8 * word rest + byte.toNat

theorem word_lt (bytes : List UInt8) : word bytes < 2 ^ (8 * bytes.length) := by
  induction bytes with
  | nil => simp [word]
  | cons byte rest ih =>
    have small := byte.toNat_lt
    rw [word, List.length_cons, Nat.mul_add, Nat.pow_add]
    omega

theorem word_injective {bytes bytes' : List UInt8} (lengths : bytes.length = bytes'.length)
    (same : word bytes = word bytes') : bytes = bytes' := by
  induction bytes generalizing bytes' with
  | nil => exact (List.length_eq_zero_iff.1 lengths.symm).symm
  | cons byte rest ih =>
    cases bytes' with
    | nil => cases lengths
    | cons byte' rest' =>
      have small := byte.toNat_lt
      have small' := byte'.toNat_lt
      rw [word, word] at same
      have first : byte = byte' := UInt8.toNat_inj.1 (by omega)
      rw [first, ih (by simpa using lengths) (by omega)]

/-- A number of which `byte` is the lowest byte, as a sum of that byte and the others. -/
theorem xor_shiftLeft (byte : UInt8) (c : UInt32) :
    byte.toUInt32 ^^^ (c <<< 8) = UInt32.ofNat (2 ^ 8 * c.toNat + byte.toNat) := by
  have low := byte.toNat_lt
  rw [← UInt32.toNat_inj, ← xor_two_pow_mul low, UInt32.ofNat_xor, UInt32.toNat_xor,
    UInt32.toNat_xor]
  congr 1
  · simp
  · simp [Nat.shiftLeft_eq, Nat.mul_comm]

theorem toNat_shiftRight_eight (c : UInt32) : (c >>> 8).toNat = c.toNat / 2 ^ 8 := by
  simp [Nat.shiftRight_eq_div_pow]

theorem low_xor_high (c : UInt32) : c.toUInt8.toUInt32 ^^^ ((c >>> 8) <<< 8) = c := by
  have small := c.toNat_lt
  rw [xor_shiftLeft, ← UInt32.toNat_inj, toNat_shiftRight_eight, UInt32.toNat_ofNat',
    UInt32.toNat_toUInt8]
  omega

/-- The table holds the remainder of the low byte, and the other bytes move down. -/
theorem step_eq (state : UInt32) (byte : UInt8) :
    step state byte = shiftByte (state ^^^ byte.toUInt32) := by
  have low : (state ^^^ byte.toUInt32).toUInt8 = state.toUInt8 ^^^ byte := by simp
  have high : (state ^^^ byte.toUInt32) >>> 8 = state >>> 8 := by
    have none : byte.toUInt32 >>> 8 = 0 := by
      have := byte.toNat_lt
      rw [← UInt32.toNat_inj, toNat_shiftRight_eight, UInt8.toNat_toUInt32, UInt32.toNat_zero]
      omega
    rw [UInt32.shiftRight_xor, none, UInt32.xor_zero]
  have small : (state >>> 8).toNat < 2 ^ 24 := by
    have := state.toNat_lt
    rw [toNat_shiftRight_eight]
    omega
  have looked (i : Fin 256) : table.get i = shiftByte i.val.toUInt32 := Vector.getElem_ofFn i.isLt
  have widened (b : UInt8) : b.toNat.toUInt32 = b.toUInt32 := by
    rw [← UInt32.toNat_inj]
    simp
  rw [← low_xor_high (state ^^^ byte.toUInt32), low, high, shiftByte_xor, shiftByte_shiftLeft small,
    step, looked, widened]

/-- A window of at most four bytes is added to the state and divided with it. -/
theorem update_eq {bytes : List UInt8} (short : bytes.length ≤ 4) (state : UInt32) :
    update state bytes = shiftByte^[bytes.length] (state ^^^ UInt32.ofNat (word bytes)) := by
  induction bytes generalizing state with
  | nil => simp [update, word]
  | cons byte rest ih =>
    have small : word rest < 2 ^ 24 := by
      refine Nat.lt_of_lt_of_le (word_lt rest) (Nat.pow_le_pow_right (by decide) ?_)
      rw [List.length_cons] at short
      omega
    have same : (UInt32.ofNat (word rest)).toNat = word rest :=
      UInt32.toNat_ofNat_of_lt' (Nat.lt_trans small (by decide))
    have divided : UInt32.ofNat (word rest) = shiftByte (UInt32.ofNat (word rest) <<< 8) :=
      (shiftByte_shiftLeft (same.symm ▸ small)).symm
    have joined : UInt32.ofNat (word (byte :: rest)) =
        byte.toUInt32 ^^^ (UInt32.ofNat (word rest) <<< 8) := by
      rw [xor_shiftLeft, same, word]
    calc update state (byte :: rest)
        = update (shiftByte (state ^^^ byte.toUInt32)) rest := by rw [← step_eq]; rfl
      _ = shiftByte^[rest.length]
            (shiftByte (state ^^^ byte.toUInt32) ^^^ UInt32.ofNat (word rest)) :=
          ih (by simp at short; omega) _
      _ = shiftByte^[rest.length]
            (shiftByte (state ^^^ UInt32.ofNat (word (byte :: rest)))) := by
          rw [joined, ← UInt32.xor_assoc, shiftByte_xor _ (UInt32.ofNat (word rest) <<< 8),
            ← divided]
      _ = _ := by rw [List.length_cons, Function.iterate_succ_apply]

/-- States that differ differ after the same bytes. -/
theorem update_state_injective (bytes : List UInt8) {state state' : UInt32}
    (same : update state bytes = update state' bytes) : state = state' := by
  induction bytes generalizing state state' with
  | nil => exact same
  | cons byte rest ih =>
    have first : step state byte = step state' byte := ih same
    rw [step_eq, step_eq] at first
    exact (UInt32.xor_left_inj _).1 (shiftByte_injective first)

/-- Windows of one length that differ take a state to different states. -/
theorem update_window_injective {bytes bytes' : List UInt8} (short : bytes.length ≤ 4)
    (lengths : bytes.length = bytes'.length) {state : UInt32}
    (same : update state bytes = update state bytes') : bytes = bytes' := by
  rw [update_eq short, update_eq (lengths ▸ short), ← lengths] at same
  have sum := shiftByte_injective.iterate _ same
  rw [UInt32.xor_right_inj] at sum
  have bound : word bytes < 2 ^ 32 := Nat.lt_of_lt_of_le (word_lt bytes)
    (Nat.pow_le_pow_right (by decide) (by omega))
  have bound' : word bytes' < 2 ^ 32 := Nat.lt_of_lt_of_le (word_lt bytes')
    (Nat.pow_le_pow_right (by decide) (by omega))
  have value := congrArg UInt32.toNat sum
  rw [UInt32.toNat_ofNat_of_lt' bound, UInt32.toNat_ofNat_of_lt' bound'] at value
  exact word_injective lengths value

/-- Byte strings that differ only in a window of at most four bytes have different checksums. -/
theorem checksum_ne_of_window {before bytes bytes' after : List UInt8} (short : bytes.length ≤ 4)
    (lengths : bytes.length = bytes'.length) (differ : bytes ≠ bytes') :
    checksum (before ++ bytes ++ after) ≠ checksum (before ++ bytes' ++ after) := by
  intro same
  rw [checksum, checksum, UInt32.xor_left_inj, update_append, update_append, update_append,
    update_append] at same
  exact differ (update_window_injective short lengths (update_state_injective after same))

end Windows

end ContentBlocker.Crc
