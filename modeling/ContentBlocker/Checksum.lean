import ContentBlocker.Bytes
import ContentBlocker.Text.Utf8
/-!
# Key hashes and checksums

Lookup tables are keyed by a 32-bit multiplicative hash of the key's bytes, in which zero marks an
empty slot and so never stands for a key. Buffers carry a cyclic redundancy check over the reflected
polynomial `0xedb88320`. All arithmetic wraps at 32 bits.
-/

namespace ContentBlocker

/-- `x` with its bits rotated `n` places to the left, for `0 < n < 32`. -/
def rotateLeft (x : UInt32) (n : UInt32) : UInt32 := (x <<< n) ||| (x >>> (32 - n))

namespace KeyHash

/-- Spreads the bits of one block before it is mixed into the state. -/
def scramble (k : UInt32) : UInt32 := rotateLeft (k * 0xcc9e2d51) 15 * 0x1b873593

/-- Mixes a scrambled block of four bytes into the state. -/
def mix (h k : UInt32) : UInt32 := rotateLeft (h ^^^ scramble k) 13 * 5 + 0xe6546b64

/-- Mixes whole blocks in order, then the one to three bytes that remain. -/
def absorb (h : UInt32) : List UInt8 → UInt32
  | a :: b :: c :: d :: rest => absorb (mix h (Bytes.ofBytes32 a b c d)) rest
  | [a, b, c] => h ^^^ scramble (Bytes.ofBytes32 a b c 0)
  | [a, b] => h ^^^ scramble (Bytes.ofBytes32 a b 0 0)
  | [a] => h ^^^ scramble (Bytes.ofBytes32 a 0 0 0)
  | [] => h

/-- Makes every bit of the state depend on every other. -/
def finish (h : UInt32) : UInt32 :=
  let h := (h ^^^ (h >>> 16)) * 0x85ebca6b
  let h := (h ^^^ (h >>> 13)) * 0xc2b2ae35
  h ^^^ (h >>> 16)

end KeyHash

/-- The seeded 32-bit hash of a byte string. -/
def hash32 (seed : UInt32) (bytes : List UInt8) : UInt32 :=
  KeyHash.finish (KeyHash.absorb seed bytes ^^^ bytes.length.toUInt32)

/-- The hash under which `key` is stored; never zero, since zero marks an empty slot. -/
def hashKey (key : Text) : UInt32 :=
  let h := hash32 0x811c9dc5 key.encode.data.toList
  if h = 0 then 1 else h

theorem hashKey_ne_zero (key : Text) : hashKey key ≠ 0 := by
  unfold hashKey
  dsimp only
  split
  · decide
  · assumption

namespace Crc

/-- One bit of polynomial division. -/
def shiftBit (c : UInt32) : UInt32 := if c &&& 1 = 0 then c >>> 1 else (c >>> 1) ^^^ 0xedb88320

/-- Eight bits of polynomial division. -/
def shiftByte (c : UInt32) : UInt32 :=
  shiftBit (shiftBit (shiftBit (shiftBit (shiftBit (shiftBit (shiftBit (shiftBit c)))))))

/-- The remainders of all single bytes. -/
def table : Vector UInt32 256 := Vector.ofFn fun i => shiftByte i.val.toUInt32

/-- The state after one more byte. -/
def step (state : UInt32) (byte : UInt8) : UInt32 :=
  table.get ⟨(state.toUInt8 ^^^ byte).toNat, UInt8.toNat_lt _⟩ ^^^ (state >>> 8)

/-- The state after more bytes. -/
def update (state : UInt32) (bytes : List UInt8) : UInt32 := bytes.foldl step state

/-- The state before any byte; the final state is inverted again by `checksum`. -/
def start : UInt32 := 0xffffffff

/-- The checksum of a byte string. -/
def checksum (bytes : List UInt8) : UInt32 := update start bytes ^^^ 0xffffffff

theorem update_append (state : UInt32) (a b : List UInt8) :
    update state (a ++ b) = update (update state a) b := List.foldl_append

end Crc

end ContentBlocker
