import ContentBlocker.Bytes
/-!
# Posting lists

A posting list holds the numbers of the filters under one key: their count, then the difference of
each to the one before it, modulo `2 ^ 32`. A difference is written in groups of seven bits, lowest
first, and every group but the last is marked by its top bit.
-/

namespace ContentBlocker

namespace Varint

/-- The groups of a number. -/
def encodeNat (n : Nat) : List UInt8 :=
  if n < 128 then [UInt8.ofNat n] else UInt8.ofNat (n % 128 + 128) :: encodeNat (n / 128)
termination_by n

/-- The groups of a word. -/
def encode (n : UInt32) : List UInt8 := encodeNat n.toNat

/-- The word that at most `groups` groups write, and what follows them. Groups that are cut off, or
do not end, count as far as they go. -/
def decodeGroups : Nat → List UInt8 → UInt32 × List UInt8
  | groups + 1, byte :: rest =>
    let low := (byte &&& 0x7f).toUInt32
    if byte &&& 0x80 = 0 then (low, rest)
    else
      let (high, rest) := decodeGroups groups rest
      (low ||| high <<< 7, rest)
  | _, rest => (0, rest)

/-- The word at the start of a byte string, of at most five groups, and what follows it. -/
def decode (bytes : List UInt8) : UInt32 × List UInt8 := decodeGroups 5 bytes

end Varint

namespace PostingList

/-- The differences of numbers, each to the one before it. -/
def encodeIds (previous : UInt32) : List UInt32 → List UInt8
  | [] => []
  | id :: ids => Varint.encode (id - previous) ++ encodeIds id ids

/-- A posting list in bytes. -/
def encode (ids : List UInt32) : List UInt8 :=
  Bytes.le32 (UInt32.ofNat ids.length) ++ encodeIds 0 ids

/-- At most `count` numbers, as many as there are bytes for. -/
def decodeIds (previous : UInt32) : Nat → List UInt8 → List UInt32
  | count + 1, byte :: rest =>
    let (difference, rest) := Varint.decode (byte :: rest)
    let id := previous + difference
    id :: decodeIds id count rest
  | _, _ => []

/-- The posting list at a position; none is empty. -/
def decodeAt (data : ByteArray) (start : Nat) : List UInt32 :=
  match Bytes.u32At? data start with
  | none => []
  | some count => decodeIds 0 count.toNat (data.extract (start + 4) data.size).data.toList

end PostingList

end ContentBlocker
