/-!
# Little-endian numbers in byte arrays

Numbers of two and four bytes are stored with the lowest byte first. Reading is checked: a number or
a slice that does not lie inside the array reads as `none`.
-/

namespace ContentBlocker.Bytes

/-- The two bytes of `n`, lowest first. -/
def le16 (n : UInt16) : List UInt8 :=
  [UInt8.ofNat n.toNat, UInt8.ofNat (n.toNat / 0x100)]

/-- The four bytes of `n`, lowest first. -/
def le32 (n : UInt32) : List UInt8 :=
  [UInt8.ofNat n.toNat, UInt8.ofNat (n.toNat / 0x100), UInt8.ofNat (n.toNat / 0x10000),
    UInt8.ofNat (n.toNat / 0x1000000)]

/-- The number whose bytes are `a` and `b`, lowest first. -/
def ofBytes16 (a b : UInt8) : UInt16 := UInt16.ofNat (a.toNat + 0x100 * b.toNat)

/-- The number whose bytes are `a`, `b`, `c` and `d`, lowest first. -/
def ofBytes32 (a b c d : UInt8) : UInt32 :=
  UInt32.ofNat (a.toNat + 0x100 * b.toNat + 0x10000 * c.toNat + 0x1000000 * d.toNat)

/-- The two-byte number at position `i`. -/
def u16At? (data : ByteArray) (i : Nat) : Option UInt16 :=
  if h : i + 2 ≤ data.size then some (ofBytes16 data[i] data[i + 1]) else none

/-- The four-byte number at position `i`. -/
def u32At? (data : ByteArray) (i : Nat) : Option UInt32 :=
  if h : i + 4 ≤ data.size then some (ofBytes32 data[i] data[i + 1] data[i + 2] data[i + 3])
  else none

/-- The four-byte number at position `i` as a natural number; zero outside the array. -/
def natAt (data : ByteArray) (i : Nat) : Nat := ((u32At? data i).map UInt32.toNat).getD 0

/-- The `length` bytes from `start`, provided that all of them lie in the array. -/
def slice? (data : ByteArray) (start length : Nat) : Option ByteArray :=
  if start + length ≤ data.size then some (data.extract start (start + length)) else none

/-- The `length` bytes from `start`, or no bytes if some of them lie outside the array. -/
def sliceOrEmpty (data : ByteArray) (start length : Nat) : ByteArray :=
  (slice? data start length).getD ByteArray.empty

theorem ofBytes16_le16 (n : UInt16) :
    ofBytes16 (UInt8.ofNat n.toNat) (UInt8.ofNat (n.toNat / 0x100)) = n := by
  apply UInt16.toNat_inj.1
  have := n.toNat_lt
  simp only [ofBytes16, UInt16.toNat_ofNat', UInt8.toNat_ofNat']
  omega

theorem ofBytes32_le32 (n : UInt32) :
    ofBytes32 (UInt8.ofNat n.toNat) (UInt8.ofNat (n.toNat / 0x100))
      (UInt8.ofNat (n.toNat / 0x10000)) (UInt8.ofNat (n.toNat / 0x1000000)) = n := by
  apply UInt32.toNat_inj.1
  have := n.toNat_lt
  simp only [ofBytes32, UInt32.toNat_ofNat', UInt8.toNat_ofNat']
  omega

end ContentBlocker.Bytes
