import ContentBlocker.Checksum
import ContentBlocker.Index.Pool
/-!
# Lookup tables

A lookup table maps keys to posting lists. It has a power of two of slots; a key stands in the first
slot that was free when it came, counted from the slot that its hash names and round the end of the
table. At least three slots in ten stay free, so that the search for a key that is not there ends.
-/

namespace ContentBlocker

/-- A key of a lookup table: its hash, the key, and where its posting list starts. -/
structure Slot where
  hash : UInt32
  key : StringRef
  postings : UInt32
  deriving DecidableEq, Repr

namespace Slot

/-- A slot in bytes. -/
def bytes (slot : Slot) : List UInt8 :=
  Bytes.le32 slot.hash ++ slot.key.bytes ++ Bytes.le32 slot.postings

/-- The bytes of a free slot. -/
def free : List UInt8 := List.replicate Layout.slotSize 0

end Slot

namespace Table

/-- The least power of two from `start` up, itself a power of two, that reaches `n`. -/
def powerFrom (start n : Nat) : Nat :=
  if start = 0 ∨ n ≤ start then start else powerFrom (2 * start) n
termination_by n - start

/-- How many slots a table for `count` keys has: a power of two, at least two, of which the keys
take no more than seven in ten. -/
def capacity (count : Nat) : Nat := powerFrom 2 ((10 * count + 6) / 7)

/-- Visits `left` slots from slot `i` on, round the end of the table, until a visit answers. -/
def probe {α : Type} (capacity : Nat) (visit : Nat → Option α) : Nat → Nat → Option α
  | 0, _ => none
  | left + 1, i =>
    match visit i with
    | some a => some a
    | none => probe capacity visit left ((i + 1) % capacity)

/-- Visits the slots that a key with this hash may stand in, in the order in which they are
tried. -/
def search {α : Type} (capacity : Nat) (hash : UInt32) (visit : Nat → Option α) : Option α :=
  probe capacity visit capacity (hash.toNat % capacity)

/-- The slots after one more key, which takes the first free slot. -/
def insert (slots : Array (Option Slot)) (slot : Slot) : Array (Option Slot) :=
  match search slots.size slot.hash fun i => if slots[i]? = some none then some i else none with
  | some i => slots.setIfInBounds i (some slot)
  | none => slots

/-- The slots of a table for several keys, given in turn. -/
def ofKeys (keys : List Slot) : Array (Option Slot) :=
  keys.foldl insert (Array.replicate (capacity keys.length) none)

/-- The slots of a table in bytes. -/
def bytes (slots : Array (Option Slot)) : List UInt8 :=
  slots.toList.flatMap fun slot => (slot.map Slot.bytes).getD Slot.free

end Table

end ContentBlocker
