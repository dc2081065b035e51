import ContentBlocker.Checksum
import ContentBlocker.Index.Section
import ContentBlocker.Index.SubIndex
/-!
# Loading an index

Loading checks a buffer once: its header, its checksum, and that every section and lookup table lies
where it may. What is read afterwards is read from a buffer that passed, and whatever is out of
place in it reads as absent. Of two entries for one section or table the later counts; entries for
unknown ones are passed over.
-/

namespace ContentBlocker

/-- Why a section cannot be used. -/
inductive SectionFault where
  | directoryOutOfBounds
  | sectionOutOfBounds (id : SectionId)
  | tableCountMissing
  | tableDirectoryTruncated
  | capacityNotPowerOfTwo
  | tableOutOfBounds (index : SubIndex)
  deriving DecidableEq, Repr

/-- Why a buffer is no index. -/
inductive LoadFault where
  | tooShort
  | magic
  | version (found : UInt16)
  | checksum (stored computed : UInt32)
  | invalidSection (fault : SectionFault)
  deriving DecidableEq, Repr

namespace SectionFault

/-- The text of a fault. -/
def message : SectionFault → Text
  | directoryOutOfBounds => "section directory out of bounds"
  | sectionOutOfBounds id => id.name ++ " out of bounds"
  | tableCountMissing => "Indexes: missing count"
  | tableDirectoryTruncated => "Indexes: truncated directory"
  | capacityNotPowerOfTwo => "Indexes: capacity is not a power of two"
  | tableOutOfBounds index => "Indexes: " ++ index.name

end SectionFault

namespace LoadFault

/-- A word in eight hexadecimal digits. -/
def hexWord (n : UInt32) : Text :=
  let digits := Nat.toDigits 16 n.toNat
  "0x" ++ List.replicate (8 - digits.length) '0' ++ digits

/-- The text of a fault. -/
def message : LoadFault → Text
  | tooShort => "Data too short"
  | magic => "Invalid magic bytes"
  | version found => "Unsupported version: " ++ Nat.toDigits 10 found.toNat
  | checksum stored computed =>
    "CRC32 mismatch: stored=" ++ hexWord stored ++ ", computed=" ++ hexWord computed
  | invalidSection fault => "Invalid section: " ++ fault.message

end LoadFault

/-- Where a section lies in its buffer. -/
structure Extent where
  offset : Nat
  length : Nat
  deriving DecidableEq, Repr

/-- Where a lookup table lies in its section. -/
structure TableExtent where
  offset : Nat
  capacity : Nat
  keyCount : Nat
  deriving DecidableEq, Repr

/-- The table of a sub-index that has none. -/
def TableExtent.absent : TableExtent := ⟨0, 0, 0⟩

/-- A buffer that has been found to be an index, with the places of its parts. -/
structure Snapshot where
  data : ByteArray
  version : UInt16
  flags : UInt16
  buildId : UInt32
  sections : SectionId → Option Extent
  tables : SubIndex → TableExtent

namespace Snapshot

/-- The bytes of a section; none if it is absent. -/
def sectionBytes (s : Snapshot) (id : SectionId) : ByteArray :=
  match s.sections id with
  | some extent => Bytes.sliceOrEmpty s.data extent.offset extent.length
  | none => ByteArray.empty

/-- The checksum of a buffer: of all but the four bytes that hold it. -/
def checksumOf (data : ByteArray) : UInt32 :=
  Crc.checksum (data.data.toList.take 28 ++ data.data.toList.drop 32)

/-- Whether a buffer holds the checksum that it should. -/
def checkChecksum (data : ByteArray) (flags : UInt16) (stored : UInt32) : Except LoadFault Unit :=
  if flags &&& Layout.hasChecksum = 0 ∨ stored = checksumOf data then .ok ()
  else .error (.checksum stored (checksumOf data))

/-- The places of sections after `count` directory entries from position `entry` on. -/
def readSections (data : ByteArray) (entry : Nat) :
    Nat → (SectionId → Option Extent) → Except LoadFault (SectionId → Option Extent)
  | 0, sections => .ok sections
  | count + 1, sections => do
    let some number := Bytes.u16At? data entry | .error .tooShort
    let some offset := Bytes.u32At? data (entry + 4) | .error .tooShort
    let some length := Bytes.u32At? data (entry + 8) | .error .tooShort
    let sections ← match SectionId.ofNumber? number.toNat with
      | none => Except.ok sections
      | some id =>
        let extent : Extent := ⟨offset.toNat, length.toNat⟩
        if data.size < extent.offset + extent.length then
          .error (.invalidSection (.sectionOutOfBounds id))
        else .ok fun other => if other = id then some extent else sections other
    readSections data (entry + Layout.directoryEntrySize) count sections

/-- Whether `n` is a power of two. -/
def isPowerOfTwo (n : Nat) : Bool := n ≠ 0 && n &&& (n - 1) = 0

/-- The places of tables after `count` directory entries from position `entry` of their section
on. -/
def readTables (table : ByteArray) (entry : Nat) :
    Nat → (SubIndex → TableExtent) → Except SectionFault (SubIndex → TableExtent)
  | 0, tables => .ok tables
  | count + 1, tables => do
    let some number := Bytes.u16At? table entry | .error .tableDirectoryTruncated
    let some capacity := Bytes.u32At? table (entry + 4) | .error .tableDirectoryTruncated
    let some keyCount := Bytes.u32At? table (entry + 8) | .error .tableDirectoryTruncated
    let some offset := Bytes.u32At? table (entry + 12) | .error .tableDirectoryTruncated
    let tables ← match SubIndex.ofNumber? number.toNat with
      | none => Except.ok tables
      | some index =>
        let extent : TableExtent := ⟨offset.toNat, capacity.toNat, keyCount.toNat⟩
        if extent.capacity ≠ 0 ∧ !isPowerOfTwo extent.capacity then .error .capacityNotPowerOfTwo
        else if table.size < extent.offset + extent.capacity * Layout.slotSize ∨
            extent.capacity < extent.keyCount then
          .error (.tableOutOfBounds index)
        else .ok fun other => if other = index then extent else tables other
    readTables table (entry + Layout.tableEntrySize) count tables

/-- The places of all tables in their section. -/
def readTableSection (table : ByteArray) : Except SectionFault (SubIndex → TableExtent) :=
  if table.size = 0 then .ok fun _ => .absent
  else match Bytes.u32At? table 0 with
    | none => .error .tableCountMissing
    | some count => readTables table 4 count.toNat fun _ => .absent

/-- The index in a buffer, or why it holds none. -/
def load (data : ByteArray) : Except LoadFault Snapshot := do
  if data.size < Layout.headerSize then throw .tooShort
  if !Layout.hasMagic data then throw .magic
  let some version := Bytes.u16At? data 4 | throw .tooShort
  if version ≠ Layout.version then throw (.version version)
  let some flags := Bytes.u16At? data 6 | throw .tooShort
  let some count := Bytes.u32At? data 12 | throw .tooShort
  let some directory := Bytes.u32At? data 16 | throw .tooShort
  let some buildId := Bytes.u32At? data 24 | throw .tooShort
  let some stored := Bytes.u32At? data 28 | throw .tooShort
  checkChecksum data flags stored
  if data.size < directory.toNat + count.toNat * Layout.directoryEntrySize then
    throw (.invalidSection .directoryOutOfBounds)
  let sections ← readSections data directory.toNat count.toNat fun _ => none
  let s : Snapshot :=
    { data, version, flags, buildId, sections, tables := fun _ => .absent }
  let tables ← (readTableSection (s.sectionBytes .tables)).mapError .invalidSection
  return { s with tables }

/-- How many sections are present. -/
def sectionCount (s : Snapshot) : Nat :=
  (SectionId.all.filter fun id => (s.sections id).isSome).length

/-- A buffer in words. -/
def summary (s : Snapshot) : Text :=
  "Snapshot \x7b bytes: " ++ Nat.toDigits 10 s.data.size ++ ", version: " ++
    Nat.toDigits 10 s.version.toNat ++ ", build_id: " ++ Nat.toDigits 10 s.buildId.toNat ++ " \x7d"

end Snapshot

end ContentBlocker
