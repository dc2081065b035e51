import ContentBlocker.Bytes
import ContentBlocker.Text.Basic
/-!
# The parts of an index buffer

An index is one buffer: a header, a directory of sections, and the sections, each at a multiple of
four bytes. Texts are stored once and referred to by their place in the string section.
-/

namespace ContentBlocker

/-- A section of an index buffer. -/
inductive SectionId where
  /-- the bytes of all texts -/
  | strings
  | metadata
  /-- the domains and keys of filters -/
  | domainLists
  | urlFilters
  | contentFilters
  | snippetFilters
  | snippetCalls
  | snippetArguments
  /-- the lists of filters under each key -/
  | postings
  /-- the lookup tables -/
  | tables
  deriving DecidableEq, Repr

namespace SectionId

/-- All sections in the order of their numbers, with the names by which they are reported. -/
def named : List (SectionId × String) :=
  [(strings, "StrPool"), (metadata, "Metadata"), (domainLists, "DomainLists"),
    (urlFilters, "UrlFilters"), (contentFilters, "ContentFilters"),
    (snippetFilters, "SnippetFilters"), (snippetCalls, "SnippetCalls"),
    (snippetArguments, "SnippetArgs"), (postings, "Postings"), (tables, "Indexes")]

/-- All sections in the order of their numbers. -/
def all : List SectionId := named.map Prod.fst

/-- The name by which a section is reported. -/
def name (id : SectionId) : String := (named.lookup id).getD ""

/-- The number of a section in the index format, from one up. -/
def number (id : SectionId) : Nat := all.idxOf id + 1

/-- The section with a number. -/
def ofNumber? : Nat → Option SectionId
  | 0 => none
  | n + 1 => all[n]?

theorem mem_all (id : SectionId) : id ∈ all := by cases id <;> decide

theorem ofNumber?_number (id : SectionId) : ofNumber? id.number = some id := by cases id <;> rfl

end SectionId

namespace Layout

/-- The first four bytes of every index. -/
def magic : List UInt8 := [0x46, 0x4c, 0x58, 0x31]

/-- The version of the format. -/
def version : UInt16 := 1

/-- The bytes of the header. -/
def headerSize : Nat := 64

/-- The bytes of an entry of the section directory. -/
def directoryEntrySize : Nat := 24

/-- The flag of a buffer that carries a checksum. -/
def hasChecksum : UInt16 := 1

/-- The bytes of a record of each kind, and of an entry and a slot of the lookup tables. -/
def urlFilterSize : Nat := 32

@[inherit_doc urlFilterSize]
def contentFilterSize : Nat := 20

@[inherit_doc urlFilterSize]
def snippetFilterSize : Nat := 12

@[inherit_doc urlFilterSize]
def snippetCallSize : Nat := 16

@[inherit_doc urlFilterSize]
def stringRefSize : Nat := 8

@[inherit_doc urlFilterSize]
def tableEntrySize : Nat := 16

@[inherit_doc urlFilterSize]
def slotSize : Nat := 16

/-- Stands for the place of the domains of a filter that has none. -/
def noLists : UInt32 := 0xffffffff

/-- The least multiple of `alignment` from `n` up. -/
def align (n alignment : Nat) : Nat := (n + alignment - 1) / alignment * alignment

/-- Whether a buffer starts as an index does. -/
def hasMagic (data : ByteArray) : Bool := data.data.toList.take 4 = magic

end Layout

end ContentBlocker
