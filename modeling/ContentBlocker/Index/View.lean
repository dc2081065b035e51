import ContentBlocker.Index.Postings
import ContentBlocker.Index.Record
import ContentBlocker.Index.Snapshot
import ContentBlocker.Index.Table
import ContentBlocker.FilterList.Metadata
/-!
# Reading an index

The filters of a loaded index by number, the numbers under a key of a sub-index, and the metadata. A
reference that leads nowhere reads as the empty text, a place without domain lists as empty lists,
and a number without filter as none.
-/

namespace ContentBlocker

/-- A filter on addresses as it stands in an index. -/
structure IndexedUrl where
  /-- the source of its expression -/
  source : Text
  matchCase : Bool
  contentTypes : ContentTypes
  party : PartyRule
  substitute : Substitute
  payload : Text
  lists : DomainLists
  deriving DecidableEq, Repr

/-- A filter on elements as it stands in an index. -/
structure IndexedContent where
  selector : Text
  css : Text
  lists : DomainLists
  deriving DecidableEq, Repr

/-- A filter that runs calls as it stands in an index. -/
structure IndexedSnippet where
  calls : List SnippetCall
  lists : DomainLists
  deriving DecidableEq, Repr

/-- What an index says about its list. -/
structure ListInfo where
  source : Text
  title : Text
  version : Text
  homepage : Text
  /-- in seconds -/
  expires : Nat
  deriving DecidableEq, Repr

namespace Snapshot

/-- The bytes of all texts. -/
def textBytes (s : Snapshot) : ByteArray :=
  let stored := s.sectionBytes .strings
  Bytes.sliceOrEmpty stored 4 (Bytes.natAt stored 0)

/-- The text at a reference; empty if there is none. -/
def resolve (texts : ByteArray) (r : StringRef) : Text :=
  ((Bytes.slice? texts r.start.toNat r.length.toNat).bind Text.decode?).getD []

/-- The text at the reference that stands at a position; empty if there is none. -/
def resolveAt (texts data : ByteArray) (i : Nat) : Text :=
  ((StringRef.read? data i).map (resolve texts)).getD []

/-- The texts at `count` references that stand from a position on; none unless all stand there. -/
def resolveList (texts data : ByteArray) (start count : Nat) : List Text :=
  if data.size < start + count * Layout.stringRefSize then []
  else (List.range count).map fun i => resolveAt texts data (start + i * Layout.stringRefSize)

/-- The domain lists at a place. -/
def listsAt (s : Snapshot) (place : UInt32) : DomainLists :=
  if place = Layout.noLists then .empty
  else
    let texts := s.textBytes
    let data := s.sectionBytes .domainLists
    let start := place.toNat
    let included := Bytes.natAt data start
    let excluded := Bytes.natAt data (start + 4)
    let sitekeys := Bytes.natAt data (start + 8)
    let first := start + 12
    let second := first + included * Layout.stringRefSize
    let third := second + excluded * Layout.stringRefSize
    { included := resolveList texts data first included
      excluded := resolveList texts data second excluded
      sitekeys := resolveList texts data third sitekeys }

/-- How many records of a size a section says it has, as far as there is room for them. -/
def recordCount (data : ByteArray) (size : Nat) : Nat :=
  min (Bytes.natAt data 0) ((data.size - 4) / size)

/-- Where a record of a section starts. -/
def recordStart? (data : ByteArray) (size id : Nat) : Option Nat :=
  if id < recordCount data size then some (4 + id * size) else none

/-- How many filters on addresses there are. -/
def urlCount (s : Snapshot) : Nat := recordCount (s.sectionBytes .urlFilters) Layout.urlFilterSize

/-- The filter on addresses with a number. -/
def url? (s : Snapshot) (id : Nat) : Option IndexedUrl := do
  let data := s.sectionBytes .urlFilters
  let record ← UrlRecord.read? data (← recordStart? data Layout.urlFilterSize id)
  let texts := s.textBytes
  return {
    source := resolve texts record.pattern
    matchCase := record.flags &&& 1 ≠ 0
    contentTypes := .ofBits record.contentTypes
    party := (PartyRule.ofNumber? record.party.toNat).getD .either
    substitute := (Substitute.ofNumber? record.substitute.toNat).getD .unlisted
    payload := resolve texts record.payload
    lists := s.listsAt record.lists }

/-- How many filters on elements there are. -/
def contentCount (s : Snapshot) : Nat :=
  recordCount (s.sectionBytes .contentFilters) Layout.contentFilterSize

/-- The filter on elements with a number. -/
def content? (s : Snapshot) (id : Nat) : Option IndexedContent := do
  let data := s.sectionBytes .contentFilters
  let record ← ContentRecord.read? data (← recordStart? data Layout.contentFilterSize id)
  let texts := s.textBytes
  return {
    selector := resolve texts record.selector
    css := resolve texts record.css
    lists := s.listsAt record.lists }

/-- The call with a number; none if its arguments are not all there. -/
def call? (s : Snapshot) (id : Nat) : Option SnippetCall := do
  let data := s.sectionBytes .snippetCalls
  let record ← CallRecord.read? data (← recordStart? data Layout.snippetCallSize id)
  let arguments := s.sectionBytes .snippetArguments
  let start := record.firstArgument.toNat * Layout.stringRefSize
  let count := record.argumentCount.toNat
  let texts := s.textBytes
  if arguments.size < start + count * Layout.stringRefSize then none
  else return {
    command := resolve texts record.command
    arguments := resolveList texts arguments start count }

/-- How many filters that run calls there are. -/
def snippetCount (s : Snapshot) : Nat :=
  recordCount (s.sectionBytes .snippetFilters) Layout.snippetFilterSize

/-- The filter that runs calls with a number. -/
def snippet? (s : Snapshot) (id : Nat) : Option IndexedSnippet := do
  let data := s.sectionBytes .snippetFilters
  let record ← SnippetRecord.read? data (← recordStart? data Layout.snippetFilterSize id)
  let calls := recordCount (s.sectionBytes .snippetCalls) Layout.snippetCallSize
  let first := record.firstCall.toNat
  let count := min record.callCount.toNat (calls - first)
  return {
    calls := (List.range count).filterMap fun i => s.call? (first + i)
    lists := s.listsAt record.lists }

/-- What the index says about its list. -/
def info (s : Snapshot) : ListInfo :=
  let data := s.sectionBytes .metadata
  let texts := s.textBytes
  { source := resolveAt texts data 0
    title := resolveAt texts data 8
    version := resolveAt texts data 16
    homepage := resolveAt texts data 24
    expires := Bytes.natAt data 32 }

/-- How many keys a sub-index has. -/
def keyCount (s : Snapshot) (index : SubIndex) : Nat := (s.tables index).keyCount

/-- The slot of a table with a number; `none` if it is free or not there. -/
def slotAt? (data : ByteArray) (table : TableExtent) (i : Nat) : Option Slot := do
  let start := table.offset + i * Layout.slotSize
  let hash ← Bytes.u32At? data start
  if hash = 0 then none
  else
    let key ← StringRef.read? data (start + 4)
    let postings ← Bytes.u32At? data (start + 12)
    return { hash, key, postings }

/-- The numbers under a key of a sub-index. -/
def lookup (s : Snapshot) (index : SubIndex) (key : Text) : List UInt32 :=
  let table := s.tables index
  let data := s.sectionBytes .tables
  let texts := s.textBytes
  let hash := hashKey key
  let found := Table.search table.capacity hash fun i =>
    match slotAt? data table i with
    | none => some none
    | some slot =>
      if slot.hash = hash ∧ resolve texts slot.key = key then some (some slot) else none
  match found with
  | some (some slot) => PostingList.decodeAt (s.sectionBytes .postings) slot.postings.toNat
  | _ => []

/-- The keys of a sub-index with the numbers under each, in the order of the table. -/
def entries (s : Snapshot) (index : SubIndex) : List (Text × List UInt32) :=
  let table := s.tables index
  let data := s.sectionBytes .tables
  let texts := s.textBytes
  let postings := s.sectionBytes .postings
  (List.range table.capacity).filterMap fun i =>
    (slotAt? data table i).map fun slot =>
      (resolve texts slot.key, PostingList.decodeAt postings slot.postings.toNat)

end Snapshot

end ContentBlocker
