import ContentBlocker.FilterList.Metadata
import ContentBlocker.Index.Postings
import ContentBlocker.Index.Record
import ContentBlocker.Index.SubIndex
import ContentBlocker.Index.Table
/-!
# Building an index

A builder takes filters one by one. Filters of each kind are numbered from zero in the order in
which they come, and each is posted in the sub-indexes of its purposes, under the keys by which it
will be looked up. `Builder.toBytes` writes what was gathered as one buffer, which depends on
nothing else.
-/

namespace ContentBlocker

/-- A filter's number under one key of a sub-index. -/
structure Posting where
  index : SubIndex
  key : Text
  id : Nat
  deriving DecidableEq, Repr

namespace UrlFilter

/-- The sub-indexes that a filter on addresses belongs to. A filter on headers serves for nothing
else. -/
def subIndexes (filter : UrlFilter) : List SubIndex :=
  if filter.header.isSome then [.url .header filter.category]
  else
    (if filter.popup then [.url .popup filter.category] else []) ++
      (if filter.csp.isSome then [.url .csp filter.category] else []) ++
      (if filter.substitute.isSome then [.url .substitute filter.category] else []) ++
      (if filter.subresource then [.url .subresource filter.category] else []) ++
      filter.specialTypes.map .special

/-- What is stored beside the conditions of a filter on addresses. -/
def payload (filter : UrlFilter) : Text := (filter.csp.or filter.header).getD []

/-- Where a filter on addresses applies. -/
def lists (filter : UrlFilter) : DomainLists :=
  ⟨filter.domains.included, filter.domains.excluded, filter.sitekeys⟩

/-- The postings of a filter on addresses: all under its word. -/
def postings (filter : UrlFilter) (id : Nat) : List Posting :=
  filter.subIndexes.map fun index => ⟨index, filter.keyword, id⟩

end UrlFilter

namespace DomainSet

/-- Where a filter on documents applies. -/
def lists (domains : DomainSet) : DomainLists := ⟨domains.included, domains.excluded, []⟩

/-- The names under which a filter on documents is posted: the domains it needs, or the empty
name. -/
def keys (domains : DomainSet) : List Text :=
  if domains.included = [] then [[]] else domains.included

/-- The postings of a filter on documents. -/
def postings (domains : DomainSet) (index : SubIndex) (id : Nat) : List Posting :=
  domains.keys.map fun key => ⟨index, key, id⟩

end DomainSet

/-- What has been gathered of an index. -/
structure Builder where
  strings : StringPool
  lists : ListPool
  urls : Array UrlRecord
  contents : Array ContentRecord
  snippets : Array SnippetRecord
  calls : Array CallRecord
  arguments : Array StringRef
  /-- in the order in which they were made -/
  postings : Array Posting

namespace Builder

/-- Nothing gathered yet. -/
def empty : Builder :=
  { strings := .empty, lists := .empty, urls := #[], contents := #[], snippets := #[], calls := #[],
    arguments := #[], postings := #[] }

/-- Takes a filter on addresses. -/
def addUrl (b : Builder) (filter : UrlFilter) : Builder :=
  let (pattern, strings) := b.strings.intern filter.source
  let (payload, strings) := strings.intern filter.payload
  let (place, lists, strings) := b.lists.intern strings filter.lists
  let record : UrlRecord :=
    { pattern
      contentTypes := filter.contentTypes.bits
      flags := if filter.matchCase then 1 else 0
      party := UInt8.ofNat filter.party.number
      substitute := UInt8.ofNat ((filter.substitute.map Substitute.number).getD 0)
      payload
      lists := place }
  { b with
    strings, lists
    urls := b.urls.push record
    postings := b.postings ++ filter.postings b.urls.size }

/-- Takes a filter on elements. -/
def addContent (b : Builder) (filter : ContentFilter) : Builder :=
  let (selector, strings) := b.strings.intern filter.selector
  let (css, strings) := strings.intern filter.css
  let (place, lists, strings) := b.lists.intern strings filter.domains.lists
  { b with
    strings, lists
    contents := b.contents.push { selector, lists := place, css }
    postings := b.postings ++ filter.domains.postings (.content filter.kind) b.contents.size }

/-- Takes a call. -/
def addCall (b : Builder) (call : SnippetCall) : Builder :=
  let (command, strings) := b.strings.intern call.command
  let (refs, strings) := strings.internAll call.arguments
  let record : CallRecord :=
    { command
      firstArgument := UInt32.ofNat b.arguments.size
      argumentCount := UInt32.ofNat call.arguments.length }
  { b with
    strings
    calls := b.calls.push record
    arguments := b.arguments ++ refs }

/-- Takes a filter that runs calls. -/
def addSnippet (b : Builder) (filter : SnippetFilter) : Builder :=
  let (place, lists, strings) := b.lists.intern b.strings filter.domains.lists
  let record : SnippetRecord :=
    { lists := place
      firstCall := UInt32.ofNat b.calls.size
      callCount := UInt32.ofNat filter.calls.length }
  let b := filter.calls.foldl addCall { b with strings, lists }
  { b with
    snippets := b.snippets.push record
    postings := b.postings ++ filter.domains.postings .snippet b.snippets.size }

/-- Takes a filter. -/
def add (b : Builder) : Filter → Builder
  | .url filter => b.addUrl filter
  | .content filter => b.addContent filter
  | .snippet filter => b.addSnippet filter

/-- Takes filters in turn. -/
def ofFilters (filters : List Filter) : Builder := filters.foldl add empty

end Builder

/-- The numbers posted under each key of a sub-index, in the order in which they were posted. -/
def postingLists (postings : List Posting) (index : SubIndex) : Std.TreeMap Text (List Nat) :=
  postings.foldr
    (fun posting lists =>
      if posting.index = index then
        lists.insert posting.key (posting.id :: lists.getD posting.key [])
      else lists)
    ∅

namespace Builder

/-- What has been written of the lookup tables. -/
structure Tables where
  strings : StringPool
  /-- the posting lists -/
  postings : ByteArray
  /-- the tables written so far, with their slots -/
  tables : List (SubIndex × Nat × Array (Option Slot))

/-- Writes the posting lists of keys and yields their slots. -/
def addKeys (strings : StringPool) (postings : ByteArray) :
    List (Text × List Nat) → List Slot × StringPool × ByteArray
  | [] => ([], strings, postings)
  | (key, ids) :: rest =>
    let (ref, strings) := strings.intern key
    let slot : Slot :=
      { hash := hashKey key, key := ref, postings := UInt32.ofNat postings.size }
    let written := (PostingList.encode (ids.map UInt32.ofNat)).toByteArray
    let (slots, strings, postings) := addKeys strings (postings ++ written) rest
    (slot :: slots, strings, postings)

/-- Writes the table of a sub-index, unless nothing is posted there. -/
def addTable (posted : List Posting) (written : Tables) (index : SubIndex) : Tables :=
  match (postingLists posted index).toList with
  | [] => written
  | keys =>
    let (slots, strings, postings) := addKeys written.strings written.postings keys
    { strings, postings
      tables := written.tables ++ [(index, slots.length, Table.ofKeys slots)] }

/-- The lookup tables and posting lists of all sub-indexes. -/
def tables (b : Builder) : Tables :=
  SubIndex.all.foldl (addTable b.postings.toList) ⟨b.strings, ByteArray.empty, []⟩

/-- The directory entries of tables, of which the first starts at `start` in their section. -/
def tableDirectory (start : Nat) : List (SubIndex × Nat × Array (Option Slot)) → List UInt8
  | [] => []
  | (index, keys, slots) :: rest =>
    Bytes.le16 (UInt16.ofNat index.number) ++ [0, 0] ++ Bytes.le32 (UInt32.ofNat slots.size) ++
      Bytes.le32 (UInt32.ofNat keys) ++ Bytes.le32 (UInt32.ofNat start) ++
      tableDirectory (start + slots.size * Layout.slotSize) rest

/-- The section of tables: their number, their directory, and their slots. -/
def tableSection (tables : List (SubIndex × Nat × Array (Option Slot))) : List UInt8 :=
  Bytes.le32 (UInt32.ofNat tables.length) ++
    tableDirectory (4 + tables.length * Layout.tableEntrySize) tables ++
    tables.flatMap fun (_, _, slots) => Table.bytes slots

/-- The metadata section, and the pool with its texts. -/
def metadataSection (strings : StringPool) (metadata : Metadata) (source : Text) :
    List UInt8 × StringPool :=
  let (refs, strings) :=
    strings.internAll [source, metadata.title, metadata.version, metadata.homepage]
  let expires := UInt32.ofNat (min metadata.expires 0xffffffff)
  (refs.flatMap StringRef.bytes ++ Bytes.le32 expires, strings)

/-- A section of records: their number, then the records. -/
def recordSection {α : Type} (bytes : α → List UInt8) (records : Array α) : List UInt8 :=
  Bytes.le32 (UInt32.ofNat records.size) ++ records.toList.flatMap bytes

/-- The contents of all sections in the order of their numbers. -/
def sections (b : Builder) (metadata : Metadata) (source : Text) : List (List UInt8) :=
  let written := b.tables
  let (metadata, strings) := metadataSection written.strings metadata source
  [strings.toBytes,
    metadata,
    b.lists.bytes.data.toList,
    recordSection UrlRecord.bytes b.urls,
    recordSection ContentRecord.bytes b.contents,
    recordSection SnippetRecord.bytes b.snippets,
    recordSection CallRecord.bytes b.calls,
    b.arguments.toList.flatMap StringRef.bytes,
    written.postings.data.toList,
    tableSection written.tables]

end Builder

namespace Layout

/-- The seed of the hash that identifies the contents of a buffer. -/
def buildSeed : UInt32 := 0x464c5831

/-- A section with the zero bytes that bring its length to a multiple of four. -/
def padded (content : List UInt8) : List UInt8 :=
  content ++ List.replicate (align content.length 4 - content.length) 0

/-- The directory entries of sections, of which the first has number `n` and starts at `start`. -/
def sectionDirectory (n start : Nat) : List (List UInt8) → List UInt8
  | [] => []
  | content :: rest =>
    Bytes.le16 (UInt16.ofNat n) ++ [0, 0] ++ Bytes.le32 (UInt32.ofNat start) ++
      Bytes.le32 (UInt32.ofNat content.length) ++ List.replicate 12 0 ++
      sectionDirectory (n + 1) (start + align content.length 4) rest

/-- What follows the header: the directory and the sections. -/
def body (sections : List (List UInt8)) : List UInt8 :=
  sectionDirectory 1 (headerSize + sections.length * directoryEntrySize) sections ++
    sections.flatMap padded

/-- The first 28 bytes of a buffer: all of the header in front of the checksum. -/
def headerStart (count : Nat) (buildId : UInt32) : List UInt8 :=
  magic ++ Bytes.le16 version ++ Bytes.le16 hasChecksum ++ Bytes.le32 (UInt32.ofNat headerSize) ++
    Bytes.le32 (UInt32.ofNat count) ++ Bytes.le32 (UInt32.ofNat headerSize) ++
    Bytes.le32 (UInt32.ofNat (count * directoryEntrySize)) ++ Bytes.le32 buildId

/-- The buffer that holds sections. The checksum covers everything but itself. -/
def assemble (sections : List (List UInt8)) : List UInt8 :=
  let body := body sections
  let start := headerStart sections.length (hash32 buildSeed body)
  let rest := List.replicate 32 0 ++ body
  start ++ Bytes.le32 (Crc.checksum (start ++ rest)) ++ rest

end Layout

namespace Builder

/-- The buffer of an index. -/
def toBytes (b : Builder) (metadata : Metadata) (source : Text) : ByteArray :=
  (Layout.assemble (b.sections metadata source)).toByteArray

end Builder

/-- The index of filters, in one buffer. -/
def buildIndex (filters : List Filter) (metadata : Metadata) (source : Text) : ByteArray :=
  (Builder.ofFilters filters).toBytes metadata source

end ContentBlocker
