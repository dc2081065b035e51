import ContentBlocker.Index.View
import ContentBlocker.Proofs.Bytes.Access
/-!
# The accessors of an index on a machine

The accessors of a loaded index once more, as a machine with sizes of 64 bits carries them out: with
its sums and products, the indexes and slices it takes for granted, and the loops it runs. Slices
that are asked for with an option stay options. `ContentBlocker.Proofs.Index.Safety` proves that on
a loaded index no fault happens and that the answers are those of the accessors in
`ContentBlocker.Index.View`.
-/

namespace ContentBlocker.Guarded

open Access Layout

/-- The bytes of a section; none if it is absent. -/
def sectionBytes (s : Snapshot) (id : SectionId) : Access ByteArray :=
  match s.sections id with
  | none => return ByteArray.empty
  | some extent => do
    let stop ← add extent.offset extent.length
    return (between? s.data extent.offset stop).getD ByteArray.empty

/-- The bytes of all texts. -/
def textBytes (s : Snapshot) : Access ByteArray := do
  let stored ← sectionBytes s .strings
  let stop ← add 4 (← natAt stored 0)
  return (between? stored 4 stop).getD ByteArray.empty

/-- The text at a place of the texts. -/
def textAt? (texts : ByteArray) (start length : UInt32) : Option Text := do
  let stop ← checkedAdd? start.toNat length.toNat
  Text.decode? (← between? texts start.toNat stop)

/-- The text at the reference that stands at a position; empty if there is none. -/
def resolveAt (texts data : ByteArray) (i : Nat) : Access Text := do
  let start ← u32At? data i
  let length ← u32At? data (← add i 4)
  return (do textAt? texts (← start) (← length)).getD []

section Lists

/-- References to texts, one behind the other. -/
structure TextList where
  texts : ByteArray
  refs : ByteArray

namespace TextList

/-- The first text and the references behind it. -/
def next (list : TextList) : Access (Option (Text × TextList)) :=
  if list.refs.size < stringRefSize then return none
  else do
    let item ← resolveAt list.texts list.refs 0
    let rest ← dropFrom list.refs stringRefSize
    return some (item, { list with refs := rest })

theorem size_of_next {list rest : TextList} {item : Text}
    (asked : list.next = .ok (some (item, rest))) : rest.refs.size < list.refs.size := by
  unfold next at asked
  by_cases few : list.refs.size < stringRefSize
  · rw [if_pos few] at asked
    cases asked
  · rw [if_neg few] at asked
    cases read : resolveAt list.texts list.refs 0 with
    | error fault =>
      rw [read] at asked
      cases asked
    | ok text =>
      rw [read, dropFrom_eq (Nat.not_lt.1 few)] at asked
      cases asked
      have : stringRefSize = 8 := rfl
      simp only [ByteArray.size_extract]
      omega

/-- The texts in turn. -/
def items : Iterator TextList Text where
  next := next
  left list := list.refs.size
  shrinks := size_of_next

/-- How many references there are. -/
def count (list : TextList) : Nat := list.refs.size / stringRefSize

/-- Whether a text is among them. -/
def contains (list : TextList) (text : Text) : Access Bool :=
  return !(← items.every (· ≠ text) list)

end TextList

/-- Domains and keys of a filter. -/
structure Lists where
  included : TextList
  excluded : TextList
  sitekeys : TextList

namespace Lists

/-- No domain and no key. -/
def empty : Lists :=
  let none : TextList := ⟨ByteArray.empty, ByteArray.empty⟩
  ⟨none, none, none⟩

/-- The lists at a position: three counts, then the references. -/
def readAt (texts data : ByteArray) (start : Nat) : Access Lists := do
  let included ← natAt data (← add start 0)
  let excluded ← natAt data (← add start 4)
  let sitekeys ← natAt data (← add start 8)
  let first ← add start 12
  let second := saturatingAdd first (saturatingMul included stringRefSize)
  let third := saturatingAdd second (saturatingMul excluded stringRefSize)
  let fourth := saturatingAdd third (saturatingMul sitekeys stringRefSize)
  let refs (start stop : Nat) : TextList :=
    ⟨texts, (between? data start stop).getD ByteArray.empty⟩
  return ⟨refs first second, refs second third, refs third fourth⟩

/-- The names in all three lists. -/
def names (lists : Lists) : Access DomainLists :=
  return {
    included := ← TextList.items.all lists.included
    excluded := ← TextList.items.all lists.excluded
    sitekeys := ← TextList.items.all lists.sitekeys }

/-- Whether there is no key and no name that is not blank. -/
def isGeneric (lists : Lists) : Access Bool :=
  if lists.sitekeys.count ≠ 0 then return false
  else do
    if ← TextList.items.every List.isEmpty lists.included then
      TextList.items.every List.isEmpty lists.excluded
    else return false

end Lists

/-- The domain lists at a place. -/
def listsAt (s : Snapshot) (place : UInt32) : Access Lists :=
  if place = noLists then return .empty
  else do Lists.readAt (← textBytes s) (← sectionBytes s .domainLists) place.toNat

end Lists

section Records

/-- The records of a section, all of one size. -/
structure RecordTable where
  data : ByteArray
  count : Nat
  size : Nat

/-- The records of a section: as many as it says, as far as there is room for them. -/
def recordTable (s : Snapshot) (id : SectionId) (size : Nat) : Access RecordTable := do
  let stored ← sectionBytes s id
  let count ← natAt stored 0
  return {
    data := (between? stored 4 stored.size).getD ByteArray.empty
    count := min count ((stored.size - 4) / size)
    size }

/-- The bytes of a record. -/
def RecordTable.get (table : RecordTable) (id : Nat) : Access (Option ByteArray) :=
  if table.count ≤ id then return none
  else do
    let start ← mul id table.size
    return between? table.data start (← add start table.size)

/-- A filter on addresses, with its fields unread. -/
structure UrlView where
  record : ByteArray
  texts : ByteArray
  lists : Lists

/-- The filter on addresses with a number. -/
def urlView (s : Snapshot) (id : UInt32) : Access (Option UrlView) := do
  let some record ← (← recordTable s .urlFilters urlFilterSize).get id.toNat | return none
  let some place ← u32At? record 24 | return none
  return some ⟨record, ← textBytes s, ← listsAt s place⟩

/-- All fields of a filter. -/
def UrlView.fields (view : UrlView) : Access IndexedUrl :=
  return {
    source := ← resolveAt view.texts view.record 0
    matchCase := (← byte view.record 12) &&& 1 ≠ 0
    contentTypes := .ofBits ((← u32At? view.record 8).getD 0)
    party := (PartyRule.ofNumber? (← byte view.record 13).toNat).getD .either
    substitute := (Substitute.ofNumber? (← byte view.record 14).toNat).getD .unlisted
    payload := ← resolveAt view.texts view.record 16
    lists := ← view.lists.names }

/-- The filter on addresses with a number, with all that can be asked about it. -/
def url? (s : Snapshot) (id : UInt32) : Access (Option IndexedUrl) := do
  let some view ← urlView s id | return none
  return some (← view.fields)

/-- A filter on elements, with its fields unread. -/
structure ContentView where
  record : ByteArray
  texts : ByteArray
  lists : Lists

/-- The filter on elements with a number. -/
def contentView (s : Snapshot) (id : UInt32) : Access (Option ContentView) := do
  let some record ← (← recordTable s .contentFilters contentFilterSize).get id.toNat | return none
  let some place ← u32At? record 8 | return none
  return some ⟨record, ← textBytes s, ← listsAt s place⟩

@[inherit_doc UrlView.fields]
def ContentView.fields (view : ContentView) : Access IndexedContent :=
  return {
    selector := ← resolveAt view.texts view.record 0
    css := ← resolveAt view.texts view.record 12
    lists := ← view.lists.names }

/-- The filter on elements with a number, with all that can be asked about it. -/
def content? (s : Snapshot) (id : UInt32) : Access (Option IndexedContent) := do
  let some view ← contentView s id | return none
  return some (← view.fields)

/-- A filter that runs calls, with its calls unread. -/
structure SnippetView where
  lists : Lists
  calls : RecordTable
  arguments : ByteArray
  texts : ByteArray
  first : UInt32
  count : UInt32

/-- The filter that runs calls with a number. -/
def snippetView (s : Snapshot) (id : UInt32) : Access (Option SnippetView) := do
  let some record ← (← recordTable s .snippetFilters snippetFilterSize).get id.toNat | return none
  let some place ← u32At? record 0 | return none
  let some first ← u32At? record 4 | return none
  let some count ← u32At? record 8 | return none
  return some {
    lists := ← listsAt s place
    calls := ← recordTable s .snippetCalls snippetCallSize
    arguments := ← sectionBytes s .snippetArguments
    texts := ← textBytes s
    first, count }

/-- The call with a number; none if its arguments are not all there. -/
def SnippetView.call? (view : SnippetView) (id : Nat) : Access (Option SnippetCall) := do
  let some record ← view.calls.get id | return none
  let some first ← u32At? record 8 | return none
  let some count ← u32At? record 12 | return none
  let some start := checkedMul? first.toNat stringRefSize | return none
  let some length := checkedMul? count.toNat stringRefSize | return none
  let some stop := checkedAdd? start length | return none
  let some refs := between? view.arguments start stop | return none
  return some {
    command := ← resolveAt view.texts record 0
    arguments := ← TextList.items.all ⟨view.texts, refs⟩ }

/-- The calls in order. Their numbers are words, and the last one is not passed. -/
def SnippetView.allCalls (view : SnippetView) : Access (List SnippetCall) :=
  let stop := min (view.first.toNat + view.count.toNat) (2 ^ 32 - 1)
  (Iterator.ofRange view.call? stop).all view.first.toNat

/-- The filter that runs calls with a number, with all that can be asked about it. -/
def snippet? (s : Snapshot) (id : UInt32) : Access (Option IndexedSnippet) := do
  let some view ← snippetView s id | return none
  return some { calls := ← view.allCalls, lists := ← view.lists.names }

/-- What the index says about its list. -/
def info (s : Snapshot) : Access ListInfo := do
  let stored ← sectionBytes s .metadata
  let texts ← textBytes s
  return {
    source := ← resolveAt texts stored 0
    title := ← resolveAt texts stored 8
    version := ← resolveAt texts stored 16
    homepage := ← resolveAt texts stored 24
    expires := ← natAt stored 32 }

end Records

section Postings

/-- The word that starts `read` bytes before the group to be read next, of which the groups so far
give `word`. At most five groups are read. -/
def decodeVarint (data : ByteArray) (start : Nat) (word : UInt32) (shift read : Nat) :
    Access (UInt32 × Nat) := do
  let i ← add start read
  if data.size ≤ i then return (word, read)
  else
    let group ← byte data i
    let read ← add read 1
    let word := word ||| (← shiftLeft (group &&& 0x7f).toUInt32 shift)
    if group &&& 0x80 = 0 then return (word, read)
    else if 28 < shift + 7 then return (word, read)
    else decodeVarint data start word (shift + 7) read
termination_by 29 - shift

/-- A posting list that has been read up to a position. -/
structure Postings where
  data : ByteArray
  position : Nat
  remaining : Nat
  previous : UInt32

namespace Postings

/-- The empty list. -/
def empty : Postings := ⟨ByteArray.empty, 0, 0, 0⟩

/-- The posting list at a position. -/
def startAt (data : ByteArray) (start : Nat) : Access Postings := do
  let some count ← u32At? data start | return empty
  return ⟨data, ← add start 4, count.toNat, 0⟩

/-- The next number, which is the one before it and a difference modulo `2 ^ 32`. -/
def next (list : Postings) : Access (Option (UInt32 × Postings)) :=
  if list.remaining = 0 ∨ list.data.size ≤ list.position then return none
  else do
    let (difference, read) ← decodeVarint list.data list.position 0 0 0
    let position ← add list.position read
    let remaining ← sub list.remaining 1
    let id := list.previous + difference
    return some (id, ⟨list.data, position, remaining, id⟩)

theorem remaining_of_next {list rest : Postings} {id : UInt32}
    (asked : list.next = .ok (some (id, rest))) : rest.remaining < list.remaining := by
  unfold next at asked
  by_cases ends : list.remaining = 0 ∨ list.data.size ≤ list.position
  · rw [if_pos ends] at asked
    cases asked
  · rw [if_neg ends] at asked
    obtain ⟨more, -⟩ := not_or.1 ends
    simp only [bind, Except.bind] at asked
    split at asked
    case h_1 => cases asked
    split at asked
    case h_1 => cases asked
    rw [sub_eq (Nat.one_le_iff_ne_zero.2 more)] at asked
    cases asked
    exact Nat.sub_one_lt more

/-- The numbers in turn. -/
def items : Iterator Postings UInt32 where
  next := next
  left list := list.remaining
  shrinks := remaining_of_next

end Postings

end Postings

section Tables

/-- The table of a sub-index with what its slots refer to. -/
structure TableView where
  data : ByteArray
  postings : ByteArray
  texts : ByteArray
  extent : TableExtent

/-- The table of a sub-index. -/
def tableView (s : Snapshot) (index : SubIndex) : Access TableView :=
  return {
    data := ← sectionBytes s .tables
    postings := ← sectionBytes s .postings
    texts := ← textBytes s
    extent := s.tables index }

namespace TableView

/-- The bytes of a slot. -/
def slot (table : TableView) (i : Nat) : Access ByteArray := do
  let start ← add table.extent.offset (← mul i slotSize)
  return (between? table.data start (← add start slotSize)).getD ByteArray.empty

/-- The posting list that a slot refers to. -/
def postingsOf (table : TableView) (slot : ByteArray) : Access Postings := do
  let some start ← u32At? slot 12 | return .empty
  Postings.startAt table.postings start.toNat

/-- Whether a slot with a stored hash holds a key. The key is read only if the hashes agree. -/
def isKey (table : TableView) (hash : UInt32) (key : Text) (stored : UInt32) (slot : ByteArray) :
    Access Bool :=
  if stored = hash then return (← resolveAt table.texts slot 4) = key else return false

/-- Looks for a key in at most `left` slots from slot `i` on, round the end of the table. -/
def probe (table : TableView) (hash : UInt32) (key : Text) (mask : Nat) :
    Nat → Nat → Access Postings
  | 0, _ => return .empty
  | left + 1, i => do
    let slot ← table.slot i
    let stored := (← u32At? slot 0).getD 0
    if stored = 0 then return .empty
    else
      if ← table.isKey hash key stored slot then table.postingsOf slot
      else table.probe hash key mask left ((← add i 1) &&& mask)

/-- The posting list under a key. -/
def lookup (table : TableView) (key : Text) : Access Postings :=
  if table.extent.capacity = 0 then return .empty
  else do
    let hash := hashKey key
    let mask ← sub table.extent.capacity 1
    table.probe hash key mask table.extent.capacity (hash.toNat &&& mask)

/-- The key in a slot with its posting list; none if the slot is free. -/
def occupant? (table : TableView) (i : Nat) : Access (Option (Text × Postings)) := do
  let slot ← table.slot i
  if (← u32At? slot 0).getD 0 = 0 then return none
  else return some (← resolveAt table.texts slot 4, ← table.postingsOf slot)

end TableView

/-- The numbers under a key of a sub-index. -/
def lookup (s : Snapshot) (index : SubIndex) (key : Text) : Access (List UInt32) := do
  let list ← (← tableView s index).lookup key
  Postings.items.all list

/-- The keys of a sub-index with the numbers under each, in the order of the table. -/
def entries (s : Snapshot) (index : SubIndex) : Access (List (Text × List UInt32)) := do
  let table ← tableView s index
  let found ← (Iterator.ofRange table.occupant? table.extent.capacity).all 0
  found.mapM fun (key, list) => return (key, ← Postings.items.all list)

end Tables

end ContentBlocker.Guarded
