import ContentBlocker.Proofs.Index.Loading
import ContentBlocker.Proofs.Index.Numbering
import ContentBlocker.Reference.Engine
import Mathlib.Data.List.Dedup
/-!
# Looking up what was posted

A lookup in a loaded index yields the numbers that were posted under the key, in ascending order,
whatever other keys have the same hash or the same way through the table. `lookup_buildIndex` states
this of every index of filters that were read from lines.
-/

namespace ContentBlocker

open Bytes

/-- The keys under which something is posted in a sub-index, each of them once. -/
def postedKeys (postings : List Posting) (index : SubIndex) : List Text :=
  ((postings.filter fun posting => posting.index = index).map Posting.key).dedup

theorem mem_postedKeys {postings : List Posting} {index : SubIndex} {key : Text} :
    key ∈ postedKeys postings index ↔ postedIds postings index key ≠ [] := by
  simp [postedKeys, postedIds_eq_nil, and_assoc]

theorem keys_postingLists_perm (postings : List Posting) (index : SubIndex) :
    ((postingLists postings index).toList.map Prod.fst).Perm (postedKeys postings index) := by
  have once : (postedKeys postings index).Nodup := List.nodup_dedup _
  refine (List.perm_ext_iff_of_nodup (nodup_keys_postingLists _ _) once).2 fun key => ?_
  rw [mem_postedKeys, List.mem_map]
  constructor
  · rintro ⟨⟨key, ids⟩, member, rfl⟩
    obtain ⟨something, rfl⟩ := mem_toList_postingLists.1 member
    exact something
  · intro something
    exact ⟨(key, _), mem_toList_postingLists.2 ⟨something, rfl⟩, rfl⟩

section Slots

variable {texts postings : ByteArray} {slots : List Slot} {entries : List (Text × List Nat)}

/-- Whether a slot stands for a key. -/
def Slot.isFor (texts : ByteArray) (key : Text) (slot : Slot) : Bool :=
  slot.hash = hashKey key ∧ Snapshot.resolve texts slot.key = key

theorem Slot.Stores.isFor_iff {slot : Slot} {entry : Text × List Nat}
    (h : slot.Stores texts postings entry) (fits : texts.size < 2 ^ 32) {key : Text} :
    slot.isFor texts key ↔ entry.1 = key := by
  rw [Slot.isFor, decide_eq_true_eq, h.key.resolve fits, h.hash]
  constructor
  · exact And.right
  · rintro rfl
    exact ⟨rfl, rfl⟩

/-- The slot for a key is found among the slots as its entry is found among the entries. -/
theorem find?_isFor (h : List.Forall₂ (Slot.Stores texts postings) slots entries)
    (fits : texts.size < 2 ^ 32) (key : Text) :
    Option.Rel (Slot.Stores texts postings) (slots.find? (Slot.isFor texts key))
      (entries.find? fun entry => entry.1 = key) := by
  induction h with
  | nil => exact .none
  | @cons slot entry slots entries first _ ih =>
    by_cases here : entry.1 = key
    · rw [List.find?_cons_of_pos ((first.isFor_iff fits).2 here),
        List.find?_cons_of_pos (by simpa using here)]
      exact .some first
    · rw [List.find?_cons_of_neg (mt (first.isFor_iff fits).1 here),
        List.find?_cons_of_neg (by simpa using here)]
      exact ih

theorem eq_of_isFor (h : List.Forall₂ (Slot.Stores texts postings) slots entries)
    (once : (entries.map Prod.fst).Nodup) (fits : texts.size < 2 ^ 32) {key : Text} :
    ∀ a ∈ slots, ∀ b ∈ slots, a.isFor texts key → b.isFor texts key → a = b := by
  intro a memberA b memberB isA isB
  obtain ⟨i, boundA, rfl⟩ := List.mem_iff_getElem.1 memberA
  obtain ⟨j, boundB, rfl⟩ := List.mem_iff_getElem.1 memberB
  have length := h.length_eq
  have keyA := ((h.get boundA (length ▸ boundA)).isFor_iff fits).1 isA
  have keyB := ((h.get boundB (length ▸ boundB)).isFor_iff fits).1 isB
  have insideA : i < (entries.map Prod.fst).length := by rwa [List.length_map, ← length]
  have insideB : j < (entries.map Prod.fst).length := by rwa [List.length_map, ← length]
  have sameKey : (entries.map Prod.fst)[i] = (entries.map Prod.fst)[j] := by
    rw [List.getElem_map, List.getElem_map]
    exact keyA.trans keyB.symm
  have same : i = j := once.getElem_inj_iff.1 sameKey
  subst same
  rfl

end Slots

namespace Snapshot

/-- A slot of a table reads back, if it is occupied. -/
theorem slotAt?_of_standsAt {data : ByteArray} {table : TableExtent} {slots : Array (Option Slot)}
    (stands : StandsAt data table.offset (Table.bytes slots))
    (hashed : ∀ (i : Nat) slot, slots[i]? = some (some slot) → slot.hash ≠ 0) {i : Nat}
    (inside : i < slots.size) : slotAt? data table i = slots[i]?.join := by
  have place := StandsAt.of_flatMap Table.length_slot stands
    (by rw [Array.getElem?_toList, Array.getElem?_eq_getElem inside] : slots.toList[i]? = _)
  rw [Array.getElem?_eq_getElem inside, Option.join_some]
  cases content : slots[i] with
  | none =>
    rw [content] at place
    have zero : StandsAt data (table.offset + i * Layout.slotSize) (le32 0) :=
      StandsAt.left (b := List.replicate 12 0) place
    rw [slotAt?]
    simp only [u32At?_of_standsAt zero]
    rfl
  | some slot =>
    rw [content] at place
    change StandsAt data (table.offset + i * Layout.slotSize) slot.bytes at place
    rw [Slot.bytes, List.append_assoc] at place
    have present := hashed i slot (by rw [Array.getElem?_eq_getElem inside, content])
    have hash := u32At?_of_standsAt place.left
    have key := StringRef.read?_of_standsAt place.right.left
    have postings := u32At?_of_standsAt place.right.right
    simp only [length_le32, StringRef.length_bytes, Layout.stringRefSize, Nat.add_assoc,
      Nat.reduceAdd] at key postings
    simp only [slotAt?, hash, Option.bind_eq_bind, Option.bind_some, if_neg present, Nat.add_assoc,
      key, postings]
    rfl

/-- The posting list of a slot reads back. -/
theorem decodeAt_of_stores {texts postings : ByteArray} {slot : Slot} {entry : Text × List Nat}
    (h : slot.Stores texts postings entry) (fits : postings.size < 2 ^ 32) :
    PostingList.decodeAt postings slot.postings.toNat = entry.2.map UInt32.ofNat := by
  obtain ⟨start, place, stands⟩ := h.list
  have bound := stands.end_le
  have long := PostingList.length_le_length_encode (entry.2.map UInt32.ofNat)
  rw [place, toNat_ofNat_of_lt (by omega)]
  exact PostingList.decodeAt_of_standsAt stands (by omega)

theorem hash_ne_zero_of_stores {texts postings : ByteArray} {slots : Array (Option Slot)}
    {keys : List Slot} {entries : List (Text × List Nat)} (holds : Table.Holds slots keys)
    (stores : List.Forall₂ (Slot.Stores texts postings) keys entries) (i : Nat) (slot : Slot)
    (there : slots[i]? = some (some slot)) : slot.hash ≠ 0 := by
  obtain ⟨j, bound, rfl⟩ := List.mem_iff_getElem.1 (holds.mem_iff.2 ⟨i, there⟩)
  have stored := stores.get bound (stores.length_eq ▸ bound)
  rw [List.get_eq_getElem] at stored
  rw [stored.hash]
  exact hashKey_ne_zero _

theorem lookup_eq (s : Snapshot) (index : SubIndex) (key : Text) :
    s.lookup index key =
      ((Table.search (s.tables index).capacity (hashKey key) fun i =>
        Table.visitSlot (Slot.isFor s.textBytes key)
          (slotAt? (s.sectionBytes .tables) (s.tables index) i)).join.map fun slot =>
        PostingList.decodeAt (s.sectionBytes .postings) slot.postings.toNat).getD [] := by
  rw [lookup, Table.search_congr fun i _ => ?_]
  · rcases Table.search _ _ _ with _ | _ | slot <;> rfl
  · cases slotAt? (s.sectionBytes .tables) (s.tables index) i with
    | none => rfl
    | some slot => simp [Table.visitSlot, Slot.isFor]

namespace HoldsKeys

variable {s : Snapshot} {posted : List Posting} {index : SubIndex}

theorem lookup (h : s.HoldsKeys posted index) (textsFit : s.textBytes.size < 2 ^ 32)
    (postingsFit : (s.sectionBytes .postings).size < 2 ^ 32) (key : Text) :
    s.lookup index key = (postedIds posted index key).map UInt32.ofNat := by
  obtain ⟨offset, slots, keys, place, stands, holds, stores⟩ := h
  have hashed := hash_ne_zero_of_stores holds stores
  have once := nodup_keys_postingLists posted index
  have found : (Table.search slots.size (hashKey key) fun i =>
      Table.visitSlot (Slot.isFor s.textBytes key) (slotAt? (s.sectionBytes .tables)
        ⟨offset, slots.size, keys.length⟩ i)).join = keys.find? (Slot.isFor s.textBytes key) := by
    rw [← holds.search_eq_find? (hashKey key) (Slot.isFor s.textBytes key)
      (fun slot _ isKey => (of_decide_eq_true isKey).1) (eq_of_isFor stores once textsFit)]
    exact congrArg Option.join (Table.search_congr fun i inside =>
      congrArg _ (slotAt?_of_standsAt stands hashed inside))
  have related := find?_isFor stores textsFit key
  rw [lookup_eq, place, found]
  cases isEntry : (postingLists posted index).toList.find? fun entry => entry.1 = key with
  | none =>
    rw [isEntry] at related
    have nothing : postedIds posted index key = [] := by
      by_contra something
      have member := mem_toList_postingLists.2 ⟨something, rfl⟩
      exact List.find?_eq_none.1 isEntry _ member (decide_eq_true rfl)
    cases slot : keys.find? (Slot.isFor s.textBytes key) with
    | none =>
      rw [nothing]
      rfl
    | some slot' =>
      rw [slot] at related
      cases related
  | some entry =>
    rw [isEntry] at related
    have isKey := List.find?_some isEntry
    simp only [decide_eq_true_eq] at isKey
    have member := List.mem_of_find?_eq_some isEntry
    cases slot : keys.find? (Slot.isFor s.textBytes key) with
    | none =>
      rw [slot] at related
      cases related
    | some slot' =>
      rw [slot] at related
      cases related with
      | some storesEntry =>
        obtain ⟨-, ids⟩ := mem_toList_postingLists.1 member
        rw [Option.map_some, Option.getD_some, decodeAt_of_stores storesEntry postingsFit, ids,
          isKey]

theorem keyCount (h : s.HoldsKeys posted index) :
    s.keyCount index = (postedKeys posted index).length := by
  obtain ⟨offset, slots, keys, place, -, -, stores⟩ := h
  rw [← (keys_postingLists_perm posted index).length_eq, List.length_map, ← stores.length_eq,
    Snapshot.keyCount, place]

/-- The entries of a table are the keys with the numbers posted under each. -/
theorem entries_perm (h : s.HoldsKeys posted index) (textsFit : s.textBytes.size < 2 ^ 32)
    (postingsFit : (s.sectionBytes .postings).size < 2 ^ 32) :
    (s.entries index).Perm ((postingLists posted index).toList.map fun entry =>
      (entry.1, entry.2.map UInt32.ofNat)) := by
  obtain ⟨offset, slots, keys, place, stands, holds, stores⟩ := h
  have hashed := hash_ne_zero_of_stores holds stores
  let read := fun slot : Slot => (Snapshot.resolve s.textBytes slot.key,
    PostingList.decodeAt (s.sectionBytes .postings) slot.postings.toNat)
  have inTable : s.entries index = slots.toList.reduceOption.map read := by
    rw [← Table.filterMap_range_slots, List.map_filterMap, entries, place]
    refine List.filterMap_congr fun i inside => ?_
    rw [slotAt?_of_standsAt stands hashed (List.mem_range.1 inside)]
  have readKeys : keys.map read = (postingLists posted index).toList.map fun entry =>
      (entry.1, entry.2.map UInt32.ofNat) := by
    rw [← List.forall₂_eq_eq_eq, List.forall₂_map_left_iff, List.forall₂_map_right_iff]
    refine stores.imp fun slot entry stored => ?_
    simp only [read]
    rw [stored.key.resolve textsFit, decodeAt_of_stores stored postingsFit]
  rw [inTable, ← readKeys]
  exact holds.members.map read

end HoldsKeys

end Snapshot

/-- The numbers of filters fit into the words in which they are posted. -/
theorem Snapshot.Contains.count_lt {s : Snapshot} {b : Builder} {metadata : Metadata}
    {source : Text} (contains : s.Contains b metadata source) (index : SubIndex) :
    b.count index < 2 ^ 32 := by
  have urlsFit := contains.sectionsFit .urlFilters
  have contentsFit := contains.sectionsFit .contentFilters
  have snippetsFit := contains.sectionsFit .snippetFilters
  rw [contains.urls, List.size_toByteArray, length_recordSection UrlRecord.length_bytes,
    Layout.urlFilterSize] at urlsFit
  rw [contains.contents, List.size_toByteArray, length_recordSection ContentRecord.length_bytes,
    Layout.contentFilterSize] at contentsFit
  rw [contains.snippets, List.size_toByteArray, length_recordSection SnippetRecord.length_bytes,
    Layout.snippetFilterSize] at snippetsFit
  cases index with
  | url | special =>
    show b.urls.size < 2 ^ 32
    omega
  | content =>
    show b.contents.size < 2 ^ 32
    omega
  | snippet =>
    show b.snippets.size < 2 ^ 32
    omega

/-- A lookup in an index that contains what a builder has gathered. -/
theorem Snapshot.Contains.lookup {s : Snapshot} {b : Builder} {metadata : Metadata}
    {source : Text} (contains : s.Contains b metadata source) (numbered : b.Numbered)
    (index : SubIndex) (key : Text) :
    (s.lookup index key).map UInt32.toNat = postedIds b.postings.toList index key := by
  rw [(contains.keys index).lookup contains.textsFit (contains.sectionsFit _), List.map_map]
  refine (List.map_congr_left fun id member => ?_).trans (List.map_id _)
  simp only [postedIds, List.mem_map, List.mem_filter] at member
  obtain ⟨posting, ⟨there, -⟩, rfl⟩ := member
  exact toNat_ofNat_of_lt
    (Nat.lt_trans (numbered.below posting there) (contains.count_lt posting.index))

/-- A sub-index in which nothing is posted has neither keys nor numbers. -/
theorem Snapshot.Contains.nothing_of_unposted {s : Snapshot} {b : Builder} {metadata : Metadata}
    {source : Text} (contains : s.Contains b metadata source) {index : SubIndex}
    (unposted : ∀ posting ∈ b.postings.toList, posting.index ≠ index) :
    s.keyCount index = 0 ∧ (∀ key, s.lookup index key = []) ∧ s.entries index = [] := by
  have keys := contains.keys index
  have none : ∀ key, postedIds b.postings.toList index key = [] := by
    intro key
    rw [postedIds_eq_nil]
    intro posting member here
    exact absurd here (unposted posting member)
  have noLists : (postingLists b.postings.toList index).toList = [] := by
    rw [List.eq_nil_iff_forall_not_mem]
    rintro ⟨key, ids⟩ member
    obtain ⟨something, rfl⟩ := mem_toList_postingLists.1 member
    exact something (none key)
  refine ⟨?_, fun key => ?_, ?_⟩
  · rw [keys.keyCount, ← (keys_postingLists_perm _ _).length_eq, noLists]
    rfl
  · rw [keys.lookup contains.textsFit (contains.sectionsFit _), none]
    rfl
  · have entries := keys.entries_perm contains.textsFit (contains.sectionsFit _)
    rw [noLists] at entries
    exact entries.eq_nil

/-- Lookups in the loaded index of filters that were read from lines yield what the builder has
posted: under every key exactly its numbers, in ascending order, and nothing under other keys. The
keys are counted and listed once each. -/
theorem lookup_buildIndex [RegexEngine] {filters : List Filter} {metadata : Metadata}
    {source : Text}
    (parsed : ∀ filter ∈ filters, ∃ privileged line, Filter.parse privileged line = .ok filter)
    (fits : (buildIndex filters metadata source).size < 2 ^ 32) :
    ∃ s, Snapshot.load (buildIndex filters metadata source) = .ok s ∧ ∀ index,
      let posted := (Builder.ofFilters filters).postings.toList
      (∀ key, (s.lookup index key).map UInt32.toNat = postedIds posted index key) ∧
      (∀ key, (s.lookup index key).Pairwise (· < ·)) ∧
      (∀ key, key ∉ postedKeys posted index → s.lookup index key = []) ∧
      s.keyCount index = (postedKeys posted index).length ∧
      ((s.entries index).map Prod.fst).Perm (postedKeys posted index) ∧
      ∀ key ids, (key, ids) ∈ s.entries index → ids = s.lookup index key := by
  have wellFormed := Filter.wellFormed_of_parsed parsed
  have numbered := Builder.numbered_ofFilters wellFormed
  obtain ⟨s, loaded, contains⟩ := Builder.load_ofFilters fits
  refine ⟨s, loaded, fun index => ?_⟩
  have keys := contains.keys index
  have entries := keys.entries_perm contains.textsFit (contains.sectionsFit _)
  have looked := contains.lookup numbered index
  refine ⟨looked, fun key => ?_, fun key unposted => ?_, keys.keyCount, ?_, fun key ids there => ?_⟩
  · have ascending := numbered.ascending index key
    rw [← looked, List.pairwise_map] at ascending
    exact ascending.imp UInt32.lt_iff_toNat_lt.2
  · rw [mem_postedKeys, not_not, ← looked, List.map_eq_nil_iff] at unposted
    exact unposted
  · refine (entries.map Prod.fst).trans ?_
    rw [List.map_map]
    exact keys_postingLists_perm _ _
  · obtain ⟨⟨key', ids'⟩, member, same⟩ := List.mem_map.1 (entries.mem_iff.1 there)
    cases same
    rw [keys.lookup contains.textsFit (contains.sectionsFit _),
      (mem_toList_postingLists.1 member).2]

theorem lookup_buildIndex_shared_keyword :
    let filters := Filter.ofLines false ["||ads.example^", "a.example##.ad", "||ads.example/b^"]
    ∃ s, Snapshot.load (buildIndex filters .absent []) = .ok s ∧
      (s.lookup (.url .subresource .blocking) "ads").map UInt32.toNat = [0, 1] ∧
      s.lookup (.url .subresource .blocking) [] = [] ∧ s.keyCount (.content .hide) = 1 := by
  intro filters
  have parsed : ∀ filter ∈ filters, ∃ privileged line,
      Filter.parse privileged line = .ok filter := Filter.parsed_ofLines false _
  have fits : (buildIndex filters .absent []).size < 2 ^ 32 :=
    size_buildIndex_lt (by decide +kernel)
  obtain ⟨s, loaded, held⟩ := lookup_buildIndex parsed fits
  refine ⟨s, loaded, ((held _).1 _).trans ?_, (held _).2.2.1 _ ?_, (held _).2.2.2.1.trans ?_⟩
  · decide +kernel
  · decide +kernel
  · decide +kernel

end ContentBlocker
