import ContentBlocker.Proofs.Index.Layout
import ContentBlocker.Proofs.Index.Pools
import ContentBlocker.Proofs.Index.Postings
import ContentBlocker.Proofs.Index.Table
/-!
# The lookup tables of a builder

`Builder.tables` writes one table for every sub-index in which something is posted. Its slots stand
for the keys, by references into the string section and the section of posting lists. Loading finds
each table in its place, and no table where nothing is posted.
-/

namespace ContentBlocker

open Bytes

/-- The slot stands for a key with the numbers posted under it. -/
structure Slot.Stores (texts postings : ByteArray) (slot : Slot) (entry : Text × List Nat) :
    Prop where
  hash : slot.hash = hashKey entry.1
  key : slot.key.LeadsTo texts entry.1
  list : ∃ start, slot.postings = UInt32.ofNat start ∧
    StandsAt postings start (PostingList.encode (entry.2.map UInt32.ofNat))

theorem Slot.Stores.mono {texts texts' postings postings' : ByteArray} {slot : Slot}
    {entry : Text × List Nat} (h : slot.Stores texts postings entry) (more : Extends texts' texts)
    (more' : Extends postings' postings) : slot.Stores texts' postings' entry := by
  obtain ⟨start, place, stands⟩ := h.list
  exact ⟨h.hash, h.key.mono more, start, place, stands.mono more'⟩

/-- The numbers posted under a key of a sub-index, in the order in which they were posted. -/
def postedIds (postings : List Posting) (index : SubIndex) (key : Text) : List Nat :=
  (postings.filter fun posting => posting.index = index ∧ posting.key = key).map Posting.id

theorem postedIds_eq_nil {postings : List Posting} {index : SubIndex} {key : Text} :
    postedIds postings index key = [] ↔
      ∀ posting ∈ postings, posting.index = index → posting.key ≠ key := by
  simp [postedIds, List.filter_eq_nil_iff]

/-- The list kept for a key: absent if nothing is posted under it. -/
theorem getElem?_postingLists (postings : List Posting) (index : SubIndex) (key : Text) :
    (postingLists postings index)[key]? =
      if postedIds postings index key = [] then none else some (postedIds postings index key) := by
  induction postings with
  | nil => rfl
  | cons posting rest ih =>
    rw [show postingLists (posting :: rest) index = if posting.index = index then
      (postingLists rest index).insert posting.key
        (posting.id :: (postingLists rest index).getD posting.key [])
      else postingLists rest index from rfl]
    split
    · rename_i here
      rw [Std.TreeMap.getElem?_insert]
      split
      · rename_i same
        cases Std.LawfulEqCmp.eq_of_compare same
        have first : postedIds (posting :: rest) index posting.key =
            posting.id :: postedIds rest index posting.key := by
          rw [postedIds, List.filter_cons_of_pos (by simpa using here)]
          rfl
        rw [first, if_neg (List.cons_ne_nil _ _), Std.TreeMap.getD_eq_getD_getElem?, ih]
        split
        · rename_i nothing
          rw [nothing]
          rfl
        · rfl
      · rename_i other
        have skipped : postedIds (posting :: rest) index key = postedIds rest index key := by
          have : posting.key ≠ key := fun same => other (same ▸ Std.ReflCmp.compare_self)
          rw [postedIds, List.filter_cons_of_neg (by simp [this])]
          rfl
        rw [skipped, ih]
    · rename_i elsewhere
      have skipped : postedIds (posting :: rest) index key = postedIds rest index key := by
        rw [postedIds, List.filter_cons_of_neg (by simp [elsewhere])]
        rfl
      rw [skipped, ih]

theorem mem_toList_postingLists {postings : List Posting} {index : SubIndex} {key : Text}
    {ids : List Nat} :
    (key, ids) ∈ (postingLists postings index).toList ↔
      ids ≠ [] ∧ ids = postedIds postings index key := by
  rw [Std.TreeMap.mem_toList_iff_getElem?_eq_some, getElem?_postingLists]
  split
  · rename_i nothing
    simp [nothing]
  · rename_i something
    rw [Option.some.injEq]
    constructor
    · rintro rfl
      exact ⟨something, rfl⟩
    · rintro ⟨-, rfl⟩
      rfl

theorem nodup_keys_postingLists (postings : List Posting) (index : SubIndex) :
    ((postingLists postings index).toList.map Prod.fst).Nodup := by
  rw [List.Nodup, List.pairwise_map]
  refine Std.TreeMap.distinct_keys_toList.imp fun different same => ?_
  exact different (same ▸ Std.ReflCmp.compare_self)

namespace Builder

theorem addKeys_spec {strings : StringPool} (sound : strings.Sound) (postings : ByteArray)
    (keys : List (Text × List Nat)) :
    let result := addKeys strings postings keys
    result.2.1.Sound ∧ Extends result.2.1.bytes strings.bytes ∧ Extends result.2.2 postings ∧
      List.Forall₂ (Slot.Stores result.2.1.bytes result.2.2) result.1 keys := by
  induction keys generalizing strings postings with
  | nil => exact ⟨sound, .refl _, .refl _, .nil⟩
  | cons entry rest ih =>
    obtain ⟨key, ids⟩ := entry
    obtain ⟨sound₁, more₁, leads⟩ := StringPool.intern_spec sound key
    obtain ⟨sound₂, more₂, grown, stores⟩ := ih sound₁
      (postings ++ (PostingList.encode (ids.map UInt32.ofNat)).toByteArray)
    refine ⟨sound₂, more₂.trans more₁, grown.trans (.append _ _), .cons ?_ stores⟩
    exact ⟨rfl, leads.mono more₂, postings.size, rfl, (StandsAt.append _ _).mono grown⟩

/-- The table with its sub-index and number of keys is the one for that sub-index. -/
def TableStores (posted : List Posting) (texts postings : ByteArray)
    (table : SubIndex × Nat × Array (Option Slot)) (index : SubIndex) : Prop :=
  table.1 = index ∧ ∃ keys,
    List.Forall₂ (Slot.Stores texts postings) keys (postingLists posted index).toList ∧
      table.2.1 = keys.length ∧ table.2.2 = Table.ofKeys keys

/-- The tables of the sub-indexes in `done` have been written. -/
structure Tables.Written (posted : List Posting) (written : Tables) (done : List SubIndex) :
    Prop where
  strings : written.strings.Sound
  tables : List.Forall₂ (TableStores posted written.strings.bytes written.postings) written.tables
    (done.filter fun index => (postingLists posted index).toList ≠ [])

theorem addTable_written {posted : List Posting} {written : Tables} {done : List SubIndex}
    (h : written.Written posted done) (index : SubIndex) :
    (addTable posted written index).Written posted (done ++ [index]) ∧
      Extends (addTable posted written index).strings.bytes written.strings.bytes := by
  unfold addTable
  split
  · rename_i nothing
    refine ⟨⟨h.strings, ?_⟩, .refl _⟩
    rw [List.filter_append, List.filter_cons_of_neg (by simp [nothing]), List.filter_nil,
      List.append_nil]
    exact h.tables
  · rename_i keys something
    obtain ⟨sound, more, grown, stores⟩ := addKeys_spec h.strings written.postings
      (postingLists posted index).toList
    refine ⟨⟨sound, ?_⟩, more⟩
    have here : (postingLists posted index).toList ≠ [] := something
    rw [List.filter_append, List.filter_cons_of_pos (by simpa using here), List.filter_nil]
    refine List.rel_append (h.tables.imp ?_) (.cons ⟨rfl, _, stores, rfl, rfl⟩ .nil)
    rintro table other ⟨same, slots, earlier, rest⟩
    exact ⟨same, slots, earlier.imp fun _ _ h => h.mono more grown, rest⟩

/-- A builder's tables are those of all sub-indexes in which something is posted. -/
theorem tables_written {b : Builder} (sound : b.strings.Sound) :
    b.tables.Written b.postings.toList SubIndex.all ∧
      Extends b.tables.strings.bytes b.strings.bytes := by
  have step : ∀ (rest done : List SubIndex) (written : Tables),
      written.Written b.postings.toList done → Extends written.strings.bytes b.strings.bytes →
      (rest.foldl (addTable b.postings.toList) written).Written b.postings.toList (done ++ rest) ∧
        Extends (rest.foldl (addTable b.postings.toList) written).strings.bytes
          b.strings.bytes := by
    intro rest
    induction rest with
    | nil =>
      intro done written h more
      rw [List.append_nil]
      exact ⟨h, more⟩
    | cons index rest ih =>
      intro done written h more
      obtain ⟨h', more'⟩ := addTable_written h index
      have all := ih _ _ h' (more'.trans more)
      rwa [List.append_assoc, List.singleton_append] at all
  exact step SubIndex.all [] _ ⟨sound, .nil⟩ (.refl _)

end Builder

namespace Table

theorem length_slot (slot : Option Slot) :
    ((slot.map Slot.bytes).getD Slot.free).length = Layout.slotSize := by
  cases slot <;> rfl

theorem length_bytes (slots : Array (Option Slot)) :
    (bytes slots).length = slots.size * Layout.slotSize := by
  rw [bytes, length_flatMap_of_width length_slot, Array.length_toList]

end Table

namespace SubIndex

theorem number_lt (index : SubIndex) : index.number < 2 ^ 16 :=
  Nat.lt_of_le_of_lt (List.idxOf_lt_length_of_mem (mem_all index)) (by decide)

end SubIndex

namespace Snapshot

open Builder

theorem isPowerOfTwo_two_pow (k : Nat) : isPowerOfTwo (2 ^ k) = true := by
  have positive : 2 ^ k ≠ 0 := Nat.pos_iff_ne_zero.1 (Nat.two_pow_pos k)
  rw [isPowerOfTwo, Nat.and_two_pow_sub_one_eq_mod, Nat.mod_self, decide_eq_true positive]
  rfl

/-- One directory entry sets the place of its table. -/
theorem readTables_entry {table : ByteArray} {entry capacity keys start : Nat} {index : SubIndex}
    {more : List UInt8} (count : Nat) (places : SubIndex → TableExtent)
    (directory : StandsAt table entry (le16 (UInt16.ofNat index.number) ++ ([0, 0] ++
      (le32 (UInt32.ofNat capacity) ++ (le32 (UInt32.ofNat keys) ++
        (le32 (UInt32.ofNat start) ++ more))))))
    (power : isPowerOfTwo capacity = true) (few : keys ≤ capacity)
    (inside : start + capacity * Layout.slotSize ≤ table.size) (fits : table.size < 2 ^ 32) :
    readTables table entry (count + 1) places =
      readTables table (entry + Layout.tableEntrySize) count
        fun other => if other = index then ⟨start, capacity, keys⟩ else places other := by
  have readNumber := u16At?_of_standsAt directory.left
  have readCapacity := u32At?_of_standsAt directory.right.right.left
  have readKeys := u32At?_of_standsAt directory.right.right.right.left
  have readStart := u32At?_of_standsAt directory.right.right.right.right.left
  have narrow : capacity ≤ capacity * Layout.slotSize := Nat.le_mul_of_pos_right _ (by decide)
  have numberValue : (UInt16.ofNat index.number).toNat = index.number :=
    UInt16.toNat_ofNat_of_lt' index.number_lt
  have capacityValue : (UInt32.ofNat capacity).toNat = capacity := toNat_ofNat_of_lt (by omega)
  have keysValue : (UInt32.ofNat keys).toNat = keys := toNat_ofNat_of_lt (by omega)
  have startValue : (UInt32.ofNat start).toNat = start := toNat_ofNat_of_lt (by omega)
  have within : ¬ (table.size < start + capacity * Layout.slotSize ∨ capacity < keys) := by omega
  simp only [length_le16, length_le32, List.length_cons, List.length_nil, Nat.add_assoc]
    at readCapacity readKeys readStart
  simp only [readTables, readNumber, readCapacity, readKeys, readStart, numberValue, capacityValue,
    keysValue, startValue, SubIndex.ofNumber?_number, power, if_neg within, Bool.not_true,
    Bool.false_eq_true, and_false, if_false]
  rfl

/-- Reading a directory finds every table that it lists, and no other. -/
theorem readTables_directory {data : ByteArray} {entry start : Nat}
    {tables : List (SubIndex × Nat × Array (Option Slot))} (places : SubIndex → TableExtent)
    (directory : StandsAt data entry (tableDirectory start tables))
    (bodies : StandsAt data start (tables.flatMap fun (_, _, slots) => Table.bytes slots))
    (wellFormed : ∀ table ∈ tables, isPowerOfTwo table.2.2.size = true ∧
      table.2.1 ≤ table.2.2.size)
    (once : (tables.map Prod.fst).Nodup) (fits : data.size < 2 ^ 32) :
    ∃ found, readTables data entry tables.length places = .ok found ∧
      (∀ index, index ∉ tables.map Prod.fst → found index = places index) ∧
      ∀ index keys slots, (index, keys, slots) ∈ tables →
        ∃ offset, found index = ⟨offset, slots.size, keys⟩ ∧
          StandsAt data offset (Table.bytes slots) := by
  induction tables generalizing entry start places with
  | nil => exact ⟨places, rfl, fun _ _ => rfl, by simp⟩
  | cons table rest ih =>
    obtain ⟨index, keys, slots⟩ := table
    simp only [tableDirectory, List.append_assoc] at directory
    rw [List.flatMap_cons] at bodies
    rw [List.map_cons, List.nodup_cons] at once
    obtain ⟨power, few⟩ := wellFormed _ List.mem_cons_self
    have here : StandsAt data start (Table.bytes slots) := bodies.left
    have length := Table.length_bytes slots
    have inside := here.end_le
    rw [length] at inside
    have step := readTables_entry rest.length places directory power few inside fits
    have later : StandsAt data (entry + Layout.tableEntrySize)
        (tableDirectory (start + slots.size * Layout.slotSize) rest) :=
      directory.right.right.right.right.right
    obtain ⟨found, read, kept, found_tables⟩ :=
      ih _ later (bodies.right_of_length length)
        (fun table there => wellFormed table (List.mem_cons_of_mem _ there)) once.2
    refine ⟨found, step.trans read, fun other absent => ?_, fun other keys' slots' there => ?_⟩
    · rw [List.map_cons, List.mem_cons, not_or] at absent
      rw [kept other absent.2, if_neg absent.1]
    · rcases List.mem_cons.1 there with same | there
      · cases same
        exact ⟨start, by rw [kept index once.1, if_pos rfl], here⟩
      · exact found_tables other keys' slots' there

theorem length_tableDirectory (start : Nat) (tables : List (SubIndex × Nat × Array (Option Slot))) :
    (tableDirectory start tables).length = tables.length * Layout.tableEntrySize := by
  induction tables generalizing start with
  | nil => rfl
  | cons table rest ih =>
    simp only [tableDirectory, List.length_append, ih, length_le16, length_le32, List.length_cons,
      List.length_nil, Layout.tableEntrySize]
    omega

/-- Reading the section of tables finds each of them in its place. -/
theorem readTableSection_tableSection {tables : List (SubIndex × Nat × Array (Option Slot))}
    (wellFormed : ∀ table ∈ tables, isPowerOfTwo table.2.2.size = true ∧
      table.2.1 ≤ table.2.2.size)
    (once : (tables.map Prod.fst).Nodup) (fits : (tableSection tables).length < 2 ^ 32) :
    ∃ found, readTableSection (tableSection tables).toByteArray = .ok found ∧
      (∀ index, index ∉ tables.map Prod.fst → found index = .absent) ∧
      ∀ index keys slots, (index, keys, slots) ∈ tables →
        ∃ offset, found index = ⟨offset, slots.size, keys⟩ ∧
          StandsAt (tableSection tables).toByteArray offset (Table.bytes slots) := by
  have stands := StandsAt.self (tableSection tables)
  have bound := stands.end_le
  rw [tableSection, List.append_assoc] at stands bound
  have count := u32At?_of_standsAt stands.left
  have rest := stands.right_of_length (length_le32 _)
  simp only [List.length_append, length_le32, length_tableDirectory] at bound
  rw [← List.append_assoc, ← tableSection] at bound rest count
  have size : (tableSection tables).toByteArray.size < 2 ^ 32 := by rwa [List.size_toByteArray]
  have few : tables.length < 2 ^ 32 := by
    simp only [Layout.tableEntrySize] at bound
    omega
  obtain ⟨found, read, absent, present⟩ := readTables_directory (fun _ => .absent) rest.left
    (by simpa only [length_tableDirectory, Nat.zero_add] using rest.right) wellFormed once size
  refine ⟨found, ?_, absent, present⟩
  rw [readTableSection, if_neg (by omega), count]
  dsimp only
  rw [toNat_ofNat_of_lt few]
  exact read

/-- The tables of an index hold what is posted: for every sub-index a table that holds the keys,
which may be a table without slots. -/
def HoldsKeys (s : Snapshot) (posted : List Posting) (index : SubIndex) : Prop :=
  ∃ offset slots keys, s.tables index = ⟨offset, slots.size, keys.length⟩ ∧
    StandsAt (s.sectionBytes .tables) offset (Table.bytes slots) ∧ Table.Holds slots keys ∧
    List.Forall₂ (Slot.Stores s.textBytes (s.sectionBytes .postings)) keys
      (postingLists posted index).toList

end Snapshot

namespace Builder

open Snapshot

variable {posted : List Posting} {written : Tables}

theorem Tables.Written.map_fst (h : written.Written posted SubIndex.all) :
    written.tables.map Prod.fst =
      SubIndex.all.filter fun index => (postingLists posted index).toList ≠ [] := by
  rw [← List.forall₂_eq_eq_eq, List.forall₂_map_left_iff]
  exact h.tables.imp fun _ _ stores => stores.1

theorem Tables.Written.exists_index (h : written.Written posted SubIndex.all)
    {table : SubIndex × Nat × Array (Option Slot)} (there : table ∈ written.tables) :
    ∃ index, TableStores posted written.strings.bytes written.postings table index := by
  obtain ⟨i, bound, rfl⟩ := List.mem_iff_getElem.1 there
  exact ⟨_, h.tables.get bound (h.tables.length_eq ▸ bound)⟩

theorem Tables.Written.wellFormed (h : written.Written posted SubIndex.all) :
    ∀ table ∈ written.tables, isPowerOfTwo table.2.2.size = true ∧
      table.2.1 ≤ table.2.2.size := by
  intro table there
  obtain ⟨index, -, keys, -, count, slots⟩ := h.exists_index there
  obtain ⟨k, power⟩ := Table.capacity_eq_two_pow keys.length
  have room := Table.lt_capacity keys.length
  rw [slots, count, Table.size_ofKeys]
  exact ⟨power ▸ isPowerOfTwo_two_pow _, Nat.le_of_lt room⟩

/-- Reading the written tables gives all sub-indexes their keys. -/
theorem Tables.Written.read (h : written.Written posted SubIndex.all)
    (fits : (tableSection written.tables).length < 2 ^ 32) :
    ∃ found, readTableSection (tableSection written.tables).toByteArray = .ok found ∧
      ∀ s : Snapshot, s.tables = found →
        s.sectionBytes .tables = (tableSection written.tables).toByteArray →
        s.sectionBytes .postings = written.postings →
        Extends s.textBytes written.strings.bytes → ∀ index, s.HoldsKeys posted index := by
  have once : (written.tables.map Prod.fst).Nodup := by
    rw [h.map_fst]
    exact List.Pairwise.filter _ (by decide : SubIndex.all.Nodup)
  obtain ⟨found, read, absent, present⟩ := readTableSection_tableSection h.wellFormed once fits
  refine ⟨found, read, fun s tables tableBytes postingBytes texts index => ?_⟩
  by_cases nothing : (postingLists posted index).toList = []
  · have unlisted : index ∉ written.tables.map Prod.fst := by
      rw [h.map_fst]
      simp [nothing]
    refine ⟨0, #[], [], by rw [tables, absent index unlisted]; rfl, ?_, .replicate 0, ?_⟩
    · exact ⟨[], _, rfl, rfl⟩
    · rw [nothing]
      exact .nil
  · have listed : index ∈ written.tables.map Prod.fst := by
      rw [h.map_fst]
      simpa [SubIndex.mem_all] using nothing
    obtain ⟨table, there, rfl⟩ := List.mem_map.1 listed
    obtain ⟨_, rfl, keys, stores, count, slots⟩ := h.exists_index there
    obtain ⟨offset, place, stands⟩ := present _ _ _ there
    refine ⟨offset, table.2.2, keys, by rw [tables, place, count], tableBytes ▸ stands, ?_, ?_⟩
    · rw [slots]
      exact Table.holds_ofKeys keys
    · rw [postingBytes]
      exact stores.imp fun _ _ h => h.mono texts (.refl _)

end Builder

end ContentBlocker
