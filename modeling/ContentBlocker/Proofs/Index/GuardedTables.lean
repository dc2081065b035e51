import ContentBlocker.Proofs.Index.GuardedRecords
import ContentBlocker.Proofs.Index.Lookup
/-!
# Tables and posting lists are read without faults

The loop over the groups of a word keeps, from one group to the next, how many groups are left and
that no position behind the data is reached; with it every number of a posting list is read, however
the groups end. A search in a table goes on at the next slot modulo the capacity, which is a power
of two, so it stays inside the table and visits the slots that the search over natural numbers
visits.
-/

namespace ContentBlocker.Guarded

open Access Layout

/-- The bytes from a position on. -/
def bytesFrom (data : ByteArray) (i : Nat) : List UInt8 := data.data.toList.drop i

theorem bytesFrom_of_size_le {data : ByteArray} {i : Nat} (outside : data.size ≤ i) :
    bytesFrom data i = [] := by
  rw [bytesFrom, List.drop_eq_nil_iff, Bytes.length_toList]
  exact outside

theorem bytesFrom_of_lt {data : ByteArray} {i : Nat} (inside : i < data.size) :
    bytesFrom data i = data[i] :: bytesFrom data (i + 1) := by
  have bound : i < data.data.toList.length := by rwa [Bytes.length_toList]
  rw [bytesFrom, List.drop_eq_getElem_cons bound]
  rfl

section Varint

/-- The groups behind the lowest one, moved to their place. -/
theorem shiftLeft_seven (word : UInt32) {shift : Nat} (few : shift + 7 ≤ 28) :
    word <<< UInt32.ofNat (shift + 7) = word <<< 7 <<< UInt32.ofNat shift := by
  have sum : UInt32.ofNat (shift + 7) = 7 + UInt32.ofNat shift := by
    rw [Nat.add_comm, UInt32.ofNat_add]
    rfl
  have value : (UInt32.ofNat shift).toNat = shift := Bytes.toNat_ofNat_of_lt (by omega)
  rw [sum]
  refine UInt32.shiftLeft_add_of_toNat_lt ?_
  rw [value]
  exact (by omega : 7 + shift < 32)

/-- The loop reads the groups that are left, and puts them behind those it has read. -/
theorem decodeVarint_eq {data : ByteArray} (fits : data.size < limit) {start read groups : Nat}
    (word : UInt32) {shift : Nat} (left : shift + 7 * (groups + 1) = 35)
    (inside : start + read ≤ data.size) :
    ∃ read', decodeVarint data start word shift read = .ok
        (word ||| (Varint.decodeGroups (groups + 1) (bytesFrom data (start + read))).1 <<<
          UInt32.ofNat shift, read') ∧
      start + read' ≤ data.size ∧ bytesFrom data (start + read') =
        (Varint.decodeGroups (groups + 1) (bytesFrom data (start + read))).2 := by
  induction groups using Nat.strongRecOn generalizing word shift read with
  | ind groups ih =>
    rw [decodeVarint, add_eq (by omega)]
    simp only [bind, Except.bind]
    by_cases ends : data.size ≤ start + read
    · rw [if_pos ends, bytesFrom_of_size_le ends]
      refine ⟨read, ?_, inside, bytesFrom_of_size_le ends⟩
      simp [Varint.decodeGroups]
      rfl
    · have there : start + read < data.size := Nat.not_le.1 ends
      rw [if_neg ends, bytesFrom_of_lt there, Varint.decodeGroups,
        byte_eq (getElem?_pos data _ there)]
      simp only [add_eq (by omega : read + 1 < limit), shiftLeft, if_pos (by omega : shift < 32)]
      by_cases last : data[start + read] &&& 0x80 = 0
      · rw [if_pos last, if_pos last]
        exact ⟨read + 1, rfl, there, rfl⟩
      · rw [if_neg last, if_neg last]
        cases groups with
        | zero =>
          rw [if_pos (by omega)]
          refine ⟨read + 1, ?_, there, by simp [Varint.decodeGroups, Nat.add_assoc]⟩
          simp [Varint.decodeGroups]
          rfl
        | succ groups =>
          rw [if_neg (by omega)]
          obtain ⟨read', loops, inside', behind⟩ := ih groups (Nat.lt_succ_self _)
            (word ||| (data[start + read] &&& 0x7f).toUInt32 <<< UInt32.ofNat shift)
            (by omega : shift + 7 + 7 * (groups + 1) = 35) (by omega : start + (read + 1) ≤ _)
          refine ⟨read', ?_, inside', behind⟩
          rw [loops, shiftLeft_seven _ (by omega), UInt32.shiftLeft_or, UInt32.or_assoc]
          rfl

/-- A whole word is read. -/
theorem decodeVarint_first {data : ByteArray} (fits : data.size < limit) {start : Nat}
    (inside : start ≤ data.size) :
    ∃ read, decodeVarint data start 0 0 0 =
        .ok ((Varint.decode (bytesFrom data start)).1, read) ∧ start + read ≤ data.size ∧
      bytesFrom data (start + read) = (Varint.decode (bytesFrom data start)).2 := by
  have loop := decodeVarint_eq fits 0 (by decide : 0 + 7 * (4 + 1) = 35)
    (by omega : start + 0 ≤ data.size)
  simpa [Varint.decode] using loop

end Varint

namespace Postings

/-- The posting list at a position, before its first number is read. -/
def opened (data : ByteArray) (start : Nat) : Postings :=
  match Bytes.u32At? data start with
  | none => empty
  | some count => ⟨data, start + 4, count.toNat, 0⟩

theorem startAt_eq {data : ByteArray} (fits : data.size < limit) (start : Nat) :
    startAt data start = .ok (opened data start) := by
  rw [startAt, u32At?_eq fits, opened]
  simp only [bind, Except.bind]
  cases stands : Bytes.u32At? data start with
  | none => rfl
  | some count =>
    rw [add_eq (Nat.lt_of_le_of_lt (Bytes.end_le_of_u32At? stands) fits)]
    rfl

theorem all_of_end {list : Postings} (ends : list.remaining = 0 ∨ list.data.size ≤ list.position) :
    items.all list = .ok [] := by
  have nothing : items.next list = .ok none := if_pos ends
  exact Iterator.all_of_end nothing

/-- From any position on, as many numbers are read as are left and have bytes. -/
theorem all_items {data : ByteArray} (fits : data.size < limit) {position : Nat}
    (inside : position ≤ data.size) (remaining : Nat) (previous : UInt32) :
    items.all ⟨data, position, remaining, previous⟩ =
      .ok (PostingList.decodeIds previous remaining (bytesFrom data position)) := by
  induction remaining generalizing position previous with
  | zero =>
    rw [all_of_end (.inl rfl)]
    simp [PostingList.decodeIds]
  | succ remaining ih =>
    by_cases ends : data.size ≤ position
    · rw [all_of_end (.inr ends), bytesFrom_of_size_le ends]
      simp [PostingList.decodeIds]
    · obtain ⟨read, loops, inside', behind⟩ := decodeVarint_first fits inside
      have numbers : PostingList.decodeIds previous (remaining + 1) (bytesFrom data position) =
          (previous + (Varint.decode (bytesFrom data position)).1) ::
            PostingList.decodeIds (previous + (Varint.decode (bytesFrom data position)).1) remaining
              (Varint.decode (bytesFrom data position)).2 := by
        rw [bytesFrom_of_lt (Nat.not_le.1 ends), PostingList.decodeIds]
      rw [numbers, ← behind]
      refine Iterator.all_of_item ?_ (ih inside' _)
      change next _ = _
      rw [next, if_neg (not_or.2 ⟨Nat.succ_ne_zero _, ends⟩), loops]
      simp only [bind, Except.bind, add_eq (by omega : position + read < limit),
        sub_eq (Nat.succ_pos _)]
      rfl

theorem all_opened {data : ByteArray} (fits : data.size < limit) (start : Nat) :
    items.all (opened data start) = .ok (PostingList.decodeAt data start) := by
  rw [opened, PostingList.decodeAt]
  cases stands : Bytes.u32At? data start with
  | none => exact all_of_end (.inl rfl)
  | some count =>
    dsimp only
    rw [all_items fits (Bytes.end_le_of_u32At? stands), Bytes.toList_extract_size, bytesFrom]

end Postings

section Tables

namespace TableView

/-- What a search for a key makes of a slot. -/
def visit (table : TableView) (key : Text) (i : Nat) : Option (Option Slot) :=
  Table.visitSlot (Slot.isFor table.texts key) (Snapshot.slotAt? table.data table.extent i)

/-- The posting list to which a search leads. -/
def answer (table : TableView) (found : Option (Option Slot)) : Postings :=
  (found.join.map fun slot => .opened table.postings slot.postings.toNat).getD .empty

theorem all_answer {table : TableView} (fits : table.postings.size < limit)
    (found : Option (Option Slot)) :
    Postings.items.all (table.answer found) = .ok ((found.join.map fun slot =>
      PostingList.decodeAt table.postings slot.postings.toNat).getD []) := by
  rw [answer]
  cases found.join with
  | none => exact Postings.all_of_end (.inl rfl)
  | some slot => exact Postings.all_opened fits _

theorem postingsOf_eq {table : TableView} (fits : table.postings.size < limit) {slot : ByteArray}
    {place : UInt32} (placeRead : u32At? slot 12 = .ok (some place)) :
    table.postingsOf slot = .ok (.opened table.postings place.toNat) := by
  rw [postingsOf, bind_ok placeRead]
  exact Postings.startAt_eq fits place.toNat

/-- A slot is asked for its key as the search over natural numbers asks for it. -/
theorem isKey_eq {table : TableView} {slot : ByteArray} {stored : StringRef}
    (keyRead : resolveAt table.texts slot 4 = .ok (Snapshot.resolve table.texts stored))
    (key : Text) (hash place : UInt32) :
    table.isKey (hashKey key) key hash slot =
      .ok (Slot.isFor table.texts key ⟨hash, stored, place⟩) := by
  rw [isKey, Slot.isFor]
  by_cases hashes : hash = hashKey key
  · rw [if_pos hashes, bind_ok keyRead]
    simp only [hashes, true_and]
    rfl
  · rw [if_neg hashes]
    simp only [hashes, false_and, decide_false]
    rfl

section Slots

variable {table : TableView} (lies : table.extent.LiesIn table.data)
  (fits : table.data.size < limit) {i : Nat} (inside : i < table.extent.capacity)

include lies fits inside

/-- The bytes of a slot of a table, and what stands in them. -/
theorem slot_eq :
    ∃ slot hash key place, table.slot i = .ok slot ∧
      u32At? slot 0 = .ok (some hash) ∧
      resolveAt table.texts slot 4 = .ok (Snapshot.resolve table.texts key) ∧
      u32At? slot 12 = .ok (some place) ∧
      Snapshot.slotAt? table.data table.extent i =
        if hash = 0 then none else some ⟨hash, key, place⟩ := by
  have bound := lies.slot_le inside
  obtain ⟨hash, hashAt, hashRead⟩ := word_of_record fits bound (by decide : 0 + 4 ≤ slotSize)
  obtain ⟨key, keyAt, keyRead⟩ :=
    text_of_record fits bound (by decide : 4 + stringRefSize ≤ slotSize)
  obtain ⟨place, placeAt, placeRead⟩ := word_of_record fits bound (by decide : 12 + 4 ≤ slotSize)
  refine ⟨_, hash, key, place, ?_, hashRead, keyRead table.texts, placeRead, ?_⟩
  · rw [slot, bind_ok (mul_eq (by omega)), bind_ok (add_eq (by omega)),
      bind_ok (add_eq (by omega)), between?_eq (Nat.le_add_right _ _) bound]
    rfl
  · rw [Nat.add_zero] at hashAt
    simp only [Snapshot.slotAt?, hashAt, keyAt, placeAt, bind, Option.bind]
    rfl

variable (postingsFit : table.postings.size < limit)

include postingsFit

/-- The key in a slot with its posting list. -/
theorem occupant?_eq :
    table.occupant? i = .ok ((Snapshot.slotAt? table.data table.extent i).map fun slot =>
      (Snapshot.resolve table.texts slot.key,
        Postings.opened table.postings slot.postings.toNat)) := by
  obtain ⟨slot, hash, key, place, slotRead, hashRead, keyRead, placeRead, stands⟩ :=
    slot_eq lies fits inside
  rw [occupant?, bind_ok slotRead, bind_ok hashRead, stands, Option.getD_some]
  by_cases free : hash = 0
  · rw [if_pos free, if_pos free]
    rfl
  · rw [if_neg free, if_neg free, bind_ok keyRead, bind_ok (postingsOf_eq postingsFit placeRead)]
    rfl

/-- What one step of a search does at a slot. -/
theorem probe_succ (key : Text) (mask left : Nat) :
    table.probe (hashKey key) key mask (left + 1) i =
      match table.visit key i with
      | some found => .ok (table.answer (some found))
      | none => table.probe (hashKey key) key mask left ((i + 1) &&& mask) := by
  obtain ⟨slot, hash, stored, place, slotRead, hashRead, keyRead, placeRead, stands⟩ :=
    slot_eq lies fits inside
  have bound := lies.slot_le inside
  have next : add i 1 = .ok (i + 1) := by
    have : i ≤ i * slotSize := Nat.le_mul_of_pos_right i (by decide)
    have : 0 < slotSize := by decide
    exact add_eq (by omega)
  rw [probe, bind_ok slotRead, bind_ok hashRead, visit, stands, Option.getD_some]
  by_cases free : hash = 0
  · rw [if_pos free, if_pos free]
    rfl
  · rw [if_neg free, if_neg free, bind_ok (isKey_eq keyRead _ _ _), Table.visitSlot]
    by_cases isIt : Slot.isFor table.texts key ⟨hash, stored, place⟩
    · rw [if_pos isIt, if_pos isIt]
      exact postingsOf_eq postingsFit placeRead
    · rw [if_neg isIt, if_neg isIt, bind_ok next]

end Slots

variable {table : TableView} (lies : table.extent.LiesIn table.data)
  (fits : table.data.size < limit) (postingsFit : table.postings.size < limit)

include lies fits postingsFit

/-- A search for a key, from any slot on, goes the way of the search over natural numbers. -/
theorem probe_eq (key : Text) {k : Nat} (power : table.extent.capacity = 2 ^ k) (left : Nat)
    {i : Nat} (inside : i < table.extent.capacity) :
    table.probe (hashKey key) key (table.extent.capacity - 1) left i =
      .ok (table.answer (Table.probe table.extent.capacity (table.visit key) left i)) := by
  induction left generalizing i with
  | zero => rfl
  | succ left ih =>
    rw [probe_succ lies fits inside postingsFit, Table.probe]
    cases table.visit key i with
    | some found => rfl
    | none =>
      -- the mask of a power of two keeps a position inside the table
      have wraps : (i + 1) &&& (table.extent.capacity - 1) = (i + 1) % table.extent.capacity := by
        rw [power, Nat.and_two_pow_sub_one_eq_mod]
      dsimp only
      rw [wraps]
      exact ih (Nat.mod_lt _ (by omega))

theorem lookup_eq (key : Text) :
    table.lookup key =
      .ok (table.answer (Table.search table.extent.capacity (hashKey key) (table.visit key))) := by
  rw [lookup]
  rcases lies.capacity with none | ⟨k, power⟩
  · rw [if_pos none, none]
    rfl
  · have positive : 0 < table.extent.capacity := power ▸ Nat.two_pow_pos k
    have start : (hashKey key).toNat &&& (table.extent.capacity - 1) =
        (hashKey key).toNat % table.extent.capacity := by
      rw [power, Nat.and_two_pow_sub_one_eq_mod]
    rw [if_neg (Nat.ne_of_gt positive), bind_ok (sub_eq positive), start]
    exact probe_eq lies fits postingsFit key power _ (Nat.mod_lt _ positive)

end TableView

section Indexes

variable {s : Snapshot} (h : s.Validated) (index : SubIndex)

include h

theorem tableView_eq : tableView s index =
    .ok ⟨s.sectionBytes .tables, s.sectionBytes .postings, s.textBytes, s.tables index⟩ := by
  rw [tableView, sectionBytes_eq h, sectionBytes_eq h, textBytes_eq h]
  rfl

/-- Every key can be looked up in every sub-index, and the numbers under it be read. -/
theorem lookup_eq (key : Text) : lookup s index key = .ok (s.lookup index key) := by
  have postingsFit := size_lt_limit h .postings
  rw [lookup, bind_ok (tableView_eq h index), bind_ok (TableView.lookup_eq (h.table_liesIn index)
    (size_lt_limit h .tables) postingsFit key), Snapshot.lookup_eq]
  exact TableView.all_answer postingsFit _

/-- All keys of a sub-index can be listed, and the numbers under each be read. -/
theorem entries_eq : entries s index = .ok (s.entries index) := by
  have postingsFit := size_lt_limit h .postings
  let table : TableView :=
    ⟨s.sectionBytes .tables, s.sectionBytes .postings, s.textBytes, s.tables index⟩
  let key (slot : Slot) := Snapshot.resolve s.textBytes slot.key
  have listed : (Iterator.ofRange table.occupant? table.extent.capacity).all 0 =
      .ok (((List.range table.extent.capacity).filterMap
        (Snapshot.slotAt? table.data table.extent)).map fun slot =>
          (key slot, Postings.opened table.postings slot.postings.toNat)) := by
    rw [Iterator.all_ofRange fun i _ inside => TableView.occupant?_eq (h.table_liesIn index)
      (size_lt_limit h .tables) inside postingsFit, List.map_filterMap, List.range_eq_range']
    rfl
  rw [entries, bind_ok (tableView_eq h index), bind_ok listed, List.mapM_map]
  have numbers : (fun entry : Text × Postings => do
      return (entry.1, ← Postings.items.all entry.2)) ∘ (fun slot : Slot =>
        (key slot, Postings.opened table.postings slot.postings.toNat)) = fun slot =>
      (pure (key slot, PostingList.decodeAt table.postings slot.postings.toNat) : Access _) := by
    funext slot
    exact bind_ok (Postings.all_opened postingsFit _) _
  refine (congrArg (List.mapM · _) numbers).trans ?_
  rw [List.mapM_pure, List.map_filterMap]
  rfl

end Indexes

end Tables

end ContentBlocker.Guarded
