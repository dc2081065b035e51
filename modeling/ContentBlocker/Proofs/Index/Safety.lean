import ContentBlocker.Proofs.Index.GuardedTables
/-!
# A loaded index is safe to read

Loading is the only check: once it has accepted a buffer, however the bytes came about, everything
can be asked for. `Snapshot.SafeToRead` says so of an index in full, and `safeToRead_of_load` of
every index that was loaded.
-/

namespace ContentBlocker.Snapshot

open Layout

/-- The parts of an index lie where they may, and every question to it is answered on a machine,
without a fault and as over natural numbers. What is read item by item is read until it ends. -/
structure SafeToRead (s : Snapshot) : Prop where
  sections : ∀ id extent, s.sections id = some extent →
    extent.offset + extent.length ≤ s.data.size ∧ (s.sectionBytes id).size = extent.length
  capacity : ∀ index, (s.tables index).capacity = 0 ∨ ∃ k, (s.tables index).capacity = 2 ^ k
  keyCount : ∀ index, (s.tables index).keyCount ≤ (s.tables index).capacity
  slots : ∀ index, ∀ i < (s.tables index).capacity,
    (s.tables index).offset + i * slotSize + slotSize ≤ (s.sectionBytes .tables).size
  bytes : ∀ id, Guarded.sectionBytes s id = .ok (s.sectionBytes id)
  texts : Guarded.textBytes s = .ok s.textBytes
  counts : ∀ id size, ∃ table, Guarded.recordTable s id size = .ok table ∧
    table.count = recordCount (s.sectionBytes id) size
  urls : ∀ id : UInt32, Guarded.url? s id = .ok (s.url? id.toNat)
  contents : ∀ id : UInt32, Guarded.content? s id = .ok (s.content? id.toNat)
  snippets : ∀ id : UInt32, Guarded.snippet? s id = .ok (s.snippet? id.toNat)
  info : Guarded.info s = .ok s.info
  lists : ∀ place, ∃ lists, Guarded.listsAt s place = .ok lists ∧
    lists.names = .ok (s.listsAt place) ∧ lists.isGeneric = .ok (s.listsAt place).isGeneric ∧
    ∀ key, lists.sitekeys.contains key = .ok ((s.listsAt place).sitekeys.contains key)
  postings : ∀ start : UInt32, ∃ list,
    Guarded.Postings.startAt (s.sectionBytes .postings) start.toNat = .ok list ∧
    Guarded.Postings.items.all list =
      .ok (PostingList.decodeAt (s.sectionBytes .postings) start.toNat)
  lookup : ∀ index key, Guarded.lookup s index key = .ok (s.lookup index key)
  entries : ∀ index, Guarded.entries s index = .ok (s.entries index)

theorem Validated.safeToRead {s : Snapshot} (h : s.Validated) : s.SafeToRead where
  sections _ _ present := ⟨(h.section_liesIn present).inside, h.size_sectionBytes present⟩
  capacity index := (h.table_liesIn index).capacity
  keyCount index := (h.table_liesIn index).keyCount
  slots index _ inside := (h.table_liesIn index).slot_le inside
  bytes := Guarded.sectionBytes_eq h
  texts := Guarded.textBytes_eq h
  counts id size := ⟨_, Guarded.recordTable_eq h id size, rfl⟩
  urls := Guarded.url?_eq h
  contents := Guarded.content?_eq h
  snippets := Guarded.snippet?_eq h
  info := Guarded.info_eq h
  lists place := by
    obtain ⟨lists, read, reads⟩ := Guarded.listsAt_eq h place
    exact ⟨lists, read, reads.names_eq, reads.isGeneric_eq,
      Guarded.TextList.contains_eq reads.sitekeys⟩
  postings start :=
    have fits := Guarded.size_lt_limit h .postings
    ⟨_, Guarded.Postings.startAt_eq fits _, Guarded.Postings.all_opened fits _⟩
  lookup := Guarded.lookup_eq h
  entries := Guarded.entries_eq h

/-- Of whatever buffer loads, an index results that is safe to read. -/
theorem safeToRead_of_load {data : ByteArray} {s : Snapshot} (loaded : load data = .ok s) :
    s.data = data ∧ s.SafeToRead := by
  obtain ⟨same, valid⟩ := validated_of_load loaded
  exact ⟨same, valid.safeToRead⟩

/-- A table with no free slot, texts that are missing, and a posting list that says it has
`2 ^ 32 - 1` numbers and breaks off in the middle of the second. -/
theorem safeToRead_of_load_cut_off :
    let header : List UInt8 := [0x46, 0x4c, 0x58, 0x31, 1, 0, 0, 0, 64, 0, 0, 0, 2, 0, 0, 0,
      64, 0, 0, 0] ++ List.replicate 44 0
    let directory : List UInt8 :=
      [10, 0, 0, 0, 112, 0, 0, 0, 36, 0, 0, 0] ++ List.replicate 12 0 ++
      [9, 0, 0, 0, 148, 0, 0, 0, 10, 0, 0, 0] ++ List.replicate 12 0
    let tables : List UInt8 := [1, 0, 0, 0, 20, 0, 0, 0, 1, 0, 0, 0, 1, 0, 0, 0, 20, 0, 0, 0] ++
      List.replicate 4 0xff ++ List.replicate 12 0
    let postings : List UInt8 := List.replicate 10 0xff
    ∃ s, load (header ++ directory ++ tables ++ postings).toByteArray = .ok s ∧ s.SafeToRead ∧
      Guarded.entries s .snippet = .ok [([], [0xffffffff, 0x7e])] := by
  intro header directory tables postings
  have listed : (load (header ++ directory ++ tables ++ postings).toByteArray).toOption.map
      (entries · .snippet) = some [([], [0xffffffff, 0x7e])] := by decide +kernel
  cases loaded : load (header ++ directory ++ tables ++ postings).toByteArray with
  | error fault =>
    rw [loaded] at listed
    cases listed
  | ok s =>
    rw [loaded] at listed
    obtain ⟨-, safe⟩ := safeToRead_of_load loaded
    refine ⟨s, rfl, safe, ?_⟩
    rw [safe.entries]
    exact congrArg Except.ok (Option.some.inj listed)

end ContentBlocker.Snapshot
