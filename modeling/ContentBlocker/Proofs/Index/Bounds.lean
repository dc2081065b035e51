import ContentBlocker.Proofs.Index.Validated
/-!
# Where the parts of a loaded index lie

Whatever a buffer holds, the sections of an index that was loaded from it lie inside the buffer, and
the tables inside their section. Each is shown for one entry of a directory and carried through the
directory, so that it does not matter in which order entries come and which of them are passed over.
-/

namespace ContentBlocker

open Bytes Layout

/-- A section lies inside its buffer, and its place is given by words. -/
structure Extent.LiesIn (extent : Extent) (data : ByteArray) : Prop where
  inside : extent.offset + extent.length ≤ data.size
  offset : extent.offset < 2 ^ 32
  length : extent.length < 2 ^ 32

/-- A table lies inside its section, has no slots or a power of two of them, and no more keys than
slots. -/
structure TableExtent.LiesIn (table : TableExtent) (data : ByteArray) : Prop where
  inside : table.offset + table.capacity * slotSize ≤ data.size
  capacity : table.capacity = 0 ∨ ∃ k, table.capacity = 2 ^ k
  keyCount : table.keyCount ≤ table.capacity

theorem TableExtent.absent_liesIn (data : ByteArray) : TableExtent.absent.LiesIn data :=
  ⟨Nat.zero_le _, .inl rfl, Nat.le_refl _⟩

namespace TableExtent.LiesIn

variable {table : TableExtent} {data : ByteArray}

/-- Every slot lies inside the section. -/
theorem slot_le (h : table.LiesIn data) {i : Nat} (slot : i < table.capacity) :
    table.offset + i * slotSize + slotSize ≤ data.size := by
  have whole := Nat.mul_le_mul_right slotSize (Nat.succ_le_of_lt slot)
  have := h.inside
  rw [Nat.succ_mul] at whole
  omega

end TableExtent.LiesIn

namespace Snapshot

/-- What reading one more entry of the section directory does. -/
theorem readSections_succ {data : ByteArray} {entry count : Nat}
    {sections result : SectionId → Option Extent}
    (read : readSections data entry (count + 1) sections = .ok result) :
    ∃ after, readSections data (entry + directoryEntrySize) count after = .ok result ∧
      (after = sections ∨ ∃ id, ∃ extent : Extent, extent.LiesIn data ∧
        after = fun other => if other = id then some extent else sections other) := by
  simp only [readSections, bind, Except.bind] at read
  split at read
  case h_2 => cases read
  split at read
  case h_2 => cases read
  rename_i offset _
  split at read
  case h_2 => cases read
  rename_i length _
  split at read
  case h_1 => exact ⟨sections, read, .inl rfl⟩
  rename_i id _
  split at read
  case isTrue => cases read
  rename_i inside
  exact ⟨_, read, .inr ⟨id, _, ⟨Nat.not_lt.1 inside, offset.toNat_lt, length.toNat_lt⟩, rfl⟩⟩

/-- Each entry of the directory that counts names a place inside the buffer. -/
theorem liesIn_of_readSections {data : ByteArray} {entry count : Nat}
    {sections result : SectionId → Option Extent}
    (read : readSections data entry count sections = .ok result)
    (before : ∀ id extent, sections id = some extent → extent.LiesIn data) :
    ∀ id extent, result id = some extent → extent.LiesIn data := by
  induction count generalizing entry sections with
  | zero =>
    cases read
    exact before
  | succ count ih =>
    obtain ⟨after, rest, unchanged | ⟨id, extent, lies, changed⟩⟩ := readSections_succ read
    · exact ih rest (unchanged ▸ before)
    · refine ih rest fun other extent' found => ?_
      simp only [changed] at found
      by_cases same : other = id
      · rw [if_pos same] at found
        cases found
        exact lies
      · rw [if_neg same] at found
        exact before other extent' found

/-- The test of loading for powers of two. -/
theorem isPowerOfTwo_iff {n : Nat} : isPowerOfTwo n = true ↔ ∃ k, n = 2 ^ k := by
  rw [isPowerOfTwo, Bool.and_eq_true, decide_eq_true_eq, decide_eq_true_eq]
  constructor
  · rintro ⟨positive, bits⟩
    exact (Nat.and_sub_one_eq_zero_iff_isPowerOfTwo positive).1 bits
  · rintro ⟨k, rfl⟩
    have positive : 2 ^ k ≠ 0 := Nat.ne_of_gt (Nat.two_pow_pos k)
    exact ⟨positive, (Nat.and_sub_one_eq_zero_iff_isPowerOfTwo positive).2 ⟨k, rfl⟩⟩

/-- What reading one more entry of the table directory does. -/
theorem readTables_succ {data : ByteArray} {entry count : Nat}
    {tables result : SubIndex → TableExtent}
    (read : readTables data entry (count + 1) tables = .ok result) :
    ∃ after, readTables data (entry + tableEntrySize) count after = .ok result ∧
      (after = tables ∨ ∃ index, ∃ table : TableExtent, table.LiesIn data ∧
        after = fun other => if other = index then table else tables other) := by
  simp only [readTables, bind, Except.bind] at read
  split at read
  case h_2 => cases read
  split at read
  case h_2 => cases read
  split at read
  case h_2 => cases read
  split at read
  case h_2 => cases read
  split at read
  case h_1 => exact ⟨tables, read, .inl rfl⟩
  rename_i index _
  split at read
  case isTrue => cases read
  rename_i powers
  split at read
  case isTrue => cases read
  rename_i bounds
  obtain ⟨inside, keys⟩ := not_or.1 bounds
  refine ⟨_, read, .inr ⟨index, _, ⟨Nat.not_lt.1 inside, ?_, Nat.not_lt.1 keys⟩, rfl⟩⟩
  rw [← isPowerOfTwo_iff]
  simpa [Classical.or_iff_not_imp_left] using powers

/-- Each entry of the directory that counts names a place inside the section. -/
theorem liesIn_of_readTables {data : ByteArray} {entry count : Nat}
    {tables result : SubIndex → TableExtent}
    (read : readTables data entry count tables = .ok result)
    (before : ∀ index, (tables index).LiesIn data) : ∀ index, (result index).LiesIn data := by
  induction count generalizing entry tables with
  | zero =>
    cases read
    exact before
  | succ count ih =>
    obtain ⟨after, rest, unchanged | ⟨index, table, lies, changed⟩⟩ := readTables_succ read
    · exact ih rest (unchanged ▸ before)
    · refine ih rest fun other => ?_
      simp only [changed]
      by_cases same : other = index
      · rw [if_pos same]
        exact lies
      · rw [if_neg same]
        exact before other

theorem liesIn_of_readTableSection {data : ByteArray} {tables : SubIndex → TableExtent}
    (read : readTableSection data = .ok tables) : ∀ index, (tables index).LiesIn data := by
  unfold readTableSection at read
  split at read
  · cases read
    exact fun _ => TableExtent.absent_liesIn data
  · split at read
    · cases read
    · exact liesIn_of_readTables read fun _ => TableExtent.absent_liesIn data

namespace Validated

variable {s : Snapshot} (h : s.Validated)

include h

theorem section_liesIn {id : SectionId} {extent : Extent} (present : s.sections id = some extent) :
    extent.LiesIn s.data := by
  obtain ⟨entry, count, read⟩ := h.sections
  exact liesIn_of_readSections read (fun _ _ => nofun) id extent present

theorem table_liesIn (index : SubIndex) : (s.tables index).LiesIn (s.sectionBytes .tables) :=
  liesIn_of_readTableSection h.tables index

/-- A section that is present has the bytes that its entry names. -/
theorem sectionBytes_eq {id : SectionId} {extent : Extent} (present : s.sections id = some extent) :
    s.sectionBytes id = s.data.extract extent.offset (extent.offset + extent.length) := by
  rw [sectionBytes, present]
  simp only [sliceOrEmpty, slice?, (h.section_liesIn present).inside, if_true, Option.getD_some]

theorem size_sectionBytes {id : SectionId} {extent : Extent}
    (present : s.sections id = some extent) : (s.sectionBytes id).size = extent.length := by
  have := (h.section_liesIn present).inside
  rw [h.sectionBytes_eq present, ByteArray.size_extract]
  omega

theorem size_sectionBytes_lt (id : SectionId) : (s.sectionBytes id).size < 2 ^ 32 := by
  cases present : s.sections id with
  | none =>
    rw [sectionBytes, present]
    exact Nat.two_pow_pos 32
  | some extent =>
    rw [h.size_sectionBytes present]
    exact (h.section_liesIn present).length

end Validated

end Snapshot

end ContentBlocker
