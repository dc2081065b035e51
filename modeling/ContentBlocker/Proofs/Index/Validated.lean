import ContentBlocker.Proofs.Bytes.Placement
import ContentBlocker.Proofs.Filter.Parsed
import ContentBlocker.Index.Snapshot
/-!
# What loading has checked

`Snapshot.Validated` lists what loading has read and found in order. Whatever is proved about loaded
indexes, built or not, is proved from it.
-/

namespace ContentBlocker

open Bytes Layout

namespace Snapshot

/-- The index has passed the checks of loading. -/
structure Validated (s : Snapshot) : Prop where
  headerFits : headerSize ≤ s.data.size
  magic : hasMagic s.data = true
  version : u16At? s.data 4 = some Layout.version
  flags : u16At? s.data 6 = some s.flags
  checksum : ∃ stored, u32At? s.data 28 = some stored ∧
    checkChecksum s.data s.flags stored = .ok ()
  sections : ∃ entry count, readSections s.data entry count (fun _ => none) = .ok s.sections
  tables : readTableSection (s.sectionBytes .tables) = .ok s.tables

theorem validated_of_load {data : ByteArray} {s : Snapshot} (loaded : load data = .ok s) :
    s.data = data ∧ s.Validated := by
  unfold load at loaded
  simp only [bind, Except.bind, throw, throwThe, MonadExceptOf.throw, pure, Except.pure] at loaded
  repeat' split at loaded
  all_goals cases loaded
  rename_i readTables
  refine ⟨rfl, ?_⟩
  exact
    { headerFits := Nat.not_lt.1 ‹_›
      magic := by simpa using ‹¬(!hasMagic data) = true›
      version := by simp_all
      flags := ‹_›
      checksum := ⟨_, ‹_›, ‹_›⟩
      sections := ⟨_, _, ‹_›⟩
      tables := of_mapError_eq_ok readTables }

/-- A buffer with a header whose checksum is not that of the buffer is refused for it. -/
theorem load_of_mismatch {data : ByteArray} {flags : UInt16} {stored : UInt32}
    (headerFits : headerSize ≤ data.size) (magic : hasMagic data = true)
    (version : u16At? data 4 = some Layout.version) (flagsAt : u16At? data 6 = some flags)
    (carries : flags &&& hasChecksum ≠ 0) (storedAt : u32At? data 28 = some stored)
    (mismatch : stored ≠ checksumOf data) :
    load data = .error (.checksum stored (checksumOf data)) := by
  have readable : ∀ i, i + 4 ≤ headerSize → ∃ n, u32At? data i = some n := fun i inside =>
    ⟨_, dif_pos (Nat.le_trans inside headerFits)⟩
  obtain ⟨count, countAt⟩ := readable 12 (by decide)
  obtain ⟨directory, directoryAt⟩ := readable 16 (by decide)
  obtain ⟨buildId, buildIdAt⟩ := readable 24 (by decide)
  have refused : checkChecksum data flags stored = .error (.checksum stored (checksumOf data)) :=
    if_neg (not_or.2 ⟨carries, mismatch⟩)
  simp only [load, if_neg (Nat.not_lt.2 headerFits), magic, version, flagsAt, countAt, directoryAt,
    buildIdAt, storedAt, refused, Bool.not_true, Bool.false_eq_true, if_false, ne_eq,
    not_true_eq_false, bind, Except.bind]

end Snapshot

end ContentBlocker
