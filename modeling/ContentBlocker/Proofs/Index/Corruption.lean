import ContentBlocker.Proofs.Checksum.Windows
import ContentBlocker.Proofs.Index.Validated
/-!
# Damage is noticed

A buffer that carries a checksum and loads does not load any more once up to four bytes in a row
have changed, whatever they were changed to. The bytes that say what the buffer is, and the stored
checksum itself, are not among those that this is about.
-/

namespace ContentBlocker

open Bytes Layout

/-- Lists of one length that agree outside a window have the same ends around it. -/
theorem exists_window {α : Type} {as bs : List α} (start length : Nat)
    (lengths : as.length = bs.length)
    (outside : ∀ i, i < start ∨ start + length ≤ i → as[i]? = bs[i]?) :
    ∃ before window window' after, as = before ++ window ++ after ∧
      bs = before ++ window' ++ after ∧ window.length = window'.length ∧
        window.length ≤ length := by
  have starts : as.take start = bs.take start := by
    apply List.ext_getElem?
    intro i
    by_cases early : i < start
    · rw [List.getElem?_take_of_lt early, List.getElem?_take_of_lt early, outside i (.inl early)]
    · rw [List.getElem?_take_eq_none (by omega), List.getElem?_take_eq_none (by omega)]
  have ends : as.drop (start + length) = bs.drop (start + length) := by
    apply List.ext_getElem?
    intro i
    rw [List.getElem?_drop, List.getElem?_drop, outside _ (.inr (by omega))]
  have split (cs : List α) :
      cs = cs.take start ++ (cs.drop start).take length ++ cs.drop (start + length) := by
    rw [List.append_assoc, ← List.drop_drop, List.take_append_drop, List.take_append_drop]
  refine ⟨as.take start, (as.drop start).take length, (bs.drop start).take length,
    as.drop (start + length), split as, ?_, ?_, ?_⟩
  · rw [starts, ends]
    exact split bs
  · simp [lengths]
  · exact List.length_take_le _ _

namespace Snapshot

/-- The bytes that the checksum is over. -/
def covered (data : ByteArray) : List UInt8 := data.data.toList.take 28 ++ data.data.toList.drop 32

theorem length_covered {data : ByteArray} (long : headerSize ≤ data.size) :
    (covered data).length = data.size - 4 := by
  have : 64 ≤ data.size := long
  rw [covered, List.length_append, List.length_take, List.length_drop, length_toList]
  omega

theorem getElem?_covered {data : ByteArray} (long : headerSize ≤ data.size) (i : Nat) :
    (covered data)[i]? = if i < 28 then data[i]? else data[i + 4]? := by
  have : 64 ≤ data.size := long
  have first : (data.data.toList.take 28).length = 28 := by
    rw [List.length_take, length_toList]
    omega
  by_cases low : i < 28
  · rw [if_pos low, covered, List.getElem?_append_left (by omega), List.getElem?_take_of_lt low,
      getElem?_toList]
  · rw [if_neg low, covered, List.getElem?_append_right (by omega), List.getElem?_drop, first,
      getElem?_toList]
    congr 1
    omega

/-- Two buffers of one size differ at most in the `length` bytes from `start` on. -/
structure DifferWithin (data changed : ByteArray) (start length : Nat) : Prop where
  size : changed.size = data.size
  outside : ∀ i, i < start ∨ start + length ≤ i → changed[i]? = data[i]?

namespace DifferWithin

variable {data changed : ByteArray} {start length : Nat}

/-- The bytes that the checksum is over differ in a window that is no longer. -/
theorem covered_window (h : DifferWithin data changed start length)
    (long : headerSize ≤ data.size) :
    ∃ before bytes bytes' after, covered data = before ++ bytes ++ after ∧
      covered changed = before ++ bytes' ++ after ∧ bytes.length = bytes'.length ∧
        bytes.length ≤ length := by
  have long' : headerSize ≤ changed.size := h.size.symm ▸ long
  apply exists_window (if start < 28 then start else start - 4) length
  · rw [length_covered long, length_covered long', h.size]
  · intro i outside
    rw [getElem?_covered long, getElem?_covered long']
    split at outside <;> split <;> exact (h.outside _ (by omega)).symm

/-- Unless the stored checksum changes, a change shows in the bytes that the checksum is over. -/
theorem eq_of_covered_eq (h : DifferWithin data changed start length)
    (long : headerSize ≤ data.size) (stored : ∀ i, 28 ≤ i → i < 32 → changed[i]? = data[i]?)
    (same : covered data = covered changed) : changed = data := by
  have long' : headerSize ≤ changed.size := h.size.symm ▸ long
  have agree (i : Nat) : (covered data)[i]? = (covered changed)[i]? := by rw [same]
  simp only [getElem?_covered long, getElem?_covered long'] at agree
  apply ByteArray.ext
  apply Array.toList_inj.1
  apply List.ext_getElem?
  intro i
  rw [getElem?_toList, getElem?_toList]
  by_cases low : i < 28
  · simpa [low] using (agree i).symm
  by_cases inStored : i < 32
  · exact stored i (by omega) inStored
  · have behind := agree (i - 4)
    rw [if_neg (by omega), if_neg (by omega), Nat.sub_add_cancel (by omega)] at behind
    exact behind.symm

end DifferWithin

/-- If a buffer loads and carries a checksum, then every other buffer that differs from it only
within four bytes in a row, all of them between the first eight bytes and the stored checksum or all
of them behind it, is refused for its checksum. -/
theorem load_of_differWithin {data changed : ByteArray} {s : Snapshot} (loaded : load data = .ok s)
    (carries : s.flags &&& hasChecksum ≠ 0) {start length : Nat} (short : length ≤ 4)
    (window : 8 ≤ start ∧ start + length ≤ 28 ∨ 32 ≤ start)
    (differ : DifferWithin data changed start length) (changes : changed ≠ data) :
    load changed = .error (.checksum (checksumOf data) (checksumOf changed)) := by
  obtain ⟨rfl, valid⟩ := validated_of_load loaded
  have kept {i : Nat} (inHeader : i < 8 ∨ 28 ≤ i ∧ i < 32) : changed[i]? = s.data[i]? :=
    differ.outside i (by omega)
  obtain ⟨stored, storedAt, accepted⟩ := valid.checksum
  have agrees : stored = checksumOf s.data := by
    by_contra mismatch
    rw [checkChecksum, if_neg (not_or.2 ⟨carries, mismatch⟩)] at accepted
    cases accepted
  subst agrees
  have flags : u16At? changed 6 = some s.flags := by
    rw [u16At?_eq, kept (by decide), kept (by decide), ← u16At?_eq, valid.flags]
  refine load_of_mismatch (differ.size.symm ▸ valid.headerFits) ?_ ?_ flags carries ?_ ?_
  · have start : changed.data.toList.take 4 = s.data.data.toList.take 4 := by
      apply List.ext_getElem?
      intro i
      by_cases early : i < 4
      · rw [List.getElem?_take_of_lt early, List.getElem?_take_of_lt early, getElem?_toList,
          getElem?_toList, kept (by omega)]
      · rw [List.getElem?_take_eq_none (by omega), List.getElem?_take_eq_none (by omega)]
    rw [hasMagic, start]
    exact valid.magic
  · rw [u16At?_eq, kept (by decide), kept (by decide), ← u16At?_eq, valid.version]
  · rw [u32At?_eq, kept (by decide), kept (by decide), kept (by decide), kept (by decide),
      ← u32At?_eq, storedAt]
  · intro same
    obtain ⟨before, bytes, bytes', after, isCovered, isCovered', lengths, isShort⟩ :=
      differ.covered_window valid.headerFits
    have equal : bytes = bytes' := by
      by_contra other
      apply Crc.checksum_ne_of_window (Nat.le_trans isShort short) lengths other
      rw [← isCovered, ← isCovered']
      exact same
    subst equal
    exact changes (differ.eq_of_covered_eq valid.headerFits
      (fun i lower upper => kept (.inr ⟨lower, upper⟩)) (isCovered.trans isCovered'.symm))

theorem load_of_differWithin_build_id :
    let bytes : List UInt8 := [0x46, 0x4c, 0x58, 0x31, 1, 0, 1, 0, 64, 0, 0, 0, 0, 0, 0, 0,
      64, 0, 0, 0, 0, 0, 0, 0]
    let rest : List UInt8 := [0xf6, 0xb0, 0x93, 0x2f] ++ List.replicate 32 0
    let data := (bytes ++ [0, 0, 0, 0] ++ rest).toByteArray
    let changed := (bytes ++ [1, 2, 3, 4] ++ rest).toByteArray
    (∃ s, load data = .ok s ∧ s.flags &&& hasChecksum ≠ 0) ∧
      load changed = .error (.checksum (checksumOf data) (checksumOf changed)) := by
  intro bytes rest data changed
  have accepted : (load data).isOk = true := by decide +kernel
  obtain ⟨s, loaded⟩ : ∃ s, load data = .ok s := by
    cases result : load data with
    | ok s => exact ⟨s, rfl⟩
    | error fault =>
      rw [result] at accepted
      cases accepted
  have carries : s.flags &&& hasChecksum ≠ 0 := by
    obtain ⟨same, valid⟩ := validated_of_load loaded
    have flags : u16At? data 6 = some hasChecksum := by decide +kernel
    rw [← same, valid.flags, Option.some.injEq] at flags
    rw [flags]
    decide
  have differ : DifferWithin data changed 24 4 := by
    have inside : ∀ i < 64, i < 24 ∨ 28 ≤ i → changed[i]? = data[i]? := by decide +kernel
    have size : data.size = 64 := by decide +kernel
    have size' : changed.size = 64 := by decide +kernel
    refine ⟨size'.trans size.symm, fun i outside => ?_⟩
    by_cases early : i < 64
    · exact inside i early outside
    · rw [getElem?_neg changed i (by omega), getElem?_neg data i (by omega)]
  have changes : changed ≠ data := by decide +kernel
  exact ⟨⟨s, loaded, carries⟩,
    load_of_differWithin loaded carries (by decide) (.inl (by decide)) differ changes⟩

end Snapshot

end ContentBlocker
