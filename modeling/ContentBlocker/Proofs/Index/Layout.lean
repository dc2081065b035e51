import ContentBlocker.Index.Builder
import ContentBlocker.Index.Snapshot
import ContentBlocker.Proofs.Bytes.Placement
/-!
# Loading what was laid out

`Layout.assemble` writes a header, a directory and padded sections. `Snapshot.load_assemble` says
that loading accepts such a buffer and finds every section with exactly its bytes, as long as the
buffer is small enough for the four-byte positions of the directory.
-/

namespace ContentBlocker

open Bytes

theorem SectionId.number_of_ofNumber? {n : Nat} {id : SectionId} (h : ofNumber? n = some id) :
    id.number = n := by
  cases n with
  | zero => cases h
  | succ n =>
    obtain ⟨bound, rfl⟩ := List.getElem?_eq_some_iff.1 h
    exact congrArg (· + 1) (List.Nodup.idxOf_getElem (by decide) n bound)

theorem SectionId.number_inj {a b : SectionId} (h : a.number = b.number) : a = b :=
  Option.some.inj (by rw [← ofNumber?_number a, h, ofNumber?_number])

theorem SectionId.number_pos (id : SectionId) : 0 < id.number := Nat.succ_pos _

theorem SectionId.number_le (id : SectionId) : id.number ≤ all.length :=
  List.idxOf_lt_length_of_mem (mem_all id)

namespace Layout

theorem le_align (n : Nat) : n ≤ align n 4 := by
  unfold align
  omega

theorem length_padded (content : List UInt8) :
    (padded content).length = align content.length 4 := by
  have := le_align content.length
  rw [padded, List.length_append, List.length_replicate]
  omega

theorem length_sectionDirectory (n start : Nat) (contents : List (List UInt8)) :
    (sectionDirectory n start contents).length = contents.length * directoryEntrySize := by
  induction contents generalizing n start with
  | nil => simp [sectionDirectory]
  | cons content rest ih =>
    simp only [sectionDirectory, List.length_append, ih, length_le16, length_le32,
      List.length_replicate, List.length_cons, List.length_nil, directoryEntrySize]
    omega

theorem length_headerStart (count : Nat) (buildId : UInt32) :
    (headerStart count buildId).length = 28 := rfl

end Layout

namespace Snapshot

open Layout

/-- One directory entry changes the place of the section that it numbers, and of no other. -/
theorem readSections_entry {data : ByteArray} {entry n start length : Nat}
    {more : List UInt8} (count : Nat) (places : SectionId → Option Extent)
    (directory : StandsAt data entry (le16 (UInt16.ofNat n) ++ ([0, 0] ++
      (le32 (UInt32.ofNat start) ++ (le32 (UInt32.ofNat length) ++ more)))))
    (number : n < 2 ^ 16) (inside : start + length ≤ data.size) (fits : data.size < 2 ^ 32) :
    ∃ places', readSections data entry (count + 1) places =
        readSections data (entry + directoryEntrySize) count places' ∧
      ∀ id, places' id = if id.number = n then some ⟨start, length⟩ else places id := by
  have readNumber := u16At?_of_standsAt directory.left
  have readStart := u32At?_of_standsAt (directory.right.right.left)
  have readLength := u32At?_of_standsAt (directory.right.right.right.left)
  have startValue : (UInt32.ofNat start).toNat = start := toNat_ofNat_of_lt (by omega)
  have lengthValue : (UInt32.ofNat length).toNat = length := toNat_ofNat_of_lt (by omega)
  have numberValue : (UInt16.ofNat n).toNat = n := UInt16.toNat_ofNat_of_lt' number
  simp only [length_le16, length_le32, List.length_cons, List.length_nil, Nat.add_assoc]
    at readStart readLength
  cases known : SectionId.ofNumber? n with
  | none =>
    refine ⟨places, ?_, fun id => ?_⟩
    · simp only [readSections, readNumber, readStart, readLength, numberValue, known]
      rfl
    · rw [if_neg]
      intro same
      rw [← same, SectionId.ofNumber?_number] at known
      cases known
  | some named =>
    refine ⟨fun id => if id = named then some ⟨start, length⟩ else places id, ?_, fun id => ?_⟩
    · simp only [readSections, readNumber, readStart, readLength, numberValue, startValue,
        lengthValue, known, if_neg (Nat.not_lt.2 inside)]
      rfl
    · have same : id.number = n ↔ id = named := by
        rw [← SectionId.number_of_ofNumber? known]
        exact ⟨SectionId.number_inj, congrArg _⟩
      simp only [same]

/-- Reading a directory finds every section that it lists with its bytes. -/
theorem readSections_directory {data : ByteArray} {contents : List (List UInt8)}
    {entry n start : Nat} (places : SectionId → Option Extent)
    (directory : StandsAt data entry (sectionDirectory n start contents))
    (bodies : StandsAt data start (contents.flatMap padded))
    (numbers : n + contents.length ≤ 2 ^ 16) (fits : data.size < 2 ^ 32) :
    ∃ found, readSections data entry contents.length places = .ok found ∧
      (∀ id, id.number < n → found id = places id) ∧
      ∀ id k content, id.number = n + k → contents[k]? = some content →
        ∃ offset, found id = some ⟨offset, content.length⟩ ∧ StandsAt data offset content := by
  induction contents generalizing entry n start places with
  | nil => exact ⟨places, rfl, fun _ _ => rfl, by simp⟩
  | cons content rest ih =>
    simp only [sectionDirectory, List.append_assoc] at directory
    simp only [List.flatMap_cons] at bodies
    simp only [List.length_cons] at numbers ⊢
    have here : StandsAt data start content := by
      have whole := bodies.left
      rw [padded] at whole
      exact whole.left
    obtain ⟨places', step, changed⟩ :=
      readSections_entry rest.length places directory (by omega) here.end_le fits
    have later : StandsAt data (entry + directoryEntrySize)
        (sectionDirectory (n + 1) (start + align content.length 4) rest) :=
      directory.right.right.right.right.right
    obtain ⟨found, read, kept, places_found⟩ :=
      ih places' later (bodies.right_of_length (length_padded content)) (by omega)
    refine ⟨found, step.trans read, fun id below => ?_, fun id k content' numbered at_k => ?_⟩
    · rw [kept id (by omega), changed, if_neg (by omega)]
    · cases k with
      | zero =>
        cases at_k
        exact ⟨start, by rw [kept id (by omega), changed, if_pos (by omega)], here⟩
      | succ k => exact places_found id k content' (by omega) at_k

theorem checkChecksum_assemble (start rest : List UInt8) (length : start.length = 28)
    (flags : UInt16) :
    checkChecksum (start ++ le32 (Crc.checksum (start ++ rest)) ++ rest).toByteArray flags
      (Crc.checksum (start ++ rest)) = .ok () := by
  have skipped : (start ++ le32 (Crc.checksum (start ++ rest))).length = 32 := by
    rw [List.length_append, length, length_le32]
  have first : (start ++ le32 (Crc.checksum (start ++ rest)) ++ rest).take 28 = start := by
    rw [List.append_assoc, ← length, List.take_left]
  have last : (start ++ le32 (Crc.checksum (start ++ rest)) ++ rest).drop 32 = rest := by
    rw [← skipped, List.drop_left]
  rw [checkChecksum, checksumOf, List.toList_data_toByteArray, first, last, if_pos (Or.inr rfl)]

/-- The fields of a header, the directory and the sections, each in its place. -/
theorem standsAt_assemble (sections : List (List UInt8)) :
    ∃ buildId checksum,
      let data := (assemble sections).toByteArray
      hasMagic data = true ∧
      u16At? data 4 = some Layout.version ∧
      u16At? data 6 = some hasChecksum ∧
      u32At? data 12 = some (UInt32.ofNat sections.length) ∧
      u32At? data 16 = some (UInt32.ofNat headerSize) ∧
      u32At? data 24 = some buildId ∧
      u32At? data 28 = some checksum ∧
      checkChecksum data hasChecksum checksum = .ok () ∧
      StandsAt data headerSize
        (sectionDirectory 1 (headerSize + sections.length * directoryEntrySize) sections) ∧
      StandsAt data (headerSize + sections.length * directoryEntrySize)
        (sections.flatMap padded) := by
  let buildId := hash32 buildSeed (body sections)
  let rest := List.replicate 32 (0 : UInt8) ++ body sections
  let start := headerStart sections.length buildId
  have header := StandsAt.self (assemble sections)
  rw [show assemble sections = start ++ le32 (Crc.checksum (start ++ rest)) ++ rest from rfl]
    at header
  have contents := header.right_of_length (n := 32)
    (by rw [List.length_append, length_headerStart, length_le32])
  have checksum := header.left.right_of_length (length_headerStart _ _)
  have fields := header.left.left
  simp only [start, headerStart, List.append_assoc] at fields
  have directory := contents.right_of_length (n := 32) (by rw [List.length_replicate])
  have begins : hasMagic (assemble sections).toByteArray = true := by
    rw [hasMagic, List.toList_data_toByteArray]
    exact decide_eq_true rfl
  refine ⟨buildId, _, begins, u16At?_of_standsAt (fields.right_of_length (n := 4) rfl).left, ?_, ?_,
    ?_, ?_, u32At?_of_standsAt checksum, checkChecksum_assemble _ _ (length_headerStart _ _) _,
    directory.left, ?_⟩
  · exact u16At?_of_standsAt (fields.right_of_length (n := 4) rfl).right.left
  · exact u32At?_of_standsAt (fields.right_of_length (n := 4) rfl).right.right.right.left
  · exact u32At?_of_standsAt (fields.right_of_length (n := 4) rfl).right.right.right.right.left
  · exact u32At?_of_standsAt
      (fields.right_of_length (n := 4) rfl).right.right.right.right.right.right
  · exact directory.right_of_length (length_sectionDirectory _ _ _)

/-- A buffer that was put together from all sections loads, and holds them. -/
theorem load_assemble (sections : List (List UInt8)) {tables : SubIndex → TableExtent}
    (count : sections.length = SectionId.all.length)
    (fits : (assemble sections).length < 2 ^ 32)
    (read : ∀ content, sections[SectionId.number .tables - 1]? = some content →
      readTableSection content.toByteArray = .ok tables) :
    ∃ s, load (assemble sections).toByteArray = .ok s ∧ s.tables = tables ∧
      ∀ id content, sections[id.number - 1]? = some content →
        s.sectionBytes id = content.toByteArray := by
  obtain ⟨buildId, checksum, magic, version, flags, sectionCount, place, id, stored, checked,
    directory, bodies⟩ := standsAt_assemble sections
  have size : (assemble sections).toByteArray.size < 2 ^ 32 := by rwa [List.size_toByteArray]
  obtain ⟨found, readDirectory, -, held⟩ := readSections_directory (fun _ => none) directory bodies
    (by rw [count]; decide) size
  let loaded (tables : SubIndex → TableExtent) : Snapshot :=
    { data := (assemble sections).toByteArray, version := Layout.version, flags := hasChecksum,
      buildId, sections := found, tables }
  have holds : ∀ tables id content, sections[id.number - 1]? = some content →
      (loaded tables).sectionBytes id = content.toByteArray := by
    intro tables id content at_id
    obtain ⟨offset, extent, stands⟩ := held id _ content (by have := id.number_pos; omega) at_id
    simp only [sectionBytes, loaded, extent, sliceOrEmpty, stands.slice?, Option.getD_some]
  refine ⟨loaded tables, ?_, rfl, holds tables⟩
  have countValue : (UInt32.ofNat sections.length).toNat = sections.length := by
    rw [count]; rfl
  have placeValue : (UInt32.ofNat headerSize).toNat = headerSize := rfl
  have last : SectionId.number .tables - 1 < sections.length := by rw [count]; decide
  have tablesRead : readTableSection ((loaded fun _ => .absent).sectionBytes .tables) =
      .ok tables := by
    rw [holds _ _ _ (List.getElem?_eq_getElem last)]
    exact read _ (List.getElem?_eq_getElem last)
  have long := bodies.end_le
  have headerFits : ¬ (assemble sections).toByteArray.size < headerSize := by omega
  have directoryFits : ¬ (assemble sections).toByteArray.size <
      headerSize + sections.length * directoryEntrySize := by omega
  simp only [load, if_neg headerFits, magic, version, flags, sectionCount, place, id, stored,
    checked, countValue, placeValue, if_neg directoryFits, readDirectory, Bool.not_true,
    Bool.false_eq_true, if_false, ne_eq, not_true_eq_false, bind, Except.bind]
  simp only [loaded] at tablesRead
  rw [tablesRead]
  rfl

end Snapshot

end ContentBlocker
