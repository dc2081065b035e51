import ContentBlocker.Proofs.Index.Bounds
import ContentBlocker.Proofs.Index.Guarded
/-!
# Records are read without faults

In a loaded index every section is shorter than `2 ^ 32`, and so are the numbers that stand in it:
no sum or product of a few of them leaves 64 bits. The accessors for texts, domain lists, filters,
calls and metadata therefore meet no fault, and answer what the accessors over natural numbers do.
-/

namespace ContentBlocker.Guarded

open Access Layout

theorem natAt_lt (data : ByteArray) (i : Nat) : Bytes.natAt data i < 2 ^ 32 := by
  rw [Bytes.natAt]
  cases Bytes.u32At? data i with
  | none => exact Nat.two_pow_pos 32
  | some n => exact n.toNat_lt

section Texts

variable {texts data : ByteArray} {i start stop : Nat}

theorem resolveAt_eq (fits : data.size < limit) (place : i + 4 < limit) :
    resolveAt texts data i = .ok (Snapshot.resolveAt texts data i) := by
  rw [resolveAt, u32At?_eq fits, add_eq place]
  simp only [bind, Except.bind, u32At?_eq fits, Snapshot.resolveAt, StringRef.read?]
  cases Bytes.u32At? data i with
  | none => rfl
  | some first =>
    cases Bytes.u32At? data (i + 4) with
    | none => rfl
    | some length =>
      have first_lt := first.toNat_lt
      have length_lt := length.toNat_lt
      have small : first.toNat + length.toNat < 2 ^ 63 := by omega
      simp only [textAt?, checkedAdd?_eq (lt_limit small), between?_add, Option.bind_eq_bind,
        Option.bind_some]
      rfl

/-- A text that a slice refers to, the array refers to as well. -/
theorem resolveAt_extract (inside : stop ≤ data.size) (before : start + i + stringRefSize ≤ stop) :
    Snapshot.resolveAt texts (data.extract start stop) i =
      Snapshot.resolveAt texts data (start + i) := by
  have : stringRefSize = 8 := rfl
  rw [Snapshot.resolveAt, Snapshot.resolveAt, StringRef.read?, StringRef.read?,
    bytesAt?_extract inside (by omega), bytesAt?_extract inside (by omega), Nat.add_assoc]

theorem resolveList_succ {count : Nat} (inside : start + (count + 1) * stringRefSize ≤ data.size) :
    Snapshot.resolveList texts data start (count + 1) =
      Snapshot.resolveAt texts data start ::
        Snapshot.resolveList texts data (start + stringRefSize) count := by
  have more : (count + 1) * stringRefSize = count * stringRefSize + stringRefSize :=
    Nat.succ_mul _ _
  rw [Snapshot.resolveList, if_neg (by omega), Snapshot.resolveList, if_neg (by omega),
    List.range_succ_eq_map, List.map_cons, List.map_map]
  simp only [Nat.zero_mul, Nat.add_zero, List.cons.injEq, true_and]
  refine List.map_congr_left fun i _ => ?_
  simp only [Function.comp_apply, Nat.succ_mul]
  congr 1
  omega

theorem length_resolveList {count : Nat} (inside : start + count * stringRefSize ≤ data.size) :
    (Snapshot.resolveList texts data start count).length = count := by
  rw [Snapshot.resolveList, if_neg (Nat.not_lt.2 inside), List.length_map, List.length_range]

end Texts

section Lists

variable {texts data : ByteArray}

namespace TextList

/-- Going through references yields texts, and there are as many references. -/
structure Reads (list : TextList) (items : List Text) : Prop where
  all : TextList.items.all list = .ok items
  count : list.count = items.length

theorem reads_short {refs : ByteArray} (few : refs.size < stringRefSize) :
    Reads ⟨texts, refs⟩ [] where
  all := Iterator.all_of_end (if_pos few)
  count := Nat.div_eq_of_lt few

theorem all_extract (fits : data.size < limit) {start count : Nat}
    (inside : start + count * stringRefSize ≤ data.size) :
    TextList.items.all ⟨texts, data.extract start (start + count * stringRefSize)⟩ =
      .ok (Snapshot.resolveList texts data start count) := by
  induction count generalizing start with
  | zero =>
    rw [List.length_eq_zero_iff.1 (length_resolveList inside)]
    refine (reads_short ?_).all
    rw [Nat.zero_mul, Nat.add_zero, ByteArray.size_extract]
    have : stringRefSize = 8 := rfl
    omega
  | succ count ih =>
    have more : (count + 1) * stringRefSize = count * stringRefSize + stringRefSize :=
      Nat.succ_mul _ _
    have size : (data.extract start (start + (count + 1) * stringRefSize)).size =
        (count + 1) * stringRefSize := by
      rw [ByteArray.size_extract]
      omega
    have enough :
        stringRefSize ≤ (data.extract start (start + (count + 1) * stringRefSize)).size := by
      omega
    have first : Snapshot.resolveAt texts
        (data.extract start (start + (count + 1) * stringRefSize)) 0 =
          Snapshot.resolveAt texts data start := resolveAt_extract inside (by omega)
    have behind : (data.extract start (start + (count + 1) * stringRefSize)).extract stringRefSize
        ((count + 1) * stringRefSize) =
          data.extract (start + stringRefSize) (start + stringRefSize + count * stringRefSize) := by
      rw [ByteArray.extract_extract]
      congr 1
      omega
    rw [resolveList_succ inside]
    refine Iterator.all_of_item ?_ (ih (by omega))
    change next _ = _
    rw [next]
    dsimp only
    rw [if_neg (Nat.not_lt.2 enough), resolveAt_eq (by omega) (by decide), first,
      dropFrom_eq enough, size, behind]
    rfl

theorem reads_between (fits : data.size < limit) (start count : Nat) :
    Reads ⟨texts, (between? data start (start + count * stringRefSize)).getD ByteArray.empty⟩
      (Snapshot.resolveList texts data start count) := by
  by_cases inside : start + count * stringRefSize ≤ data.size
  · rw [between?_eq (Nat.le_add_right _ _) inside, Option.getD_some]
    refine ⟨all_extract fits inside, ?_⟩
    have size : (data.extract start (start + count * stringRefSize)).size =
        count * stringRefSize := by
      rw [ByteArray.size_extract]
      omega
    rw [length_resolveList inside, TextList.count, size]
    exact Nat.mul_div_cancel _ (by decide)
  · rw [between?_eq_none (Nat.not_le.1 inside), Snapshot.resolveList, if_pos (Nat.not_le.1 inside)]
    exact reads_short (by decide)

theorem contains_eq {list : TextList} {items : List Text} (h : list.Reads items) (text : Text) :
    list.contains text = .ok (items.contains text) := by
  rw [contains, Iterator.every_of_all _ h.all]
  refine congrArg Except.ok ?_
  rw [Bool.eq_iff_iff, List.contains_iff_mem, Bool.not_eq_true', ← Bool.not_eq_true,
    List.all_eq_true]
  simp

end TextList

namespace Lists

/-- Going through domain lists yields their names. -/
structure Reads (lists : Lists) (names : DomainLists) : Prop where
  included : lists.included.Reads names.included
  excluded : lists.excluded.Reads names.excluded
  sitekeys : lists.sitekeys.Reads names.sitekeys

theorem Reads.names_eq {lists : Lists} {names : DomainLists} (h : lists.Reads names) :
    lists.names = .ok names := by
  rw [Lists.names, h.included.all, h.excluded.all, h.sitekeys.all]
  rfl

theorem Reads.isGeneric_eq {lists : Lists} {names : DomainLists} (h : lists.Reads names) :
    lists.isGeneric = .ok names.isGeneric := by
  rw [Lists.isGeneric, DomainLists.isGeneric, h.sitekeys.count]
  cases names.sitekeys with
  | nil =>
    rw [Iterator.every_of_all _ h.included.all, Iterator.every_of_all _ h.excluded.all]
    cases names.included.all List.isEmpty <;> rfl
  | cons key rest => rfl

end Lists

theorem readAt_eq (fits : data.size < limit) {start : Nat} (place : start < 2 ^ 32) :
    ∃ lists, Lists.readAt texts data start = .ok lists ∧ lists.Reads
      { included := Snapshot.resolveList texts data (start + 12) (Bytes.natAt data start)
        excluded := Snapshot.resolveList texts data
          (start + 12 + Bytes.natAt data start * stringRefSize) (Bytes.natAt data (start + 4))
        sitekeys := Snapshot.resolveList texts data
          (start + 12 + Bytes.natAt data start * stringRefSize +
            Bytes.natAt data (start + 4) * stringRefSize) (Bytes.natAt data (start + 8)) } := by
  have width (i : Nat) : Bytes.natAt data i * stringRefSize < 2 ^ 35 :=
    Nat.mul_lt_mul_of_pos_right (natAt_lt data i) (by decide)
  have included := width start
  have excluded := width (start + 4)
  have sitekeys := width (start + 8)
  have field {k : Nat} (near : k ≤ 12) : add start k = .ok (start + k) :=
    add_eq (lt_limit (by omega))
  simp only [Lists.readAt, field (Nat.zero_le _), field (by decide : 4 ≤ 12),
    field (by decide : 8 ≤ 12), field (Nat.le_refl 12), natAt_eq fits, bind, Except.bind,
    Nat.add_zero]
  rw [saturatingMul_eq (lt_limit (by omega)), saturatingMul_eq (lt_limit (by omega)),
    saturatingMul_eq (lt_limit (by omega))]
  rw [saturatingAdd_eq (lt_limit (by omega)), saturatingAdd_eq (lt_limit (by omega)),
    saturatingAdd_eq (lt_limit (by omega))]
  exact ⟨_, rfl, TextList.reads_between fits _ _, TextList.reads_between fits _ _,
    TextList.reads_between fits _ _⟩

end Lists

section Sections

variable {s : Snapshot} (h : s.Validated)

include h

theorem sectionBytes_eq (id : SectionId) : sectionBytes s id = .ok (s.sectionBytes id) := by
  rw [sectionBytes, Snapshot.sectionBytes]
  cases present : s.sections id with
  | none => rfl
  | some extent =>
    have lies := h.section_liesIn present
    have := lies.offset
    have := lies.length
    simp only [add_eq (lt_limit (by omega : extent.offset + extent.length < 2 ^ 63)), bind,
      Except.bind, between?_add]
    rfl

theorem size_lt_limit (id : SectionId) : (s.sectionBytes id).size < limit :=
  lt_limit (Nat.lt_trans (h.size_sectionBytes_lt id) (by decide))

theorem textBytes_eq : textBytes s = .ok s.textBytes := by
  have count := natAt_lt (s.sectionBytes .strings) 0
  rw [textBytes, sectionBytes_eq h]
  simp only [bind, Except.bind, natAt_eq (size_lt_limit h .strings),
    add_eq (lt_limit (by omega : 4 + Bytes.natAt (s.sectionBytes .strings) 0 < 2 ^ 63)),
    between?_add]
  rfl

theorem listsAt_eq (place : UInt32) :
    ∃ lists, listsAt s place = .ok lists ∧ lists.Reads (s.listsAt place) := by
  rw [listsAt, Snapshot.listsAt]
  by_cases none : place = noLists
  · rw [if_pos none, if_pos none]
    have nothing : TextList.Reads ⟨ByteArray.empty, ByteArray.empty⟩ [] :=
      TextList.reads_short (by decide)
    exact ⟨_, rfl, nothing, nothing, nothing⟩
  · rw [if_neg none, if_neg none, textBytes_eq h, sectionBytes_eq h]
    exact readAt_eq (size_lt_limit h _) place.toNat_lt

end Sections

section Records

theorem recordTable_eq {s : Snapshot} (h : s.Validated) (id : SectionId) (size : Nat) :
    recordTable s id size = .ok
      { data := (between? (s.sectionBytes id) 4 (s.sectionBytes id).size).getD ByteArray.empty
        count := Snapshot.recordCount (s.sectionBytes id) size
        size } := by
  rw [recordTable, sectionBytes_eq h]
  simp only [bind, Except.bind, natAt_eq (size_lt_limit h id)]
  rfl

/-- A record that is there lies inside its section. -/
theorem recordStart_le {data : ByteArray} {size id start : Nat} (positive : 0 < size)
    (there : Snapshot.recordStart? data size id = some start) : start + size ≤ data.size := by
  rw [Snapshot.recordStart?] at there
  split at there
  case isFalse => cases there
  rename_i inside
  cases there
  have room := Nat.lt_of_lt_of_le inside (Nat.min_le_right _ _)
  have := Nat.mul_le_of_le_div _ _ _ (Nat.succ_le_of_lt room)
  rw [Nat.succ_mul] at this
  omega

theorem get_eq {data : ByteArray} (fits : data.size < limit) {size : Nat} (positive : 0 < size)
    (id : Nat) :
    RecordTable.get ⟨(between? data 4 data.size).getD ByteArray.empty,
        Snapshot.recordCount data size, size⟩ id =
      .ok ((Snapshot.recordStart? data size id).map fun start =>
        data.extract start (start + size)) := by
  rw [RecordTable.get]
  dsimp only
  by_cases there : id < Snapshot.recordCount data size
  · have place : Snapshot.recordStart? data size id = some (4 + id * size) := if_pos there
    have inside := recordStart_le positive place
    have room : id * size + size ≤ (data.extract 4 data.size).size := by
      rw [ByteArray.size_extract]
      omega
    rw [if_neg (Nat.not_le.2 there), place, mul_eq (by omega),
      between?_eq (by omega) (Nat.le_refl _)]
    simp only [bind, Except.bind, add_eq (by omega : id * size + size < limit), Option.getD_some]
    have ends : min (4 + (id * size + size)) data.size = 4 + id * size + size := by omega
    rw [between?_eq (Nat.le_add_right _ _) room, ByteArray.extract_extract, ends]
    rfl
  · rw [if_pos (Nat.not_lt.1 there), Snapshot.recordStart?, if_neg there]
    rfl

section Fields

variable {data : ByteArray} {start size k : Nat} (fits : data.size < limit)
  (inside : start + size ≤ data.size)

include inside

theorem byte_of_record (within : k < size) :
    ∃ b, data[start + k]? = some b ∧ byte (data.extract start (start + size)) k = .ok b := by
  have there := getElem?_pos data (start + k) (by omega)
  refine ⟨_, there, byte_eq ?_⟩
  rw [getElem?_extract inside (by omega), there]

include fits

theorem size_record_lt : (data.extract start (start + size)).size < limit := by
  rw [ByteArray.size_extract]
  omega

theorem word_of_record (within : k + 4 ≤ size) :
    ∃ n, Bytes.u32At? data (start + k) = some n ∧
      u32At? (data.extract start (start + size)) k = .ok (some n) := by
  have there : start + k + 4 ≤ data.size := by omega
  refine ⟨_, dif_pos there, ?_⟩
  rw [u32At?_eq (size_record_lt fits inside), bytesAt?_extract inside (by omega)]
  exact congrArg Except.ok (dif_pos there)

theorem text_of_record (within : k + stringRefSize ≤ size) :
    ∃ r, StringRef.read? data (start + k) = some r ∧ ∀ texts,
      resolveAt texts (data.extract start (start + size)) k = .ok (Snapshot.resolve texts r) := by
  have width : stringRefSize = 8 := rfl
  obtain ⟨first, firstAt, -⟩ := word_of_record fits inside (by omega : k + 4 ≤ size)
  obtain ⟨length, lengthAt, -⟩ := word_of_record fits inside (by omega : k + 4 + 4 ≤ size)
  have ref : StringRef.read? data (start + k) = some ⟨first, length⟩ := by
    rw [StringRef.read?, firstAt, Nat.add_assoc, lengthAt]
    rfl
  refine ⟨_, ref, fun texts => ?_⟩
  rw [resolveAt_eq (size_record_lt fits inside) (by omega), resolveAt_extract inside (by omega),
    Snapshot.resolveAt, ref]
  rfl

end Fields

/-- Positions at which nothing is found can be left out at the end. -/
theorem filterMap_range_of_none {α : Type} {find : Nat → Option α} {few more : Nat}
    (fewer : few ≤ more) (nothing : ∀ i, few ≤ i → i < more → find i = none) :
    (List.range more).filterMap find = (List.range few).filterMap find := by
  obtain ⟨rest, rfl⟩ := Nat.exists_eq_add_of_le fewer
  have behind : (List.range rest).filterMap (find ∘ (few + ·)) = [] := by
    refine List.filterMap_eq_nil_iff.2 fun i member => nothing _ (Nat.le_add_right _ _) ?_
    exact Nat.add_lt_add_left (List.mem_range.1 member) few
  rw [List.range_add, List.filterMap_append, List.filterMap_map, behind, List.append_nil]

theorem call?_of_recordCount_le {s : Snapshot} {id : Nat}
    (behind : Snapshot.recordCount (s.sectionBytes .snippetCalls) snippetCallSize ≤ id) :
    s.call? id = none := by
  rw [Snapshot.call?, Snapshot.recordStart?, if_neg (Nat.not_lt.2 behind)]
  rfl

/-- Calls whose numbers are words: those that are not there make no difference. -/
theorem filterMap_call? (s : Snapshot) (first count : UInt32) :
    (List.range' first.toNat (min (first.toNat + count.toNat) (2 ^ 32 - 1) - first.toNat)).filterMap
        s.call? =
      (List.range (min count.toNat (Snapshot.recordCount (s.sectionBytes .snippetCalls)
        snippetCallSize - first.toNat))).filterMap fun i => s.call? (first.toNat + i) := by
  have few : Snapshot.recordCount (s.sectionBytes .snippetCalls) snippetCallSize < 2 ^ 32 :=
    Nat.lt_of_le_of_lt (Nat.min_le_left _ _) (natAt_lt _ 0)
  rw [List.range'_eq_map_range, List.filterMap_map]
  refine filterMap_range_of_none (by omega) fun i low high => ?_
  have behind : Snapshot.recordCount (s.sectionBytes .snippetCalls) snippetCallSize ≤
      first.toNat + i := by omega
  exact call?_of_recordCount_le behind

section Accessors

variable {s : Snapshot} (h : s.Validated)

include h

/-- Every filter on addresses can be asked for, and for all that it says. -/
theorem url?_eq (id : UInt32) : url? s id = .ok (s.url? id.toNat) := by
  have fits := size_lt_limit h .urlFilters
  rw [url?, urlView, recordTable_eq h, Snapshot.url?]
  simp only [bind, Except.bind, get_eq fits (by decide : 0 < urlFilterSize)]
  cases there : Snapshot.recordStart? (s.sectionBytes .urlFilters) urlFilterSize id.toNat with
  | none => rfl
  | some start =>
    have inside := recordStart_le (by decide) there
    obtain ⟨pattern, patternAt, patternRead⟩ :=
      text_of_record fits inside (by decide : 0 + stringRefSize ≤ urlFilterSize)
    obtain ⟨types, typesAt, typesRead⟩ :=
      word_of_record fits inside (by decide : 8 + 4 ≤ urlFilterSize)
    obtain ⟨flags, flagsAt, flagsRead⟩ := byte_of_record inside (by decide : 12 < urlFilterSize)
    obtain ⟨party, partyAt, partyRead⟩ := byte_of_record inside (by decide : 13 < urlFilterSize)
    obtain ⟨substitute, substituteAt, substituteRead⟩ :=
      byte_of_record inside (by decide : 14 < urlFilterSize)
    obtain ⟨payload, payloadAt, payloadRead⟩ :=
      text_of_record fits inside (by decide : 16 + stringRefSize ≤ urlFilterSize)
    obtain ⟨place, placeAt, placeRead⟩ :=
      word_of_record fits inside (by decide : 24 + 4 ≤ urlFilterSize)
    obtain ⟨lists, listsRead, reads⟩ := listsAt_eq h place
    rw [Nat.add_zero] at patternAt
    simp only [Option.map_some, placeRead, textBytes_eq h, listsRead, UrlView.fields, patternRead,
      typesRead, flagsRead, partyRead, substituteRead, payloadRead, reads.names_eq, bind, pure,
      Except.bind, Except.pure, Option.bind, UrlRecord.read?, patternAt, typesAt, flagsAt, partyAt,
      substituteAt, payloadAt, placeAt]
    rfl

@[inherit_doc url?_eq]
theorem content?_eq (id : UInt32) : content? s id = .ok (s.content? id.toNat) := by
  have fits := size_lt_limit h .contentFilters
  rw [content?, contentView, recordTable_eq h, Snapshot.content?]
  simp only [bind, Except.bind, get_eq fits (by decide : 0 < contentFilterSize)]
  cases there : Snapshot.recordStart? (s.sectionBytes .contentFilters) contentFilterSize
    id.toNat with
  | none => rfl
  | some start =>
    have inside := recordStart_le (by decide) there
    obtain ⟨selector, selectorAt, selectorRead⟩ :=
      text_of_record fits inside (by decide : 0 + stringRefSize ≤ contentFilterSize)
    obtain ⟨place, placeAt, placeRead⟩ :=
      word_of_record fits inside (by decide : 8 + 4 ≤ contentFilterSize)
    obtain ⟨css, cssAt, cssRead⟩ :=
      text_of_record fits inside (by decide : 12 + stringRefSize ≤ contentFilterSize)
    obtain ⟨lists, listsRead, reads⟩ := listsAt_eq h place
    rw [Nat.add_zero] at selectorAt
    simp only [Option.map_some, placeRead, textBytes_eq h, listsRead, ContentView.fields,
      selectorRead, cssRead, reads.names_eq, bind, pure, Except.bind, Except.pure, Option.bind,
      ContentRecord.read?, selectorAt, placeAt, cssAt]

/-- A call with its arguments. -/
theorem call?_eq (lists : Lists) (first count : UInt32) (id : Nat) :
    SnippetView.call?
        { lists
          calls :=
            { data := (between? (s.sectionBytes .snippetCalls) 4
                (s.sectionBytes .snippetCalls).size).getD ByteArray.empty
              count := Snapshot.recordCount (s.sectionBytes .snippetCalls) snippetCallSize
              size := snippetCallSize }
          arguments := s.sectionBytes .snippetArguments
          texts := s.textBytes
          first, count } id = .ok (s.call? id) := by
  have fits := size_lt_limit h .snippetCalls
  rw [SnippetView.call?, Snapshot.call?]
  simp only [bind, Except.bind, get_eq fits (by decide : 0 < snippetCallSize)]
  cases there : Snapshot.recordStart? (s.sectionBytes .snippetCalls) snippetCallSize id with
  | none => rfl
  | some start =>
    have inside := recordStart_le (by decide) there
    obtain ⟨command, commandAt, commandRead⟩ :=
      text_of_record fits inside (by decide : 0 + stringRefSize ≤ snippetCallSize)
    obtain ⟨argument, argumentAt, argumentRead⟩ :=
      word_of_record fits inside (by decide : 8 + 4 ≤ snippetCallSize)
    obtain ⟨arguments, argumentsAt, argumentsRead⟩ :=
      word_of_record fits inside (by decide : 12 + 4 ≤ snippetCallSize)
    have record : CallRecord.read? (s.sectionBytes .snippetCalls) start =
        some ⟨command, argument, arguments⟩ := by
      rw [Nat.add_zero] at commandAt
      rw [CallRecord.read?, commandAt, argumentAt, argumentsAt]
      rfl
    have width (n : UInt32) : n.toNat * stringRefSize < 2 ^ 35 :=
      Nat.mul_lt_mul_of_pos_right n.toNat_lt (by decide)
    have argument_lt := width argument
    have arguments_lt := width arguments
    simp only [Option.map_some, Option.bind, record, argumentRead, argumentsRead,
      checkedMul?_eq (lt_limit (by omega : argument.toNat * stringRefSize < 2 ^ 63)),
      checkedMul?_eq (lt_limit (by omega : arguments.toNat * stringRefSize < 2 ^ 63)),
      checkedAdd?_eq (lt_limit (by omega : argument.toNat * stringRefSize +
        arguments.toNat * stringRefSize < 2 ^ 63))]
    by_cases present : argument.toNat * stringRefSize + arguments.toNat * stringRefSize ≤
        (s.sectionBytes .snippetArguments).size
    · rw [between?_eq (Nat.le_add_right _ _) present, if_neg (Nat.not_lt.2 present)]
      simp only [commandRead, TextList.all_extract (size_lt_limit h _) present]
      rfl
    · rw [between?_eq_none (Nat.not_le.1 present), if_pos (Nat.not_le.1 present)]
      rfl

@[inherit_doc url?_eq]
theorem snippet?_eq (id : UInt32) : snippet? s id = .ok (s.snippet? id.toNat) := by
  have fits := size_lt_limit h .snippetFilters
  rw [snippet?, snippetView, recordTable_eq h, Snapshot.snippet?]
  simp only [bind, Except.bind, get_eq fits (by decide : 0 < snippetFilterSize)]
  cases there : Snapshot.recordStart? (s.sectionBytes .snippetFilters) snippetFilterSize
    id.toNat with
  | none => rfl
  | some start =>
    have inside := recordStart_le (by decide) there
    obtain ⟨place, placeAt, placeRead⟩ :=
      word_of_record fits inside (by decide : 0 + 4 ≤ snippetFilterSize)
    obtain ⟨first, firstAt, firstRead⟩ :=
      word_of_record fits inside (by decide : 4 + 4 ≤ snippetFilterSize)
    obtain ⟨count, countAt, countRead⟩ :=
      word_of_record fits inside (by decide : 8 + 4 ≤ snippetFilterSize)
    obtain ⟨lists, listsRead, reads⟩ := listsAt_eq h place
    have record : SnippetRecord.read? (s.sectionBytes .snippetFilters) start =
        some ⟨place, first, count⟩ := by
      rw [Nat.add_zero] at placeAt
      rw [SnippetRecord.read?, placeAt, firstAt, countAt]
      rfl
    simp only [Option.map_some, Option.bind, record, placeRead, firstRead, countRead,
      textBytes_eq h, listsRead, recordTable_eq h, sectionBytes_eq h, pure, Except.pure,
      SnippetView.allCalls, Iterator.all_ofRange fun i _ _ => call?_eq h lists first count i,
      reads.names_eq, filterMap_call?]

theorem info_eq : info s = .ok s.info := by
  have fits := size_lt_limit h .metadata
  have text {k : Nat} (low : k < 2 ^ 32) : resolveAt s.textBytes (s.sectionBytes .metadata) k =
      .ok (Snapshot.resolveAt s.textBytes (s.sectionBytes .metadata) k) :=
    resolveAt_eq fits (lt_limit (by omega))
  rw [info, sectionBytes_eq h, textBytes_eq h]
  simp only [bind, Except.bind, text (by decide : 0 < 2 ^ 32), text (by decide : 8 < 2 ^ 32),
    text (by decide : 16 < 2 ^ 32), text (by decide : 24 < 2 ^ 32), natAt_eq fits]
  rfl

end Accessors

end Records

end ContentBlocker.Guarded
