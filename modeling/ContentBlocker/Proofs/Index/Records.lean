import ContentBlocker.Proofs.Index.Pools
/-!
# Records in their sections

A record that stands at a position reads back from there, and a section of records gives for each
number up to its count the place of that record, and none beyond.
-/

namespace ContentBlocker

open Bytes Layout

theorem UrlRecord.length_bytes (r : UrlRecord) : r.bytes.length = urlFilterSize := rfl

theorem UrlRecord.read?_of_standsAt {data : ByteArray} {i : Nat} {r : UrlRecord}
    (h : StandsAt data i r.bytes) : read? data i = some r := by
  simp only [bytes, List.append_assoc] at h
  have pattern := StringRef.read?_of_standsAt h.left
  have contentTypes := u32At?_of_standsAt h.right.left
  have numbers := h.right.right
  have flags := getElem?_of_standsAt numbers
  have party := getElem?_of_standsAt (numbers.right_of_length (a := [_]) rfl)
  have substitute := getElem?_of_standsAt (numbers.right_of_length (a := [_, _]) rfl)
  have payload := StringRef.read?_of_standsAt numbers.right.left
  have lists := u32At?_of_standsAt numbers.right.right.left
  simp only [StringRef.length_bytes, stringRefSize, length_le32, List.length_cons,
    List.length_nil, Nat.add_assoc, Nat.reduceAdd]
    at contentTypes flags party substitute payload lists
  simp only [read?, pattern, contentTypes, flags, party, substitute, payload, lists]
  rfl

theorem ContentRecord.length_bytes (r : ContentRecord) : r.bytes.length = contentFilterSize := rfl

theorem ContentRecord.read?_of_standsAt {data : ByteArray} {i : Nat} {r : ContentRecord}
    (h : StandsAt data i r.bytes) : read? data i = some r := by
  simp only [bytes, List.append_assoc] at h
  have selector := StringRef.read?_of_standsAt h.left
  have lists := u32At?_of_standsAt h.right.left
  have css := StringRef.read?_of_standsAt h.right.right
  simp only [StringRef.length_bytes, stringRefSize, length_le32, Nat.add_assoc, Nat.reduceAdd]
    at lists css
  simp only [read?, selector, lists, css]
  rfl

theorem SnippetRecord.length_bytes (r : SnippetRecord) : r.bytes.length = snippetFilterSize := rfl

theorem SnippetRecord.read?_of_standsAt {data : ByteArray} {i : Nat} {r : SnippetRecord}
    (h : StandsAt data i r.bytes) : read? data i = some r := by
  simp only [bytes, List.append_assoc] at h
  have lists := u32At?_of_standsAt h.left
  have firstCall := u32At?_of_standsAt h.right.left
  have callCount := u32At?_of_standsAt h.right.right
  simp only [length_le32, Nat.add_assoc, Nat.reduceAdd] at firstCall callCount
  simp only [read?, lists, firstCall, callCount]
  rfl

theorem CallRecord.length_bytes (r : CallRecord) : r.bytes.length = snippetCallSize := rfl

theorem CallRecord.read?_of_standsAt {data : ByteArray} {i : Nat} {r : CallRecord}
    (h : StandsAt data i r.bytes) : read? data i = some r := by
  simp only [bytes, List.append_assoc] at h
  have command := StringRef.read?_of_standsAt h.left
  have firstArgument := u32At?_of_standsAt h.right.left
  have argumentCount := u32At?_of_standsAt h.right.right
  simp only [StringRef.length_bytes, stringRefSize, length_le32, Nat.add_assoc, Nat.reduceAdd]
    at firstArgument argumentCount
  simp only [read?, command, firstArgument, argumentCount]
  rfl

section RecordSection

open Builder Snapshot

variable {α : Type} {bytes : α → List UInt8} {width : Nat} {records : Array α}

theorem length_recordSection (widths : ∀ a, (bytes a).length = width) :
    (recordSection bytes records).length = 4 + records.size * width := by
  rw [recordSection, List.length_append, length_le32, length_flatMap_of_width widths,
    Array.length_toList]

theorem recordCount_recordSection (widths : ∀ a, (bytes a).length = width) (positive : 0 < width)
    (fits : (recordSection bytes records).length < 2 ^ 32) :
    recordCount (recordSection bytes records).toByteArray width = records.size := by
  have stands := StandsAt.self (recordSection bytes records)
  rw [recordSection] at stands
  have few : records.size < 2 ^ 32 := by
    rw [length_recordSection widths] at fits
    have := Nat.le_mul_of_pos_right records.size positive
    omega
  rw [recordCount, List.size_toByteArray, length_recordSection widths, Nat.add_sub_cancel_left,
    Nat.mul_div_cancel _ positive, recordSection, natAt_of_standsAt stands.left,
    toNat_ofNat_of_lt few, Nat.min_self]

theorem standsAt_recordSection (widths : ∀ a, (bytes a).length = width) {id : Nat} {record : α}
    (at_id : records.toList[id]? = some record) :
    StandsAt (recordSection bytes records).toByteArray (4 + id * width) (bytes record) := by
  have stands := StandsAt.self (recordSection bytes records)
  rw [recordSection] at stands
  have place := (stands.right_of_length (length_le32 _)).of_flatMap widths at_id
  rwa [Nat.zero_add] at place

end RecordSection

end ContentBlocker
