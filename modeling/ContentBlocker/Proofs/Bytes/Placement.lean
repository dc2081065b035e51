import ContentBlocker.Bytes
import Mathlib.Algebra.Group.Nat.Defs
/-!
# Bytes in their place

`StandsAt data i part` says that the bytes `part` stand in `data` from position `i` on. Whatever is
written as a concatenation stands piece by piece in the result, and every reading function gives
back what stands where it reads. The other proofs about buffers use nothing else about positions.
-/

namespace ContentBlocker.Bytes

/-- The members of `part` stand side by side in `whole` from position `i` on. -/
def InPlace {α : Type} (whole : List α) (i : Nat) (part : List α) : Prop :=
  ∃ before after, whole = before ++ (part ++ after) ∧ before.length = i

/-- The bytes `part` stand in `data` from position `i` on. -/
def StandsAt (data : ByteArray) (i : Nat) (part : List UInt8) : Prop :=
  InPlace data.data.toList i part

/-- `whole` begins with the bytes of `start`. -/
def Extends (whole start : ByteArray) : Prop := ∃ more, whole = start ++ more

namespace InPlace

variable {α : Type} {whole part : List α} {i : Nat}

theorem mono (h : InPlace whole i part) (more : List α) : InPlace (whole ++ more) i part := by
  obtain ⟨before, after, rfl, place⟩ := h
  exact ⟨before, after ++ more, by rw [List.append_assoc, List.append_assoc], place⟩

/-- What is appended stands behind what was there. -/
theorem append (whole part : List α) : InPlace (whole ++ part) whole.length part :=
  ⟨whole, [], by rw [List.append_nil], rfl⟩

theorem end_le (h : InPlace whole i part) : i + part.length ≤ whole.length := by
  obtain ⟨before, after, rfl, rfl⟩ := h
  simp only [List.length_append]
  omega

theorem getElem? (h : InPlace whole i part) {k : Nat} (hk : k < part.length) :
    whole[i + k]? = part[k]? := by
  obtain ⟨before, after, rfl, rfl⟩ := h
  rw [List.getElem?_append_right (by omega), Nat.add_sub_cancel_left,
    List.getElem?_append_left hk]

end InPlace

namespace Extends

theorem refl (data : ByteArray) : Extends data data := ⟨ByteArray.empty, by simp⟩

theorem append (data more : ByteArray) : Extends (data ++ more) data := ⟨more, rfl⟩

theorem trans {a b c : ByteArray} (hab : Extends a b) (hbc : Extends b c) : Extends a c := by
  obtain ⟨x, rfl⟩ := hab
  obtain ⟨y, rfl⟩ := hbc
  exact ⟨y ++ x, ByteArray.append_assoc⟩

end Extends

theorem length_toList (data : ByteArray) : data.data.toList.length = data.size := by
  rw [Array.length_toList, ByteArray.size_data]

theorem toByteArray_toList (data : ByteArray) : data.data.toList.toByteArray = data := by
  apply ByteArray.ext
  simp

namespace StandsAt

variable {data : ByteArray} {i : Nat} {a b part : List UInt8}

theorem self (bytes : List UInt8) : StandsAt bytes.toByteArray 0 bytes :=
  ⟨[], [], by simp, rfl⟩

theorem left (h : StandsAt data i (a ++ b)) : StandsAt data i a := by
  obtain ⟨before, after, whole, place⟩ := h
  exact ⟨before, b ++ after, by rw [whole, List.append_assoc], place⟩

theorem right (h : StandsAt data i (a ++ b)) : StandsAt data (i + a.length) b := by
  obtain ⟨before, after, whole, place⟩ := h
  refine ⟨before ++ a, after, ?_, by rw [List.length_append, place]⟩
  rw [whole, List.append_assoc, List.append_assoc]

theorem right_of_length {n : Nat} (h : StandsAt data i (a ++ b)) (hn : a.length = n) :
    StandsAt data (i + n) b := hn ▸ h.right

theorem end_le (h : StandsAt data i part) : i + part.length ≤ data.size := by
  rw [← length_toList]
  exact InPlace.end_le h

theorem mono {whole : ByteArray} (h : StandsAt data i part) (more : Extends whole data) :
    StandsAt whole i part := by
  obtain ⟨rest, rfl⟩ := more
  rw [StandsAt, ByteArray.toList_data_append]
  exact InPlace.mono h _

/-- Bytes that are appended stand behind those that were there. -/
theorem append (data : ByteArray) (part : List UInt8) :
    StandsAt (data ++ part.toByteArray) data.size part := by
  rw [StandsAt, ByteArray.toList_data_append, List.toList_data_toByteArray, ← length_toList]
  exact InPlace.append _ _

theorem drop_eq (h : StandsAt data i part) : ∃ after, data.data.toList.drop i = part ++ after := by
  obtain ⟨before, after, whole, rfl⟩ := h
  exact ⟨after, by rw [whole, List.drop_left]⟩

theorem getElem? (h : StandsAt data i part) {k : Nat} (hk : k < part.length) :
    data.data[i + k]? = part[k]? := by
  rw [← Array.getElem?_toList]
  exact InPlace.getElem? h hk

theorem getElem (h : StandsAt data i part) {k : Nat} (hk : k < part.length)
    (bound : i + k < data.size) : data[i + k] = part[k] := by
  have same := h.getElem? hk
  rw [Array.getElem?_eq_getElem bound, List.getElem?_eq_getElem hk] at same
  exact Option.some.inj same

theorem slice? (h : StandsAt data i part) :
    slice? data i part.length = some part.toByteArray := by
  rw [Bytes.slice?, if_pos h.end_le]
  congr 1
  apply ByteArray.ext
  apply Array.toList_inj.1
  obtain ⟨after, rest⟩ := h.drop_eq
  rw [ByteArray.data_extract, Array.toList_extract, List.toList_data_toByteArray]
  simp [List.extract_eq_take_drop, rest]

/-- Of records of one width that stand side by side each stands in its place. -/
theorem of_flatMap {α : Type} {bytes : α → List UInt8} {width : Nat}
    (widths : ∀ a, (bytes a).length = width) {as : List α} (h : StandsAt data i (as.flatMap bytes))
    {k : Nat} {a : α} (at_k : as[k]? = some a) : StandsAt data (i + k * width) (bytes a) := by
  induction as generalizing i k with
  | nil => cases at_k
  | cons first rest ih =>
    rw [List.flatMap_cons] at h
    cases k with
    | zero =>
      cases at_k
      rw [Nat.zero_mul, Nat.add_zero]
      exact h.left
    | succ k =>
      have later := ih (h.right_of_length (widths first)) at_k
      rwa [show i + width + k * width = i + (k + 1) * width by rw [Nat.succ_mul]; omega] at later

end StandsAt

theorem length_flatMap_of_width {α : Type} {bytes : α → List UInt8} {width : Nat}
    (widths : ∀ a, (bytes a).length = width) (as : List α) :
    (as.flatMap bytes).length = as.length * width := by
  induction as with
  | nil => simp
  | cons first rest ih =>
    rw [List.flatMap_cons, List.length_append, widths, ih, List.length_cons, Nat.succ_mul,
      Nat.add_comm]

/-- Records of one width stand at the multiple of the width. -/
theorem InPlace.standsAt_flatMap {α : Type} {bytes : α → List UInt8} {width : Nat}
    (widths : ∀ a, (bytes a).length = width) {whole part : List α} {i : Nat}
    (h : InPlace whole i part) :
    StandsAt (whole.flatMap bytes).toByteArray (i * width) (part.flatMap bytes) := by
  obtain ⟨before, after, rfl, rfl⟩ := h
  have stands := StandsAt.self ((before ++ (part ++ after)).flatMap bytes)
  simp only [List.flatMap_append] at stands
  have place := stands.right.left
  rw [length_flatMap_of_width widths, Nat.zero_add] at place
  simpa only [List.flatMap_append] using place

/-- Looking up all positions of a list gives the list. -/
theorem filterMap_getElem?_range {α : Type} (as : List α) :
    (List.range as.length).filterMap (fun i => as[i]?) = as := by
  have positions : (List.range as.length).map (fun i => as[i]?) = as.map some := by
    apply List.ext_getElem (by simp)
    intro i h₁ h₂
    rw [List.length_map] at h₂
    rw [List.getElem_map, List.getElem_map, List.getElem_range, List.getElem?_eq_getElem h₂]
  have evaluated := congrArg (List.filterMap id) positions
  rwa [List.filterMap_map, List.filterMap_map, Function.id_comp, Function.id_comp,
    List.filterMap_some] at evaluated

/-- The one byte that stands at a position. -/
theorem getElem?_of_standsAt {data : ByteArray} {i : Nat} {byte : UInt8} {more : List UInt8}
    (h : StandsAt data i (byte :: more)) : data[i]? = some byte := by
  have bound := h.end_le
  rw [List.length_cons] at bound
  rw [getElem?_pos data i (by omega)]
  exact congrArg some (h.getElem (Nat.succ_pos _) (by omega))

theorem u16At?_of_standsAt {data : ByteArray} {i : Nat} {n : UInt16}
    (h : StandsAt data i (le16 n)) : u16At? data i = some n := by
  have bound : i + 2 ≤ data.size := h.end_le
  rw [u16At?, dif_pos bound]
  have first : data[i] = UInt8.ofNat n.toNat := h.getElem (k := 0) (by simp [le16]) (by omega)
  have second : data[i + 1] = UInt8.ofNat (n.toNat / 0x100) :=
    h.getElem (k := 1) (by simp [le16]) (by omega)
  rw [first, second, ofBytes16_le16]

theorem u32At?_of_standsAt {data : ByteArray} {i : Nat} {n : UInt32}
    (h : StandsAt data i (le32 n)) : u32At? data i = some n := by
  have bound : i + 4 ≤ data.size := h.end_le
  rw [u32At?, dif_pos bound]
  have first : data[i] = UInt8.ofNat n.toNat := h.getElem (k := 0) (by simp [le32]) (by omega)
  have second : data[i + 1] = UInt8.ofNat (n.toNat / 0x100) :=
    h.getElem (k := 1) (by simp [le32]) (by omega)
  have third : data[i + 2] = UInt8.ofNat (n.toNat / 0x10000) :=
    h.getElem (k := 2) (by simp [le32]) (by omega)
  have fourth : data[i + 3] = UInt8.ofNat (n.toNat / 0x1000000) :=
    h.getElem (k := 3) (by simp [le32]) (by omega)
  rw [first, second, third, fourth, ofBytes32_le32]

theorem end_le_of_u32At? {data : ByteArray} {i : Nat} {n : UInt32} (there : u32At? data i = some n) :
    i + 4 ≤ data.size := by
  by_cases inside : i + 4 ≤ data.size
  · exact inside
  · rw [u32At?, dif_neg inside] at there
    cases there

theorem natAt_of_standsAt {data : ByteArray} {i : Nat} {n : UInt32}
    (h : StandsAt data i (le32 n)) : natAt data i = n.toNat := by
  rw [natAt, u32At?_of_standsAt h]
  rfl

/-- The bytes from a position to the end. -/
theorem toList_extract_size (data : ByteArray) (i : Nat) :
    (data.extract i data.size).data.toList = data.data.toList.drop i := by
  have whole : (data.data.toList.drop i).length = data.size - i := by
    rw [List.length_drop, length_toList]
  rw [ByteArray.data_extract, Array.toList_extract, List.extract_eq_take_drop,
    List.take_of_length_le (Nat.le_of_eq whole)]

theorem getElem?_toList (data : ByteArray) (i : Nat) : data.data.toList[i]? = data[i]? := by
  rw [Array.getElem?_toList]
  rfl

/-- A number is read byte by byte. -/
theorem u16At?_eq (data : ByteArray) (i : Nat) :
    u16At? data i = (do return ofBytes16 (← data[i]?) (← data[i + 1]?)) := by
  unfold u16At?
  by_cases inside : i + 2 ≤ data.size
  · rw [dif_pos inside, getElem?_pos data i (by omega), getElem?_pos data (i + 1) (by omega)]
    rfl
  · rw [dif_neg inside, getElem?_neg data (i + 1) (by omega)]
    cases data[i]? <;> rfl

@[inherit_doc u16At?_eq]
theorem u32At?_eq (data : ByteArray) (i : Nat) :
    u32At? data i = (do
      return ofBytes32 (← data[i]?) (← data[i + 1]?) (← data[i + 2]?) (← data[i + 3]?)) := by
  unfold u32At?
  by_cases inside : i + 4 ≤ data.size
  · rw [dif_pos inside, getElem?_pos data i (by omega), getElem?_pos data (i + 1) (by omega),
      getElem?_pos data (i + 2) (by omega), getElem?_pos data (i + 3) (by omega)]
    rfl
  · rw [dif_neg inside, getElem?_neg data (i + 3) (by omega)]
    cases data[i]? <;> cases data[i + 1]? <;> cases data[i + 2]? <;> rfl

theorem length_le16 (n : UInt16) : (le16 n).length = 2 := rfl

theorem length_le32 (n : UInt32) : (le32 n).length = 4 := rfl

theorem toNat_ofNat_of_lt {n : Nat} (h : n < 2 ^ 32) : (UInt32.ofNat n).toNat = n :=
  UInt32.toNat_ofNat_of_lt' h

end ContentBlocker.Bytes
