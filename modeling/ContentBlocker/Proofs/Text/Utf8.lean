import ContentBlocker.Text.Utf8
/-!
# Texts and their bytes

Bytes are the form of at most one text, and it is made up of the forms of its characters. An ASCII
character more at the end of bytes is a character more at the end of their text, and cannot complete
a form that is not valid.
-/

namespace ContentBlocker.Text

theorem decode?_eq_some_iff {b : ByteArray} {t : Text} : decode? b = some t ↔ b = encode t := by
  constructor
  · intro read
    obtain ⟨s, valid, rfl⟩ := Option.map_eq_some_iff.1 read
    unfold String.fromUTF8? at valid
    split at valid
    · cases valid
      rw [encode, String.ofList_toList]
      rfl
    · cases valid
  · rintro rfl
    exact decode?_encode t

/-- The bytes of a text, character by character. -/
theorem encode_eq_flatMap (t : Text) :
    encode t = (t.flatMap String.utf8EncodeChar).toByteArray := rfl

/-- The bytes of a text. -/
def toBytes (t : Text) : List UInt8 := t.encode.data.toList

theorem toBytes_eq_flatMap (t : Text) : t.toBytes = t.flatMap String.utf8EncodeChar := by
  rw [toBytes, encode_eq_flatMap, List.data_toByteArray]

@[simp] theorem toBytes_nil : toBytes [] = [] := toBytes_eq_flatMap []

@[simp] theorem toBytes_cons (c : Char) (t : Text) :
    toBytes (c :: t) = String.utf8EncodeChar c ++ t.toBytes := by
  rw [toBytes_eq_flatMap, toBytes_eq_flatMap, List.flatMap_cons]

/-- A byte that starts a character and ends one is all of it. -/
theorem eq_nil_of_utf8EncodeChar {d : Char} {front : List UInt8} {b : UInt8}
    (split : String.utf8EncodeChar d = front ++ [b]) (starts : b.IsUTF8FirstByte) :
    front = [] := by
  have inside : front.length < (String.utf8EncodeChar d).length := by
    rw [split, List.length_append]
    exact Nat.lt_succ_self _
  have last : (String.utf8EncodeChar d)[front.length] = b := by simp [split]
  rw [← last, UInt8.isUTF8FirstByte_getElem_utf8EncodeChar] at starts
  exact List.eq_nil_of_length_eq_zero starts

/-- Reading bytes with an ASCII character more at their end. -/
theorem decode?_concat (bytes : List UInt8) {c : Char} (ascii : c.utf8Size = 1) :
    decode? (bytes ++ [c.val.toUInt8]).toByteArray =
      (decode? bytes.toByteArray).map (· ++ [c]) := by
  have single := String.utf8EncodeChar_eq_singleton ascii
  cases read : decode? bytes.toByteArray with
  | some t =>
    rw [decode?_eq_some_iff, encode_eq_flatMap, List.toByteArray_inj] at read
    rw [Option.map_some, decode?_eq_some_iff, encode_eq_flatMap, List.toByteArray_inj, read,
      List.flatMap_append, List.flatMap_singleton, single]
  | none =>
    cases longer : decode? (bytes ++ [c.val.toUInt8]).toByteArray with
    | none => rfl
    | some t =>
      rw [decode?_eq_some_iff, encode_eq_flatMap, List.toByteArray_inj] at longer
      rcases List.eq_nil_or_concat t with rfl | ⟨start, d, rfl⟩
      · exact absurd longer (by simp)
      rw [List.concat_eq_append, List.flatMap_append, List.flatMap_singleton] at longer
      obtain ⟨front, last, split⟩ : ∃ front last, String.utf8EncodeChar d = front ++ [last] :=
        ⟨_, _, (List.dropLast_concat_getLast String.utf8EncodeChar_ne_nil).symm⟩
      rw [split, ← List.append_assoc] at longer
      obtain ⟨before, same⟩ := List.append_inj' longer rfl
      cases same
      have starts : c.val.toUInt8.IsUTF8FirstByte := by
        have first := @UInt8.isUTF8FirstByte_getElem_utf8EncodeChar c 0
          (by rw [single]; exact Nat.one_pos)
        simpa only [single, List.getElem_cons_zero, iff_true] using first
      rw [eq_nil_of_utf8EncodeChar split starts, List.append_nil] at before
      rw [before, ← encode_eq_flatMap, decode?_encode] at read
      cases read

end ContentBlocker.Text
