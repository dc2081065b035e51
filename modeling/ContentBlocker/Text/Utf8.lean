import ContentBlocker.Text.Basic
/-!
# Text as bytes

The UTF-8 form of a text and its reading. Main statement: reading what was written gives the text
back.
-/

namespace ContentBlocker.Text

/-- The UTF-8 bytes of `t`. -/
def encode (t : Text) : ByteArray := (String.ofList t).toUTF8

/-- The text whose UTF-8 form is `b`; `none` if `b` is not valid UTF-8. -/
def decode? (b : ByteArray) : Option Text := (String.fromUTF8? b).map String.toList

theorem decode?_encode (t : Text) : decode? (encode t) = some t := by
  have back : String.fromUTF8? (String.ofList t).toUTF8 = some (String.ofList t) :=
    dif_pos (String.ofList t).isValidUTF8
  simp only [decode?, encode, back, Option.map_some, String.toList_ofList]

end ContentBlocker.Text
