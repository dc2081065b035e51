import ContentBlocker.Text.Basic
/-!
# Quoted text

Descriptions show a text between double quotes, with a backslash in front of quotes and backslashes
and with the control characters of ASCII written as escapes.
-/

namespace ContentBlocker.Text

/-- How a quoted text shows a character. -/
def quotedChar (c : Char) : Text :=
  if c = '"' then "\\\""
  else if c = '\\' then "\\\\"
  else if c = '\t' then "\\t"
  else if c = '\n' then "\\n"
  else if c = '\r' then "\\r"
  else if c = '\x00' then "\\0"
  else if c.toNat < 0x20 ∨ c.toNat = 0x7f then "\\u\x7b" ++ Nat.toDigits 16 c.toNat ++ "\x7d"
  else [c]

/-- A text between quotes. -/
def quoted (t : Text) : Text := '"' :: (t.flatMap quotedChar ++ ['"'])

end ContentBlocker.Text
