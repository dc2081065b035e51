import ContentBlocker.Text.Basic
/-!
# Structured output

Values are written over several lines, each member on its own, two spaces deeper than what holds it.
Members keep their order.
-/

namespace ContentBlocker

/-- A value of structured output. -/
inductive Structured where
  | null
  | number (n : Nat)
  | string (t : Text)
  | list (items : List Structured)
  | object (members : List (Text × Structured))

namespace Structured

/-- Two hexadecimal digits. -/
def hexPair (n : Nat) : Text := Nat.toDigits 16 (n / 16) ++ Nat.toDigits 16 (n % 16)

/-- How a string shows a character: quotes, backslashes and control characters as escapes. -/
def escape (c : Char) : Text :=
  if c = '"' then "\\\""
  else if c = '\\' then "\\\\"
  else if c = '\n' then "\\n"
  else if c = '\r' then "\\r"
  else if c = '\t' then "\\t"
  else if c = '\x08' then "\\b"
  else if c = '\x0c' then "\\f"
  else if c.toNat < 0x20 then "\\u00" ++ hexPair c.toNat
  else [c]

/-- A string between quotes. -/
def quote (t : Text) : Text := '"' :: (t.flatMap escape ++ ['"'])

/-- A new line at a depth. -/
def newLine (depth : Nat) : Text := '\n' :: List.replicate (2 * depth) ' '

mutual

/-- A value that starts at a depth. -/
def write (depth : Nat) : Structured → Text
  | null => "null"
  | number n => Nat.toDigits 10 n
  | string t => quote t
  | list [] => "[]"
  | list (item :: items) =>
    '[' :: (newLine (depth + 1) ++ write (depth + 1) item ++ writeItems (depth + 1) items ++
      newLine depth ++ [']'])
  | object [] => "\x7b\x7d"
  | object ((name, value) :: members) =>
    '\x7b' :: (newLine (depth + 1) ++ quote name ++ (": " : Text) ++ write (depth + 1) value ++
      writeMembers (depth + 1) members ++ newLine depth ++ ['\x7d'])

/-- The items behind the first. -/
def writeItems (depth : Nat) : List Structured → Text
  | [] => []
  | item :: items => ',' :: (newLine depth ++ write depth item ++ writeItems depth items)

/-- The members behind the first. -/
def writeMembers (depth : Nat) : List (Text × Structured) → Text
  | [] => []
  | (name, value) :: members =>
    ',' :: (newLine depth ++ quote name ++ (": " : Text) ++ write depth value ++
      writeMembers depth members)

end

/-- A value over several lines. -/
def pretty (value : Structured) : Text := value.write 0

end Structured

end ContentBlocker
