/-!
# Text

Filter lists, addresses and host names are sequences of Unicode characters, and every rule of the
filter language reads them from left to right. `Text` is therefore a list of characters; a string
literal stands for the list of its characters. The operations here treat upper and lower case as
properties of ASCII letters alone; case folding over all of Unicode is in
`ContentBlocker.Text.Folding`.
-/

namespace ContentBlocker

/-- A piece of text, character by character. -/
abbrev Text := List Char

instance : Coe String Text := ⟨String.toList⟩

namespace Text

/-- `t` with every ASCII capital replaced by its small letter. -/
def lower (t : Text) : Text := t.map Char.toLower

/-- `t` with every small ASCII letter replaced by its capital. -/
def upper (t : Text) : Text := t.map Char.toUpper

/-- Equality up to the case of ASCII letters. -/
def sameIgnoringCase (a b : Text) : Bool := lower a == lower b

/-- Whether `t` ends with `e`, up to the case of ASCII letters. -/
def endsIgnoringCase (e t : Text) : Bool := (lower e).isSuffixOf (lower t)

/-- `t` without the longest end that satisfies `p` throughout. -/
def dropEndWhile (p : Char → Bool) (t : Text) : Text := (t.reverse.dropWhile p).reverse

/-- `t` without the characters of `p` at either end. -/
def trimBoth (p : Char → Bool) (t : Text) : Text := dropEndWhile p (t.dropWhile p)

/-- The parts of `t` before and after its first `sep`. -/
def splitFirst? (sep : Char) (t : Text) : Option (Text × Text) :=
  match t.dropWhile (· != sep) with
  | [] => none
  | _ :: after => some (t.takeWhile (· != sep), after)

/-- The parts of `t` before and after its last `sep`. -/
def splitLast? (sep : Char) (t : Text) : Option (Text × Text) :=
  (splitFirst? sep t.reverse).map fun (after, before) => (before.reverse, after.reverse)

/-- The pieces of `t` between its separators; one piece more than there are separators. -/
def pieces (sep : Char) : Text → List Text
  | [] => [[]]
  | c :: t =>
    if c = sep then [] :: pieces sep t
    else match pieces sep t with
      | [] => [[c]]
      | piece :: rest => (c :: piece) :: rest

/-- `t` without its first character, provided that character is `c`. -/
def dropFirst? (c : Char) : Text → Option Text
  | [] => none
  | d :: t => if d = c then some t else none

/-- `t` without its last character, provided that character is `c`. -/
def dropLast? (c : Char) (t : Text) : Option Text :=
  (dropFirst? c t.reverse).map List.reverse

/-- The number of bytes `t` takes in UTF-8. -/
def byteLength (t : Text) : Nat := t.foldr (fun c n => c.utf8Size + n) 0

/-- `t` without its last `n` bytes; `none` when that would cut a character in two or `t` is
shorter. -/
def dropBytesEnd? (n : Nat) (t : Text) : Option Text :=
  (go n t.reverse).map List.reverse
where
  /-- Drops from a reversed text. -/
  go : Nat → Text → Option Text
    | 0, r => some r
    | _ + 1, [] => none
    | n + 1, c :: r => if c.utf8Size ≤ n + 1 then go (n + 1 - c.utf8Size) r else none
  termination_by _ r => r.length

end Text

end ContentBlocker
