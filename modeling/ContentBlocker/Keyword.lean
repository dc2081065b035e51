import ContentBlocker.Text.Basic
/-!
# Keywords

Address filters are filed under one word of their pattern, and a request looks only at the words of
its own address. A word is a maximal run of ASCII letters, digits and `%`. Words of one character
and a few very common ones serve for neither.

In a pattern a word counts only if a character stands on both of its sides and neither is `*`:
elsewhere the pattern may continue inside a longer word of the address.
-/

namespace ContentBlocker.Keyword

/-- The characters of which words consist. -/
def isKeywordChar (c : Char) : Bool := c.isAlphanum || c = '%'

/-- Words too common to file a filter under. -/
def commonWords : List Text := ["http", "https", "com", "js"]

/-- A word together with the characters on its two sides. -/
structure Token where
  before : Option Char
  word : Text
  after : Option Char
  deriving DecidableEq, Repr

/-- The words of a text in order, where `before` is the character in front of the text. -/
def tokens (before : Option Char) : Text → List Token
  | [] => []
  | c :: t =>
    if isKeywordChar c then
      { before
        word := c :: t.takeWhile isKeywordChar
        after := (t.dropWhile isKeywordChar).head? } ::
        tokens none (t.dropWhile isKeywordChar)
    else tokens (some c) t
termination_by t => t.length
decreasing_by
  · have := (List.dropWhile_sublist isKeywordChar (l := t)).length_le
    simp only [List.length_cons]
    omega
  · simp

/-- Whether a word is long and rare enough to file filters under. -/
def isUseful (word : Text) : Bool :=
  1 < word.length && !commonWords.contains (Text.lower word)

/-- Whether the pattern fixes the word: it cannot be part of a longer word of an address. -/
def Token.isDelimited (token : Token) : Bool :=
  match token.before, token.after with
  | some b, some a => b != '*' && a != '*'
  | _, _ => false

/-- The words of an address that filters may be filed under. -/
def ofUrl (url : Text) : List Text := ((tokens none url).map Token.word).filter isUseful

/-- The words of a pattern that it may be filed under, in small letters. -/
def ofPattern (pattern : Text) : List Text :=
  let words := ((tokens none pattern).filter Token.isDelimited).map Token.word
  (words.filter isUseful).map Text.lower

/-- The word a pattern is filed under, empty if it has none. -/
def filing (pattern : Text) : Text := (ofPattern pattern).head?.getD []

end ContentBlocker.Keyword
