import ContentBlocker.Text.Blank
import ContentBlocker.Text.Folding
import ContentBlocker.Text.Word
/-!
# Sets of characters

The sets that one place of a regular expression can match, as they are written: ranges, the classes
of word characters, decimal digits and white space, and what brackets make of them.
-/

namespace ContentBlocker

/-- A set of characters. -/
inductive CharSet where
  | none
  | range (first last : Char)
  | word
  | digit
  | blank
  | union (a b : CharSet)
  | inter (a b : CharSet)
  | compl (a : CharSet)
  /-- the characters that agree with a member up to case -/
  | folded (a : CharSet)
  deriving DecidableEq, Repr

namespace CharSet

/-- Membership. -/
def mem : CharSet → Char → Bool
  | none, _ => false
  | range first last, c => first ≤ c && c ≤ last
  | word, c => Text.isWordChar c
  | digit, c => Text.isDecimalDigit c
  | blank, c => Text.isBlank c
  | union a b, c => a.mem c || b.mem c
  | inter a b, c => a.mem c && b.mem c
  | compl a, c => !a.mem c
  | folded a, c => (Text.orbit c).any a.mem

/-- The set with one member. -/
def single (c : Char) : CharSet := range c c

/-- Every character. -/
def all : CharSet := compl none

/-- The members of the first set that the second lacks. -/
def diff (a b : CharSet) : CharSet := inter a (compl b)

/-- The members of exactly one of two sets. -/
def symmDiff (a b : CharSet) : CharSet := union (diff a b) (diff b a)

/-- The union of sets, in order. -/
def unionAll (sets : List CharSet) : CharSet := sets.foldr union none

end CharSet

end ContentBlocker
