import ContentBlocker.Regex.CharSet
/-!
# Regular expressions

Expressions over sets of characters, with anchors. `Regex.Spans s r i j` says that `r` matches the
characters of `s` from position `i` up to position `j`; an expression occurs in a text if it spans
some part of it. Groups, greediness and the order of alternatives do not change what occurs, so they
are not part of an expression.
-/

namespace ContentBlocker

/-- A condition on a position between two characters. -/
inductive Anchor where
  /-- at the start of the text -/
  | start
  /-- at the end of the text -/
  | stop
  /-- at the start of the text or after a line feed -/
  | lineStart
  /-- at the end of the text or before a line feed -/
  | lineStop
  /-- between a word character and none -/
  | wordEdge
  /-- not between a word character and none -/
  | noWordEdge
  /-- in front of a word character and behind none -/
  | wordStart
  /-- behind a word character and in front of none -/
  | wordStop
  deriving DecidableEq, Repr

namespace Anchor

/-- Whether the condition holds between the characters `before` and `after`, where `none` is an end
of the text. -/
def holds (anchor : Anchor) (before after : Option Char) : Bool :=
  let wordBefore := before.any Text.isWordChar
  let wordAfter := after.any Text.isWordChar
  match anchor with
  | start => before.isNone
  | stop => after.isNone
  | lineStart => before.all (· = '\n')
  | lineStop => after.all (· = '\n')
  | wordEdge => wordBefore != wordAfter
  | noWordEdge => wordBefore == wordAfter
  | wordStart => !wordBefore && wordAfter
  | wordStop => wordBefore && !wordAfter

/-- Whether the condition holds at position `i` of `s`. -/
def holdsAt (anchor : Anchor) (s : Text) (i : Nat) : Bool :=
  anchor.holds (if i = 0 then none else s[i - 1]?) s[i]?

end Anchor

/-- A regular expression. -/
inductive Regex where
  /-- matches between any two characters -/
  | empty
  | set (members : CharSet)
  | anchor (condition : Anchor)
  | cat (a b : Regex)
  | alt (a b : Regex)
  /-- at least `least` and at most `most` times; `none` is no bound -/
  | repeated (r : Regex) (least : Nat) (most : Option Nat)
  deriving DecidableEq, Repr

namespace Regex

/-- The parts of `s` that an expression matches, from one position up to another. -/
inductive Spans (s : Text) : Regex → Nat → Nat → Prop where
  | empty {i : Nat} : i ≤ s.length → Spans s .empty i i
  | set {members : CharSet} {i : Nat} {c : Char} :
      s[i]? = some c → members.mem c = true → Spans s (.set members) i (i + 1)
  | anchor {condition : Anchor} {i : Nat} :
      i ≤ s.length → condition.holdsAt s i = true → Spans s (.anchor condition) i i
  | cat {a b : Regex} {i j k : Nat} : Spans s a i j → Spans s b j k → Spans s (.cat a b) i k
  | left {a b : Regex} {i j : Nat} : Spans s a i j → Spans s (.alt a b) i j
  | right {a b : Regex} {i j : Nat} : Spans s b i j → Spans s (.alt a b) i j
  | done {r : Regex} {most : Option Nat} {i : Nat} :
      i ≤ s.length → Spans s (.repeated r 0 most) i i
  | more {r : Regex} {least : Nat} {most : Option Nat} {i j k : Nat} :
      most ≠ some 0 → Spans s r i j → Spans s (.repeated r (least - 1) (most.map (· - 1))) j k →
        Spans s (.repeated r least most) i k

/-- Whether an expression matches some part of `s`. -/
def Occurs (s : Text) (r : Regex) : Prop := ∃ i j, Spans s r i j

/-- Expressions one after the other. -/
def catAll : List Regex → Regex
  | [] => empty
  | [r] => r
  | r :: rest => cat r (catAll rest)

/-- Alternatives; there must be one. -/
def altAll : List Regex → Regex
  | [] => empty
  | [r] => r
  | r :: rest => alt r (altAll rest)

end Regex

end ContentBlocker
