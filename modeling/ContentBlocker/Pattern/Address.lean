import ContentBlocker.Keyword
/-!
# Address patterns

The pattern of a filter is either a regular expression between slashes or a text in which `*` stands
for anything, `^` for a separator or the end of the address, `||` at the start for the host or a
name below it, `|` at the start or end for that end of the address, and every other character for
itself. `Pattern.source` writes either kind as the source of one regular expression.
-/

namespace ContentBlocker

/-- Where in an address a pattern may begin. -/
inductive Opening where
  | anywhere
  /-- at the start of the address -/
  | address
  /-- at the start of the host or after one of its dots -/
  | host
  deriving DecidableEq, Repr

/-- One part of a pattern. -/
inductive PatternPart where
  | wildcard
  | separator
  | literal (c : Char)
  deriving DecidableEq, Repr

/-- A pattern that is no regular expression. -/
structure AddressPattern where
  opening : Opening
  parts : List PatternPart
  /-- whether the address must end where the pattern does -/
  endsHere : Bool
  deriving DecidableEq, Repr

namespace PatternPart

/-- The part that a character of a pattern stands for. -/
def ofChar (c : Char) : PatternPart :=
  if c = '*' then wildcard else if c = '^' then separator else literal c

/-- The characters that mean something other than themselves in an expression, or may come to. -/
def isMeta (c : Char) : Bool := ("\\.+*?()|[]\x7b\x7d^$#&-~" : Text).contains c

/-- The source of a part: a separator is one ASCII character other than letters, digits and `%`,
`-`, `.`, `_`, or the end of the address. -/
def source : PatternPart → Text
  | wildcard => ".*"
  | separator => "(?:[\\x00-\\x24\\x26-\\x2C\\x2F\\x3A-\\x40\\x5B-\\x5E\\x60\\x7B-\\x7F]|$)"
  | literal c => if isMeta c then ['\\', c] else [c]

end PatternPart

namespace Opening

/-- The source of an opening: a host is preceded by a scheme, a colon and slashes, and may be
preceded by other labels. -/
def source : Opening → Text
  | anywhere => []
  | address => "^"
  | host => "^[\\w\\-]+:/+(?:[^/]+\\.)?"

end Opening

namespace AddressPattern

/-- A text in which no two wildcards stand side by side. -/
def collapse : Text → Text
  | '*' :: '*' :: rest => collapse ('*' :: rest)
  | c :: rest => c :: collapse rest
  | [] => []

/-- The wildcard at either end says nothing, since a pattern may match anywhere. -/
def body (pattern : Text) : Text :=
  let collapsed := collapse pattern
  let rest := (Text.dropFirst? '*' collapsed).getD collapsed
  (Text.dropLast? '*' rest).getD rest

/-- The opening of a pattern, and what follows it. -/
def splitOpening : Text → Opening × Text
  | '|' :: '|' :: rest => (.host, rest)
  | '|' :: rest => (.address, rest)
  | rest => (.anywhere, rest)

/-- What stands in front of a final `|`, and whether that bar requires the address to end. Behind a
separator it does not, since a separator admits the end already. -/
def splitEnd (text : Text) : Text × Bool :=
  match Text.dropLast? '|' text with
  | some rest => (rest, rest.getLast? != some '^')
  | none => (text, false)

/-- The pattern that a text writes. -/
def parse (pattern : Text) : AddressPattern :=
  let (opening, rest) := splitOpening (body pattern)
  let (text, endsHere) := splitEnd rest
  { opening, parts := text.map .ofChar, endsHere }

/-- The source of a pattern. -/
def source (p : AddressPattern) : Text :=
  p.opening.source ++ p.parts.flatMap PatternPart.source ++ if p.endsHere then ['$'] else []

end AddressPattern

namespace Pattern

/-- The regular expression that a pattern writes between slashes. -/
def expression? : Text → Option Text
  | '/' :: rest => (Text.dropLast? '/' rest).filter (· ≠ [])
  | _ => none

/-- Whether a pattern is a regular expression between slashes. -/
def isExpression (pattern : Text) : Bool := (expression? pattern).isSome

/-- The source of the expression for a pattern; an empty source matches every address. -/
def source (pattern : Text) : Text :=
  match expression? pattern with
  | some e => e
  | none => (AddressPattern.parse pattern).source

/-- The word a pattern is filed under. A regular expression fixes no word. -/
def keyword (pattern : Text) : Text := if isExpression pattern then [] else Keyword.filing pattern

end Pattern

end ContentBlocker
