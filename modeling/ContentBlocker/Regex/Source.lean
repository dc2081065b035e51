import ContentBlocker.Regex.Basic
import ContentBlocker.Text.Digits
/-!
# The written form of a place in an expression

What the written forms of regular expressions share: the modes that change how characters are read,
the escapes that start with a backslash, sets in square brackets, and repetition counts. Reading
takes a text whose first characters are of interest and gives what was read with the rest of the
text.
-/

namespace ContentBlocker.Regex

/-- Why a text is not the written form of an expression. -/
inductive SourceFault where
  | unclosedGroup
  | unopenedGroup
  | nothingToRepeat
  | badCount
  | badEscape
  | unclosedSet
  | badSetItem
  | badRange
  | badGroupName
  | repeatedGroupName
  | badModes
  | unsupported
  | badReference
  | mixedReferences
  | unboundedLookBehind
  | tooLarge
  deriving DecidableEq, Repr

/-- The fault in words. -/
def SourceFault.message : SourceFault → Text
  | unclosedGroup => "unclosed group"
  | unopenedGroup => "unopened group"
  | nothingToRepeat => "nothing to repeat"
  | badCount => "malformed repetition count"
  | badEscape => "unrecognized escape sequence"
  | unclosedSet => "unclosed character class"
  | badSetItem => "not a member of a character class"
  | badRange => "invalid character class range"
  | badGroupName => "invalid group name"
  | repeatedGroupName => "duplicate group name"
  | badModes => "invalid flags"
  | unsupported => "unsupported construct"
  | badReference => "invalid back reference"
  | mixedReferences => "numbered back reference beside named groups"
  | unboundedLookBehind => "look-behind assertion without constant size"
  | tooLarge => "compiled form too large"

/-- How the characters of a source are read. -/
structure Mode where
  /-- letters stand for all that agree with them up to case -/
  ignoreCase : Bool := false
  /-- white space and comments are skipped -/
  spaced : Bool := false
  /-- a dot also stands for a line feed -/
  dotAll : Bool := false
  /-- `^` and `$` hold at every line -/
  lines : Bool := false
  deriving DecidableEq, Repr

namespace Mode

/-- The set for a character written as itself. -/
def literal (mode : Mode) (c : Char) : CharSet :=
  if mode.ignoreCase then .folded (.single c) else .single c

/-- The set for a set written in brackets. -/
def bracket (mode : Mode) (s : CharSet) : CharSet := if mode.ignoreCase then .folded s else s

/-- The set for a dot. -/
def dot (mode : Mode) : CharSet := if mode.dotAll then .all else .compl (.single '\n')

/-- The anchor for `^`. -/
def lineStart (mode : Mode) : Anchor := if mode.lines then .lineStart else .start

/-- The anchor for `$`. -/
def lineStop (mode : Mode) : Anchor := if mode.lines then .lineStop else .stop

/-- Turns a mode letter on or off; `none` for a letter that is none. -/
def change? (mode : Mode) (on : Bool) : Char → Option Mode
  | 'i' => some { mode with ignoreCase := on }
  | 'x' => some { mode with spaced := on }
  | 's' => some { mode with dotAll := on }
  | 'm' => some { mode with lines := on }
  | 'U' => some mode
  | 'u' => if on then some mode else none
  | _ => none

end Mode

/-- Skips white space and comments, where `inComment` says whether a comment has begun. -/
def skipFrom (inComment : Bool) : Text → Text
  | [] => []
  | c :: rest =>
    if inComment then skipFrom (c != '\n') rest
    else if Text.isBlank c then skipFrom false rest
    else if c = '#' then skipFrom true rest
    else c :: rest

/-- Skips white space and comments where the mode says so. -/
def skip (mode : Mode) (t : Text) : Text := if mode.spaced then skipFrom false t else t

/-- What an escape stands for. -/
inductive Escape where
  | char (c : Char)
  | set (members : CharSet)
  | anchor (condition : Anchor)

/-- Reads a code point: `digits` hexadecimal digits, or any number of them in braces. -/
def readHex (digits : Nat) (t : Text) : Except SourceFault (Char × Text) :=
  let (written, rest) : Text × Text := match t with
    | '\x7b' :: more =>
      match Text.splitFirst? '\x7d' more with
      | some (inner, rest) => (inner, rest)
      | none => ([], [])
    | _ => if digits ≤ t.length then (t.take digits, t.drop digits) else ([], [])
  match Text.hexChar? written with
  | some c => .ok (c, rest)
  | none => .error .badEscape

/-- The control characters that have a letter of their own. -/
def controlLetters : List (Char × Char) :=
  [('a', '\x07'), ('f', '\x0c'), ('t', '\t'), ('n', '\n'), ('r', '\x0d'), ('v', '\x0b')]

/-- The escapes of one character that stand for a set or an anchor. -/
def namedEscapes : List (Char × Escape) :=
  [('d', .set .digit), ('D', .set (.compl .digit)), ('w', .set .word), ('W', .set (.compl .word)),
    ('s', .set .blank), ('S', .set (.compl .blank)), ('A', .anchor .start), ('z', .anchor .stop),
    ('b', .anchor .wordEdge), ('B', .anchor .noWordEdge), ('<', .anchor .wordStart),
    ('>', .anchor .wordStop)]

/-- Reads what follows a backslash. Letters and digits without a meaning are refused, and so are
characters above ASCII; any other character stands for itself. -/
def readEscape : Text → Except SourceFault (Escape × Text)
  | [] => .error .badEscape
  | 'x' :: rest => (readHex 2 rest).map fun (c, rest) => (.char c, rest)
  | 'u' :: rest => (readHex 4 rest).map fun (c, rest) => (.char c, rest)
  | 'U' :: rest => (readHex 8 rest).map fun (c, rest) => (.char c, rest)
  | c :: rest =>
    match namedEscapes.lookup c, controlLetters.lookup c with
    | some escape, _ => .ok (escape, rest)
    | none, some control => .ok (.char control, rest)
    | none, none =>
      if c.toNat < 0x80 ∧ !c.isAlphanum then .ok (.char c, rest) else .error .badEscape

/-- The operations between two parts of a bracketed set. -/
inductive SetOp where
  | inter
  | diff
  | symmDiff

/-- Applies an operation between two parts. -/
def SetOp.apply : SetOp → CharSet → CharSet → CharSet
  | inter, a, b => .inter a b
  | diff, a, b => .diff a b
  | symmDiff, a, b => .symmDiff a b

/-- A bracketed set that is being read. -/
structure Bracket where
  negated : Bool
  /-- what stands in front of the last operation, with that operation -/
  pending : Option (CharSet × SetOp)
  /-- the members read since then -/
  members : List CharSet

namespace Bracket

/-- Adds a member. -/
def add (b : Bracket) (s : CharSet) : Bracket := { b with members := b.members ++ [s] }

/-- The value of the operations so far. -/
def value (mode : Mode) (b : Bracket) : CharSet :=
  let last := CharSet.unionAll b.members
  match b.pending with
  | none => last
  | some (first, op) => op.apply (mode.bracket first) (mode.bracket last)

/-- Goes on behind an operation. -/
def operate (mode : Mode) (op : SetOp) (b : Bracket) : Bracket :=
  { b with pending := some (b.value mode, op), members := [] }

/-- The set when the bracket closes: case is folded before the set is negated. -/
def close (mode : Mode) (b : Bracket) : CharSet :=
  let s := mode.bracket (b.value mode)
  if b.negated then .compl s else s

end Bracket

/-- Reads the start of a bracketed set behind `[`: negation, hyphens, and a closing bracket that
stands for itself. -/
def openBracket (mode : Mode) (t : Text) : Bracket × Text :=
  let t := skip mode t
  let (negated, t) := match t with
    | '^' :: rest => (true, skip mode rest)
    | _ => (false, t)
  let (hyphens, t) := (t.takeWhile (· = '-'), skip mode (t.dropWhile (· = '-')))
  match hyphens, t with
  | [], ']' :: rest => (⟨negated, none, [.single ']']⟩, rest)
  | _, _ => (⟨negated, none, hyphens.map CharSet.single⟩, t)

/-- The classes of ASCII characters that have a name. -/
def namedSet? (name : Text) : Option CharSet :=
  let small := CharSet.range 'a' 'z'
  let capital := CharSet.range 'A' 'Z'
  let numeral := CharSet.range '0' '9'
  let letter := CharSet.union capital small
  let mark := CharSet.unionAll
    [.range '!' '/', .range ':' '@', .range '[' '\x60', .range '\x7b' '~']
  let white := CharSet.unionAll [.range '\t' '\x0d', .single ' ']
  List.lookup (String.ofList name)
    [("alnum", .union numeral letter), ("alpha", letter), ("ascii", .range '\x00' '\x7f'),
      ("blank", .union (.single '\t') (.single ' ')),
      ("cntrl", .union (.range '\x00' '\x1f') (.single '\x7f')), ("digit", numeral),
      ("graph", .range '!' '~'), ("lower", small), ("print", .range ' ' '~'), ("punct", mark),
      ("space", white), ("upper", capital), ("word", .unionAll [numeral, letter, .single '_']),
      ("xdigit", .unionAll [numeral, .range 'A' 'F', .range 'a' 'f'])]

/-- Reads a named class behind its opening bracket: `:name:]`, or `:^name:]` for its complement. -/
def readNamedSet? : Text → Option (CharSet × Text)
  | ':' :: t =>
    let (negated, t) : Bool × Text := match t with
      | '^' :: rest => (true, rest)
      | _ => (false, t)
    match Text.splitFirst? ':' t with
    | some (name, ']' :: rest) =>
      (namedSet? name).map fun s => (if negated then .compl s else s, rest)
    | _ => none
  | _ => none

/-- A member of a bracketed set: one character, or a whole class. -/
inductive SetItem where
  | char (c : Char)
  | set (members : CharSet)

/-- The set that a member contributes. -/
def SetItem.toSet : SetItem → CharSet
  | char c => .single c
  | set members => members

/-- Reads one member; anchors are none. `escape` reads what follows a backslash. -/
def readItem (escape : Text → Except SourceFault (Escape × Text)) :
    Text → Except SourceFault (SetItem × Text)
  | [] => .error .unclosedSet
  | '\\' :: rest => do
    match ← escape rest with
    | (.char c, rest) => return (.char c, rest)
    | (.set members, rest) => return (.set members, rest)
    | (.anchor _, _) => throw .badSetItem
  | c :: rest => .ok (.char c, rest)

/-- Reads a member or a range between two characters. A hyphen in front of the closing bracket or of
another hyphen makes no range. -/
def readMember (escape : Text → Except SourceFault (Escape × Text)) (mode : Mode) (t : Text) :
    Except SourceFault (CharSet × Text) := do
  let (first, rest) ← readItem escape t
  let rest := skip mode rest
  match rest with
  | '-' :: more =>
    let more := skip mode more
    match more.head? with
    | some ']' => return (first.toSet, rest)
    | some '-' => return (first.toSet, rest)
    | _ =>
      let (last, after) ← readItem escape more
      match first, last with
      | .char a, .char b => if a ≤ b then return (.range a b, after) else throw .badRange
      | _, _ => throw .badRange
  | _ => return (first.toSet, rest)

/-- Brackets that are open: the innermost, and those around it. -/
structure Brackets where
  inner : Bracket
  outer : List Bracket

/-- What one step of reading a bracketed set gives: the finished set, or more open brackets. -/
inductive BracketStep where
  | done (members : CharSet)
  | more (brackets : Brackets)

/-- Reads the next part of a bracketed set, which starts with `c`. -/
def stepBracket (escape : Text → Except SourceFault (Escape × Text)) (mode : Mode) (b : Brackets)
    (c : Char) (rest : Text) : Except SourceFault (BracketStep × Text) :=
  match c, rest with
  | '[', _ =>
    match readNamedSet? rest with
    | some (members, rest) => .ok (.more { b with inner := b.inner.add members }, rest)
    | none =>
      let (bracket, rest) := openBracket mode rest
      .ok (.more ⟨bracket, b.inner :: b.outer⟩, rest)
  | ']', _ =>
    let members := b.inner.close mode
    match b.outer with
    | [] => .ok (.done members, rest)
    | next :: outer => .ok (.more ⟨next.add members, outer⟩, rest)
  | '&', '&' :: rest => .ok (.more { b with inner := b.inner.operate mode .inter }, rest)
  | '-', '-' :: rest => .ok (.more { b with inner := b.inner.operate mode .diff }, rest)
  | '~', '~' :: rest => .ok (.more { b with inner := b.inner.operate mode .symmDiff }, rest)
  | _, _ => do
    let (members, rest) ← readMember escape mode (c :: rest)
    return (.more { b with inner := b.inner.add members }, rest)

/-- Reads the rest of a bracketed set. -/
def readBrackets (escape : Text → Except SourceFault (Escape × Text)) (mode : Mode) (b : Brackets)
    (t : Text) : Except SourceFault (CharSet × Text) :=
  match skip mode t with
  | [] => .error .unclosedSet
  | c :: rest =>
    match stepBracket escape mode b c rest with
    | .error fault => .error fault
    | .ok (.done members, after) => .ok (members, after)
    | .ok (.more b, after) =>
      if after.length < t.length then readBrackets escape mode b after else .error .unclosedSet
termination_by t.length

/-- Reads a bracketed set behind its opening bracket. -/
def readSet (escape : Text → Except SourceFault (Escape × Text)) (mode : Mode) (t : Text) :
    Except SourceFault (CharSet × Text) :=
  let (bracket, rest) := openBracket mode t
  readBrackets escape mode ⟨bracket, []⟩ rest

/-- The largest repetition count. -/
def largestCount : Nat := UInt32.size - 1

end ContentBlocker.Regex
