import ContentBlocker.Regex.Source
/-!
# The written form of regular expressions

Reading goes from left to right. What has been read of the innermost open group, of the groups
around it and of the modes is a `Reader`; each step reads one part of the source and changes the
reader. Groups only mark what belongs together: their numbers and names do not outlive reading.
Look-around and references to groups are refused.
-/

namespace ContentBlocker.Regex

/-- What has been read of a group. -/
structure Branches where
  /-- the alternatives that have ended, last first -/
  ended : List Regex := []
  /-- the parts of the current alternative, last first -/
  parts : List Regex := []
  /-- whether the last thing read is a part, and so can be repeated -/
  repeatable : Bool := false
  deriving DecidableEq, Repr

namespace Branches

/-- The expression read so far. -/
def toRegex (b : Branches) : Regex := altAll (catAll b.parts.reverse :: b.ended).reverse

/-- Adds a part. -/
def push (b : Branches) (r : Regex) : Branches :=
  { b with parts := r :: b.parts, repeatable := true }

/-- Ends the current alternative. -/
def branch (b : Branches) : Branches :=
  { ended := catAll b.parts.reverse :: b.ended }

end Branches

/-- The state of reading. -/
structure Reader where
  mode : Mode
  /-- the innermost open group -/
  group : Branches := {}
  /-- the groups around it, innermost first, with the modes to go back to -/
  outer : List (Branches × Mode) := []
  /-- the group names seen -/
  names : List Text := []
  deriving DecidableEq, Repr

namespace Reader

/-- Adds a part to the innermost group. -/
def push (p : Reader) (r : Regex) : Reader := { p with group := p.group.push r }

/-- Repeats the last part. -/
def repeatLast (p : Reader) (least : Nat) (most : Option Nat) : Except SourceFault Reader :=
  match p.group.repeatable, p.group.parts with
  | true, r :: parts =>
    .ok { p with group := { p.group with parts := .repeated r least most :: parts } }
  | _, _ => .error .nothingToRepeat

/-- Opens a group, in which `mode` holds. -/
def openGroup (p : Reader) (mode : Mode) : Reader :=
  { p with mode, group := {}, outer := (p.group, p.mode) :: p.outer }

/-- Closes the innermost group: it is a part of the group around it. -/
def closeGroup (p : Reader) : Except SourceFault Reader :=
  match p.outer with
  | [] => .error .unopenedGroup
  | (group, mode) :: outer => .ok { p with mode, group := group.push p.group.toRegex, outer }

/-- The expression at the end of the source. -/
def finish (p : Reader) : Except SourceFault Regex :=
  match p.outer with
  | [] => .ok p.group.toRegex
  | _ => .error .unclosedGroup

end Reader

/-- Skips a question mark: preferring the shortest match does not change what occurs. -/
def skipLazy : Text → Text
  | '?' :: rest => rest
  | rest => rest

/-- Reads decimal digits with white space around them. -/
def readCount (t : Text) : Except SourceFault (Nat × Text) :=
  let t := Text.trimStart t
  let digits := t.takeWhile Char.isDigit
  if digits ≠ [] ∧ Text.decimal digits ≤ largestCount then
    .ok (Text.decimal digits, Text.trimStart (t.dropWhile Char.isDigit))
  else .error .badCount

/-- Reads the bounds of a repetition behind its opening brace. -/
def readBounds (mode : Mode) (t : Text) : Except SourceFault (Nat × Option Nat × Text) := do
  let (least, rest) ← readCount t
  let (most, rest) ← match rest with
    | ',' :: rest =>
      match skip mode rest with
      | '\x7d' :: more => pure (none, '\x7d' :: more)
      | more => (readCount more).map fun (most, rest) => (some most, rest)
    | rest => pure (some least, rest)
  match rest with
  | '\x7d' :: rest =>
    if most.all (least ≤ ·) then return (least, most, skipLazy (skip mode rest))
    else throw .badCount
  | _ => throw .badCount

/-- Whether `c` may stand in a group name, at its start or later. -/
def isNameChar (first : Bool) (c : Char) : Bool :=
  c = '_' ||
    (if first then Text.isWordChar c && !Text.isDecimalDigit c
    else Text.isWordChar c || c = '.' || c = '[' || c = ']')

/-- Reads a group name and the angle bracket behind it. -/
def readName (t : Text) : Except SourceFault (Text × Text) :=
  match Text.splitFirst? '>' t with
  | some (c :: name, rest) =>
    if isNameChar true c ∧ name.all (isNameChar false) then .ok (c :: name, rest)
    else .error .badGroupName
  | _ => .error .badGroupName

/-- What the mode letters of a group lead to. -/
inductive ModeEnd where
  /-- the modes hold in the group that begins here -/
  | group
  /-- the modes hold for the rest of the group around -/
  | rest

/-- Reads mode letters up to the colon or parenthesis behind them. `on` says whether the letters
turn modes on, `fresh` whether the last thing read was the minus sign, and `seen` lists the letters
so far; none may be repeated. -/
def readModes (mode : Mode) (on fresh : Bool) (seen : List Char) :
    Text → Except SourceFault (Mode × ModeEnd × Text)
  | [] => .error .badModes
  | c :: t =>
    if c = ':' then if fresh then .error .badModes else .ok (mode, .group, t)
    else if c = ')' then
      if fresh ∨ seen = [] then .error .badModes else .ok (mode, .rest, t)
    else if c = '-' then if on then readModes mode false true (c :: seen) t else .error .badModes
    else if seen.contains c then .error .badModes
    else match mode.change? on c with
      | some mode => readModes mode on false (c :: seen) t
      | none => .error .badModes

/-- Whether the text behind an opening parenthesis begins a look-around. -/
def isLookAround (t : Text) : Bool :=
  [("?=" : Text), "?!", "?<=", "?<!"].any (·.isPrefixOf t)

/-- Reads the start of a group behind its parenthesis. -/
def readGroup (p : Reader) (t : Text) : Except SourceFault (Reader × Text) :=
  let t := skip p.mode t
  if isLookAround t then .error .unsupported
  else match t with
    | '?' :: 'P' :: '<' :: rest => named rest
    | '?' :: '<' :: rest => named rest
    | '?' :: rest => do
      match ← readModes p.mode true false [] rest with
      | (mode, .group, rest) => return (p.openGroup mode, rest)
      | (mode, .rest, rest) =>
        return ({ p with mode, group := { p.group with repeatable := false } }, rest)
    | _ => .ok (p.openGroup p.mode, t)
where
  /-- Reads the name of a group. -/
  named (t : Text) : Except SourceFault (Reader × Text) := do
    let (name, rest) ← readName t
    if p.names.contains name then throw .repeatedGroupName
    return ({ p.openGroup p.mode with names := name :: p.names }, rest)

/-- Reads the next part of the source, which starts with `c`. -/
def step (p : Reader) (c : Char) (rest : Text) : Except SourceFault (Reader × Text) :=
  match c with
  | '(' => readGroup p rest
  | ')' => p.closeGroup.map (·, rest)
  | '|' => .ok ({ p with group := p.group.branch }, rest)
  | '?' => (p.repeatLast 0 (some 1)).map (·, skipLazy rest)
  | '*' => (p.repeatLast 0 none).map (·, skipLazy rest)
  | '+' => (p.repeatLast 1 none).map (·, skipLazy rest)
  | '\x7b' => do
    let (least, most, rest) ← readBounds p.mode rest
    return (← p.repeatLast least most, rest)
  | '[' => do
    let (members, rest) ← readSet readEscape p.mode rest
    return (p.push (.set members), rest)
  | '\\' => do
    match ← readEscape rest with
    | (.char c, rest) => return (p.push (.set (p.mode.literal c)), rest)
    | (.set members, rest) => return (p.push (.set members), rest)
    | (.anchor condition, rest) => return (p.push (.anchor condition), rest)
  | '.' => .ok (p.push (.set p.mode.dot), rest)
  | '^' => .ok (p.push (.anchor p.mode.lineStart), rest)
  | '$' => .ok (p.push (.anchor p.mode.lineStop), rest)
  | c => .ok (p.push (.set (p.mode.literal c)), rest)

/-- Reads the rest of the source. -/
def run (p : Reader) (t : Text) : Except SourceFault Regex :=
  match skip p.mode t with
  | [] => p.finish
  | c :: rest =>
    match step p c rest with
    | .error fault => .error fault
    | .ok (p, after) => if after.length < t.length then run p after else .error .unsupported
termination_by t.length

/-- The expression that `source` writes, read with or without regard to case. -/
def read (ignoreCase : Bool) (source : Text) : Except SourceFault Regex :=
  run { mode := { ignoreCase } } source

end ContentBlocker.Regex
