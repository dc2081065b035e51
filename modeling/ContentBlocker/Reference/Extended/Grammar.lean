import ContentBlocker.Reference.Extended.Basic
import ContentBlocker.Reference.Weight
/-!
# The written form of extended expressions

Beside what regular expressions can write, this form has look-around, atomic groups and references
to earlier groups. A brace that opens no repetition count stands for itself, one quantifier may
follow a part, and modes set in a group hold behind it too, except in a group that begins with them.
-/

namespace ContentBlocker.Extended

open Regex (SourceFault Mode Escape)

/-- What a group is for. -/
inductive GroupKind where
  | capture (number : Nat)
  /-- a group that began with modes, with the modes to go back to -/
  | plain (mode : Mode)
  | atomic
  | look (direction : Direction) (negated : Bool)

/-- What has been read of a group. -/
structure Branches where
  /-- the alternatives that have ended, last first -/
  ended : List Extended := []
  /-- the parts of the current alternative, last first -/
  parts : List Extended := []
  /-- the last part, while a quantifier may still follow it -/
  last : Option Extended := none

namespace Branches

/-- Ends the last part; what matches nothing in particular is left out. -/
def settle (b : Branches) : Branches :=
  match b.last with
  | none => b
  | some .empty => { b with last := none }
  | some r => { b with parts := r :: b.parts, last := none }

/-- Adds a part that a quantifier may follow. -/
def push (b : Branches) (r : Extended) : Branches := { b.settle with last := some r }

/-- Ends the current alternative. -/
def branch (b : Branches) : Branches := { ended := catAll b.settle.parts.reverse :: b.ended }

/-- The expression read so far. -/
def toExtended (b : Branches) : Extended :=
  altAll (catAll b.settle.parts.reverse :: b.ended).reverse

end Branches

/-- What looks behind: a look over one expression of fixed length, or one look for each alternative,
of which one must succeed, or all if they are negated. -/
def lookBehind (negated : Bool) (r : Extended) : Except SourceFault Extended :=
  if r.fixedLength?.isSome then .ok (.look .behind negated r)
  else if r.alternatives.all (·.fixedLength?.isSome) then
    let looks := r.alternatives.map (.look .behind negated)
    .ok (if negated then catAll looks else altAll looks)
  else .error .unboundedLookBehind

/-- The expression that a group of some kind stands for. -/
def GroupKind.wrap (kind : GroupKind) (r : Extended) : Except SourceFault Extended :=
  match kind with
  | .capture number => .ok (.group number r)
  | .plain _ => .ok r
  | .atomic => .ok (.atomic r)
  | .look .ahead negated => .ok (.look .ahead negated r)
  | .look .behind negated => lookBehind negated r

/-- The state of reading. -/
structure Reader where
  /-- the number of bytes of the source -/
  bytes : Nat
  mode : Mode := {}
  /-- the innermost open group -/
  group : Branches := {}
  /-- the groups around it, innermost first, with what the group inside each is for -/
  outer : List (Branches × GroupKind) := []
  /-- how many remembering groups have begun -/
  groups : Nat := 0
  /-- the names of groups -/
  names : List (Text × Nat) := []
  /-- whether a group has been referred to by its number -/
  numbered : Bool := false

namespace Reader

/-- Adds a part. -/
def push (p : Reader) (r : Extended) : Reader := { p with group := p.group.push r }

/-- Opens a group. -/
def openGroup (p : Reader) (kind : GroupKind) : Reader :=
  { p with group := {}, outer := (p.group.settle, kind) :: p.outer }

/-- Opens a group that remembers what it matches. -/
def openCapture (p : Reader) : Reader :=
  { p.openGroup (.capture (p.groups + 1)) with groups := p.groups + 1 }

/-- The expression of the innermost group. A group of one alternative may not end where groups have
names and one has been referred to by its number. -/
def groupValue (p : Reader) : Except SourceFault Extended :=
  if p.group.ended.isEmpty ∧ p.numbered ∧ p.names ≠ [] then .error .mixedReferences
  else .ok p.group.toExtended

/-- Closes the innermost group. -/
def closeGroup (p : Reader) : Except SourceFault Reader :=
  match p.outer with
  | [] => .error .unopenedGroup
  | (group, kind) :: outer => do
    let r ← kind.wrap (← p.groupValue)
    let mode := match kind with
      | .plain mode => mode
      | _ => p.mode
    return { p with mode, group := { group with last := some r }, outer }

/-- The expression at the end of the source. -/
def finish (p : Reader) : Except SourceFault Extended :=
  match p.outer with
  | [] => p.groupValue
  | _ => .error .unclosedGroup

end Reader

/-- Skips a comment behind its `(?#`; `none` if it does not end. -/
def skipComment? : Text → Option Text
  | [] => none
  | '\\' :: _ :: rest => skipComment? rest
  | ')' :: rest => some rest
  | _ :: rest => skipComment? rest

/-- Skips comments in parentheses, and white space and comments where the mode says so; `none` if a
comment does not end. -/
def skip? (mode : Mode) (t : Text) : Option Text :=
  match Regex.skip mode t with
  | '(' :: '?' :: '#' :: rest =>
    match skipComment? rest with
    | some after => if after.length < t.length then skip? mode after else none
    | none => none
  | rest => some rest
termination_by t.length

/-- Skips as `skip?` does. -/
def skip (mode : Mode) (t : Text) : Except SourceFault Text :=
  match skip? mode t with
  | some rest => .ok rest
  | none => .error .unclosedGroup

/-- The escapes that this form adds: the escape character, and hexadecimal digits with their
complement. -/
def addedEscapes : List (Char × Escape) :=
  let hexDigits := CharSet.unionAll [.range '0' '9', .range 'A' 'F', .range 'a' 'f']
  [('e', .char '\x1b'), ('h', .set hexDigits), ('H', .set (.compl hexDigits))]

/-- Reads what follows a backslash: what regular expressions can write, and characters above
ASCII. -/
def readEscape (t : Text) : Except SourceFault (Escape × Text) :=
  match t with
  | c :: rest =>
    if 0x80 ≤ c.toNat then .ok (.char c, rest)
    else match addedEscapes.lookup c with
      | some escape => .ok (escape, rest)
      | none => Regex.readEscape t
  | [] => Regex.readEscape t

/-- Reads what follows a backslash in a bracketed set, where `\b` is the backspace. -/
def readSetEscape : Text → Except SourceFault (Escape × Text)
  | 'b' :: rest => .ok (.char '\x08', rest)
  | t => readEscape t

/-- Reads decimal digits. -/
def readNumber? (t : Text) : Option (Nat × Text) :=
  match t.takeWhile Char.isDigit with
  | [] => none
  | digits => some (Text.decimal digits, t.dropWhile Char.isDigit)

/-- Reads the bounds of a repetition behind its opening brace; `none` if they are no bounds. -/
def readBounds? (mode : Mode) (t : Text) : Option (Nat × Option Nat × Text) := do
  let t ← skip? mode t
  let (least, rest) ← match t with
    | ',' :: _ => some (0, t)
    | _ => readNumber? t
  match ← skip? mode rest with
  | '\x7d' :: rest => return (least, some least, rest)
  | ',' :: rest =>
    let rest ← skip? mode rest
    let (most, rest) := match readNumber? rest with
      | some (most, rest) => (some most, rest)
      | none => (none, rest)
    match ← skip? mode rest with
    | '\x7d' :: rest => return (least, most, rest)
    | _ => none
  | _ => none

/-- Reads the quantifier at the start of a text, if there is one. -/
def readQuantifier? (mode : Mode) : Text → Option (Nat × Option Nat × Text)
  | '?' :: rest => some (0, some 1, rest)
  | '*' :: rest => some (0, none, rest)
  | '+' :: rest => some (1, none, rest)
  | '\x7b' :: rest => readBounds? mode rest
  | _ => none

/-- Repeats `r` as the quantifier says that has been read, and reads what may stand behind it: a
question mark for the shortest match first, a plus sign for an atomic part. -/
def quantify (mode : Mode) (r : Extended) (least : Nat) (most : Option Nat) (t : Text) :
    Except SourceFault (Extended × Text) := do
  if !r.isRepeatable then throw .nothingToRepeat
  if !most.all (least ≤ ·) then throw .badCount
  let (greedy, t) := match ← skip mode t with
    | '?' :: rest => (false, rest)
    | rest => (true, rest)
  let r := .repeated r least most greedy
  match t with
  | '+' :: rest => return (.atomic r, rest)
  | _ => return (r, t)

/-- Reads a group name between two delimiters. -/
def readName? (first : Text) (last : Char) (t : Text) : Option (Text × Text) := do
  let t ← first.isPrefixOf? t
  let name := t.takeWhile Text.isWordChar
  match name, t.dropWhile Text.isWordChar with
  | [], _ => none
  | _, c :: rest => if c = last then some (name, rest) else none
  | _, [] => none

/-- Reads a reference to a group by its name, or by its number in place of a name. -/
def readNamedReference (p : Reader) (first : Text) (last : Char) (t : Text) :
    Except SourceFault (Reader × Text) :=
  match readName? first last t with
  | none => .error .badGroupName
  | some (name, rest) =>
    match p.names.lookup name with
    | some number => .ok (p.push (.reference number), rest)
    | none =>
      if name.all Char.isDigit ∧ Text.decimal name ≤ p.groups then
        .ok (p.push (.reference (Text.decimal name)), rest)
      else .error .badReference

/-- Reads a reference to a group by its number. The group must have begun, and the number must be
below half the bytes of the source. -/
def readNumberedReference (p : Reader) (t : Text) : Except SourceFault (Reader × Text) :=
  match readNumber? t with
  | some (number, rest) =>
    if number < p.bytes / 2 ∧ number ≤ p.groups then
      .ok ({ p.push (.reference number) with numbered := true }, rest)
    else .error .badReference
  | none => .error .badReference

/-- Reads what follows a backslash outside brackets. -/
def readBackslash (p : Reader) (t : Text) : Except SourceFault (Reader × Text) :=
  match t with
  | 'k' :: '\'' :: rest => readNamedReference p "'" '\'' ('\'' :: rest)
  | 'k' :: rest => readNamedReference p "<" '>' rest
  | c :: _ =>
    if c.isDigit then readNumberedReference p t
    else do
      match ← readEscape t with
      | (.char c, rest) => return (p.push (.set (p.mode.literal c)), rest)
      | (.set members, rest) => return (p.push (.set members), rest)
      | (.anchor condition, rest) => return (p.push (.anchor condition), rest)
  | [] => .error .badEscape

/-- Reads mode letters up to the colon or parenthesis behind them. `on` says whether the letters
turn modes on, `fresh` whether nothing stands in front or the last thing read was the minus sign. -/
def readModes (p : Reader) (former : Mode) (on fresh : Bool) :
    Text → Except SourceFault (Reader × Text)
  | [] => .error .unclosedGroup
  | c :: t =>
    if c = ':' then
      if fresh ∧ !on then .error .badModes
      else .ok ({ p.openGroup (.plain former) with mode := p.mode }, t)
    else if c = ')' then if fresh then .error .badModes else .ok (p.push .empty, t)
    else if c = '-' then if on then readModes p former false true t else .error .badModes
    else match p.mode.change? on c with
      | some mode => readModes { p with mode } former on false t
      | none => .error .badModes

/-- Reads the start of a group behind its parenthesis. -/
def readGroup (p : Reader) (t : Text) : Except SourceFault (Reader × Text) := do
  match ← skip p.mode t with
  | '?' :: '=' :: rest => return (p.openGroup (.look .ahead false), rest)
  | '?' :: '!' :: rest => return (p.openGroup (.look .ahead true), rest)
  | '?' :: '<' :: '=' :: rest => return (p.openGroup (.look .behind false), rest)
  | '?' :: '<' :: '!' :: rest => return (p.openGroup (.look .behind true), rest)
  | '?' :: '<' :: rest => named ('<' :: rest)
  | '?' :: 'P' :: '<' :: rest => named ('<' :: rest)
  | '?' :: 'P' :: '=' :: rest => readNamedReference p "" ')' rest
  | '?' :: '>' :: rest => return (p.openGroup .atomic, rest)
  | '?' :: '(' :: _ => throw .unsupported
  | '?' :: rest => readModes p p.mode true true rest
  | rest => return (p.openCapture, rest)
where
  /-- Reads the name of a group. -/
  named (t : Text) : Except SourceFault (Reader × Text) :=
    match readName? "<" '>' t with
    | some (name, rest) =>
      .ok ({ p.openCapture with names := (name, p.groups + 1) :: p.names }, rest)
    | none => .error .badGroupName

/-- Reads a part that starts with `c`. -/
def readPart (p : Reader) (c : Char) (rest : Text) : Except SourceFault (Reader × Text) :=
  match c with
  | '(' => readGroup p rest
  | ')' => p.closeGroup.map (·, rest)
  | '|' => .ok ({ p with group := p.group.branch }, rest)
  | '?' => .error .nothingToRepeat
  | '*' => .error .nothingToRepeat
  | '+' => .error .nothingToRepeat
  | '[' => do
    let (members, rest) ← Regex.readSet readSetEscape p.mode rest
    return (p.push (.set members), rest)
  | '\\' => readBackslash p rest
  | '.' => .ok (p.push (.set p.mode.dot), rest)
  | '^' => .ok (p.push (.anchor p.mode.lineStart), rest)
  | '$' => .ok (p.push (.anchor p.mode.lineStop), rest)
  | c => .ok (p.push (.set (p.mode.literal c)), rest)

/-- Reads the next part of the source, which starts with `c`: a quantifier if the last part allows
one. -/
def step (p : Reader) (c : Char) (rest : Text) : Except SourceFault (Reader × Text) :=
  match p.group.last, readQuantifier? p.mode (c :: rest) with
  | some r, some (least, most, rest) => do
    let (r, rest) ← quantify p.mode r least most rest
    return ({ p with group := { p.group with parts := r :: p.group.parts, last := none } }, rest)
  | _, _ => readPart { p with group := p.group.settle } c rest

/-- Reads the rest of the source. -/
def run (p : Reader) (t : Text) : Except SourceFault Extended :=
  match skip? p.mode t with
  | none => .error .unclosedGroup
  | some [] => p.finish
  | some (c :: rest) =>
    match step p c rest with
    | .error fault => .error fault
    | .ok (p, after) => if after.length < t.length then run p after else .error .unsupported
termination_by t.length

/-- The expression that `source` writes. One without extensions must not be too large. -/
def parse (source : Text) : Except SourceFault Extended := do
  let r ← run { bytes := source.byteLength } source
  match r.toRegex? with
  | some plain => if plain.weight ≤ Regex.weightLimit then return r else throw .tooLarge
  | none => return r

end ContentBlocker.Extended
