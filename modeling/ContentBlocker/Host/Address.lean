import ContentBlocker.Text.Digits
/-!
# Numeric addresses

The written forms of four- and sixteen-byte network addresses. A four-byte address is four decimal
numbers below 256 without leading zeros; a sixteen-byte address is eight groups of one to four
hexadecimal digits, of which one run may be left out as `::` and the last two may be written as a
four-byte address. Zone names are not part of an address.
-/

namespace ContentBlocker.Host

/-- Whether `t` is one of the four numbers of a four-byte address. -/
def isOctet (t : Text) : Bool :=
  t ≠ [] && t.length ≤ 3 && t.all Char.isDigit && (t.length = 1 || t.head? ≠ some '0') &&
    Text.decimal t < 256

/-- Whether `t` is a four-byte address. -/
def isShortAddress (t : Text) : Bool :=
  let parts := Text.pieces '.' t
  parts.length = 4 && parts.all isOctet

/-- Whether `t` is one group of a sixteen-byte address. -/
def isGroup (t : Text) : Bool := t ≠ [] && t.length ≤ 4 && (Text.hexadecimal? t).isSome

/-- The number of groups written in a run of groups; `none` if the run is malformed. The last place
may hold a four-byte address, which counts twice, where `shortEnd` allows it. -/
def groupCount? (shortEnd : Bool) : List Text → Option Nat
  | [] => some 0
  | [last] =>
    if isGroup last then some 1
    else if shortEnd && isShortAddress last then some 2
    else none
  | group :: rest => if isGroup group then (groupCount? shortEnd rest).map (· + 1) else none

/-- The groups of a run; an empty text has none. -/
def groupsOf (t : Text) : List Text := if t = [] then [] else Text.pieces ':' t

/-- The parts of `t` before and after its first `::`. -/
def splitGap? : Text → Option (Text × Text)
  | [] => none
  | ':' :: ':' :: rest => some ([], rest)
  | c :: rest => (splitGap? rest).map fun (before, after) => (c :: before, after)

/-- Whether `t` is a sixteen-byte address. -/
def isLongAddress (t : Text) : Bool :=
  match splitGap? t with
  | none => groupCount? true (groupsOf t) = some 8
  | some (before, after) =>
    match groupCount? false (groupsOf before), groupCount? true (groupsOf after) with
    | some m, some n => m + n ≤ 7
    | _, _ => false

/-- Whether a host is a numeric address, with or without square brackets around it. -/
def isNumericAddress (host : Text) : Bool :=
  let inner := Text.dropEndWhile (· = ']') (host.dropWhile (· = '['))
  isShortAddress inner || isLongAddress inner

end ContentBlocker.Host
