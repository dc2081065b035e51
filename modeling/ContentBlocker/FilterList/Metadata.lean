import ContentBlocker.Text.Blank
import ContentBlocker.Text.Digits
/-!
# Metadata of a filter list

A list starts with a header and with comments that say what it is called, where it comes from and
for how long it is valid.
-/

namespace ContentBlocker

namespace Expiry

/-- The seconds of an hour. -/
def hour : Nat := 60 * 60

/-- The seconds of a day. -/
def day : Nat := 24 * hour

/-- The time after which a list that says nothing expires. -/
def standard : Nat := 5 * day

/-- The longest time a list may ask for. -/
def longest : Nat := 14 * day

/-- The seconds of a unit; a day where none is named. -/
def unit? (name : Text) : Option Nat :=
  let name := name.lower
  if [([] : Text), "d", "day", "days"].contains name then some day
  else if [("h" : Text), "hour", "hours"].contains name then some hour
  else none

/-- The seconds of an amount of a unit, or the greatest number of 64 bits if they do not fit. -/
def seconds (amount unit : Nat) : Nat := min (amount * unit) (UInt64.size - 1)

/-- The seconds that a value such as `4 days` writes, but no more than the longest time. The amount
must be positive and fit into 64 bits; what follows the unit does not count. -/
def parse? (value : Text) : Option Nat :=
  let value := value.trim
  let digits := value.takeWhile Char.isDigit
  let amount := Text.decimal digits
  if amount = 0 ∨ UInt64.size ≤ amount then none
  else
    (unit? ((Text.trimStart (value.drop digits.length)).takeWhile Char.isAlpha)).map fun unit =>
      min (seconds amount unit) longest

end Expiry

/-- What the comments at the start of a list say. -/
structure Metadata where
  title : Text
  version : Text
  homepage : Text
  /-- in seconds -/
  expires : Nat
  /-- the address to which the list has moved -/
  redirect : Option Text
  deriving DecidableEq, Repr

namespace Metadata

/-- What no comments say. -/
def absent : Metadata :=
  { title := [], version := [], homepage := [], expires := Expiry.standard, redirect := none }

/-- What the comments say after one more. A comment without a known key says nothing. -/
def add (metadata : Metadata) (comment : Text) : Metadata :=
  match (Text.dropFirst? '!' comment).bind (Text.splitFirst? ':') with
  | none => metadata
  | some (key, value) =>
    let key := key.trim.lower
    let value := value.trim
    if key = ("title" : Text) then { metadata with title := value }
    else if key = ("version" : Text) then { metadata with version := value }
    else if key = ("homepage" : Text) then { metadata with homepage := value }
    else if key = ("expires" : Text) then
      { metadata with expires := (Expiry.parse? value).getD metadata.expires }
    else if key = ("redirect" : Text) ∧ value ≠ [] then { metadata with redirect := some value }
    else metadata

end Metadata

/-- Whether a line is the header of a list. -/
def isHeader (line : Text) : Bool :=
  let start : Text := "[adblock plus"
  start.isPrefixOf line.trim.lower

end ContentBlocker
