import ContentBlocker.Regex.Grammar
/-!
# The size of compiled forms

The engines that the program runs with by itself compile no expression whose form would take too
many bytes. How many it takes is estimated.
-/

namespace ContentBlocker

/-- An estimate of the bytes a compiled form of the set takes: a state for a range of ASCII
characters, a small automaton for a wider range, a large one for each of the named classes. -/
def CharSet.weight : CharSet → Nat
  | none => 32
  | range _ last => if last.toNat < 0x80 then 32 else 320
  | word => 60000
  | digit => 5000
  | blank => 800
  | union a b => a.weight + b.weight
  | inter a b => a.weight + b.weight
  | compl a => a.weight + 320
  | folded a => 2 * a.weight

namespace Regex

/-- An estimate of the bytes the compiled form of an expression takes: bounded repetition copies. -/
def weight : Regex → Nat
  | empty => 32
  | set members => members.weight
  | anchor _ => 32
  | cat a b => a.weight + b.weight
  | alt a b => a.weight + b.weight + 32
  | repeated r least most => r.weight * (most.getD (max least 1)) + 32

/-- The bytes that a compiled form may take. -/
def weightLimit : Nat := 10 * 1024 * 1024

/-- The expression that `source` writes, read with or without regard to case. An expression whose
compiled form would be too large is refused. -/
def parse (ignoreCase : Bool) (source : Text) : Except SourceFault Regex := do
  let r ← read ignoreCase source
  if r.weight ≤ weightLimit then return r else throw .tooLarge

end Regex

end ContentBlocker
