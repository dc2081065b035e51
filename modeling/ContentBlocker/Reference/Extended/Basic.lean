import ContentBlocker.Regex.Basic
/-!
# Extended expressions

Expressions that look around, refer to what a group has matched, or keep the first match of a part.
What they match depends on the order in which alternatives are tried. `toRegex?` gives the regular
expression of one that does none of this.
-/

namespace ContentBlocker

/-- Where a look-around looks. -/
inductive Direction where
  | ahead
  | behind
  deriving DecidableEq, Repr

/-- An expression with look-around, references and atomic parts. -/
inductive Extended where
  | empty
  | set (members : CharSet)
  | anchor (condition : Anchor)
  | cat (a b : Extended)
  | alt (a b : Extended)
  | repeated (r : Extended) (least : Nat) (most : Option Nat) (greedy : Bool)
  /-- remembers what its part matches -/
  | group (number : Nat) (r : Extended)
  /-- what the group has matched last -/
  | reference (number : Nat)
  /-- keeps the first match of its part -/
  | atomic (r : Extended)
  /-- whether its part matches here, or does not -/
  | look (direction : Direction) (negated : Bool) (r : Extended)
  deriving DecidableEq, Repr

namespace Extended

/-- Expressions one after the other. -/
def catAll : List Extended → Extended
  | [] => empty
  | [r] => r
  | r :: rest => cat r (catAll rest)

/-- Alternatives; there must be one. -/
def altAll : List Extended → Extended
  | [] => empty
  | [r] => r
  | r :: rest => alt r (altAll rest)

/-- The alternatives of an expression. -/
def alternatives : Extended → List Extended
  | alt a b => alternatives a ++ alternatives b
  | r => [r]

/-- The same expression without regard to groups, where that makes sense. -/
def toRegex? : Extended → Option Regex
  | empty => some .empty
  | set members => some (.set members)
  | anchor condition => some (.anchor condition)
  | cat a b => do return .cat (← a.toRegex?) (← b.toRegex?)
  | alt a b => do return .alt (← a.toRegex?) (← b.toRegex?)
  | repeated r least most _ => do return .repeated (← r.toRegex?) least most
  | group _ r => r.toRegex?
  | reference _ => none
  | atomic _ => none
  | look _ _ _ => none

/-- The number of characters of every match, if it is the same for all. -/
def fixedLength? : Extended → Option Nat
  | empty => some 0
  | set _ => some 1
  | anchor _ => some 0
  | cat a b => do return (← a.fixedLength?) + (← b.fixedLength?)
  | alt a b =>
    match a.fixedLength?, b.fixedLength? with
    | some m, some n => if m = n then some m else none
    | _, _ => none
  | repeated r least most _ =>
    match r.fixedLength? with
    | some n => if most = some least then some (n * least) else none
    | none => none
  | group _ r => r.fixedLength?
  | reference _ => none
  | atomic r => r.fixedLength?
  | look _ _ _ => some 0

/-- Whether a quantifier may follow. -/
def isRepeatable : Extended → Bool
  | empty => false
  | anchor _ => false
  | look _ _ _ => false
  | _ => true

end Extended

end ContentBlocker
