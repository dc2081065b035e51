import ContentBlocker.Regex.Basic
/-!
# Searching for a regular expression

A set of positions of a text is a number whose bit `i` stands for position `i`. `Located` is an
expression in which each set of characters and each anchor is replaced by the positions of one text
where it holds; its image of a set of positions is the set of positions where a match that starts in
the first set can end. Repetition ends as soon as it adds no position, so a search takes a number of
steps bounded by the expression and the length of the text.
-/

namespace ContentBlocker.Regex

/-- The positions `i` of `s` at whose character `p` holds. -/
def positions (p : Char → Bool) : Text → Nat
  | [] => 0
  | c :: s => 2 * positions p s + (if p c then 1 else 0)

/-- The positions of a text where an anchor holds, where `before` is the character in front of the
text. -/
def anchorPositions (condition : Anchor) (before : Option Char) : Text → Nat
  | [] => if condition.holds before none then 1 else 0
  | c :: s =>
    2 * anchorPositions condition (some c) s + (if condition.holds before (some c) then 1 else 0)

/-- An expression laid over one text. -/
inductive Located where
  | empty
  /-- one character further, from these positions -/
  | step (places : Nat)
  /-- no further, at these positions -/
  | stay (places : Nat)
  | cat (a b : Located)
  | alt (a b : Located)
  | repeated (r : Located) (least : Nat) (most : Option Nat)

/-- Lays an expression over a text. -/
def locate (s : Text) : Regex → Located
  | empty => .empty
  | set members => .step (positions members.mem s)
  | anchor condition => .stay (anchorPositions condition none s)
  | cat a b => .cat (locate s a) (locate s b)
  | alt a b => .alt (locate s a) (locate s b)
  | repeated r least most => .repeated (locate s r) least most

/-- `f` applied `n` times, stopping early where `f` changes nothing. -/
def iterate (f : Nat → Nat) : Nat → Nat → Nat
  | 0, x => x
  | n + 1, x =>
    let y := f x
    if y = x then x else iterate f n y

/-- The positions reached by at most `n` uses of `f`, stopping early where nothing is added. -/
def spread (f : Nat → Nat) : Nat → Nat → Nat
  | 0, x => x
  | n + 1, x =>
    let y := x ||| f x
    if y = x then x else spread f n y

namespace Located

/-- Where matches that start at one of the positions `x` of a text of `n` characters end. -/
def image (n : Nat) : Located → Nat → Nat
  | empty, x => x
  | step places, x => (x &&& places) <<< 1
  | stay places, x => x &&& places
  | cat a b, x => b.image n (a.image n x)
  | alt a b, x => a.image n x ||| b.image n x
  | repeated r least most, x =>
    spread (r.image n) ((most.map (· - least)).getD (n + 1)) (iterate (r.image n) least x)

end Located

/-- The positions of a text of `n` characters. -/
def allPositions (n : Nat) : Nat := 1 <<< (n + 1) - 1

/-- Whether an expression occurs in a text. -/
def occursIn (r : Regex) (s : Text) : Bool :=
  (locate s r).image s.length (allPositions s.length) ≠ 0

end ContentBlocker.Regex
