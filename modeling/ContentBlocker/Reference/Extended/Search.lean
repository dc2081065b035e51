import ContentBlocker.Reference.Extended.Basic
import ContentBlocker.Reference.Search
/-!
# Searching for an extended expression

A search tries the starts of matches from left to right, and the ways of matching from each start in
order: the alternatives as they are written, and more repetitions before fewer, or fewer before more
where the expression asks for it. A repetition beyond the least number must not be empty, so every
search ends. Each time a search turns to another way it spends one unit of its budget; without any
left it gives up.
-/

namespace ContentBlocker.Extended

/-- A position of a text: the characters behind it, last first, and those in front of it. -/
structure Position where
  behind : Text
  ahead : Text
  deriving DecidableEq, Repr

/-- The position `n` characters further back. -/
def Position.back? (p : Position) (n : Nat) : Option Position :=
  if n ≤ p.behind.length then some ⟨p.behind.drop n, (p.behind.take n).reverse ++ p.ahead⟩ else none

/-- What groups have matched last, by number. -/
abbrev Captures := List (Nat × Text)

/-- How an attempt ends, with the budget that is left. -/
inductive Outcome where
  | found (position : Position) (captures : Captures) (budget : Nat)
  | missed (budget : Nat)
  | gaveUp
  deriving DecidableEq, Repr

/-- What is to be matched behind a position. -/
abbrev Rest := Position → Captures → Nat → Outcome

/-- Turns to `second` when `first` has missed, at the price of one unit. -/
def Outcome.orTry (first : Outcome) (second : Nat → Outcome) : Outcome :=
  match first with
  | found position captures budget => found position captures budget
  | missed 0 => gaveUp
  | missed (budget + 1) => second budget
  | gaveUp => gaveUp

/-- Matches `once` exactly `n` times. -/
def exactly (once : Rest → Rest) : Nat → Rest → Rest
  | 0, rest => rest
  | n + 1, rest => once (exactly once n rest)

/-- Matches `once` any number of times up to `n`, never without going forward. -/
def upTo (once : Rest → Rest) (greedy : Bool) : Nat → Rest → Rest
  | 0, rest => rest
  | n + 1, rest => fun position captures budget =>
    let more := fun budget =>
      once (fun next captures budget =>
        if next.ahead.length < position.ahead.length then
          upTo once greedy n rest next captures budget
        else .missed budget) position captures budget
    if greedy then (more budget).orTry fun budget => rest position captures budget
    else (rest position captures budget).orTry more

/-- Matches the first way that `once` allows, and no other. -/
def firstWay (once : Rest → Rest) (rest : Rest) : Rest := fun position captures budget =>
  match once .found position captures budget with
  | .found position captures budget => rest position captures budget
  | outcome => outcome

/-- Goes on at the same position if `once` does not match there. -/
def butNot (once : Rest → Rest) (rest : Rest) : Rest := fun position captures budget =>
  match once .found position captures budget with
  | .found _ _ budget => .missed budget
  | .missed 0 => .gaveUp
  | .missed (budget + 1) => rest position captures budget
  | .gaveUp => .gaveUp

/-- Matches `once` from as many characters further back as `length` says. -/
def behind (length : Option Nat) (once : Rest → Rest) (rest : Rest) : Rest :=
  fun position captures budget =>
    match length.bind position.back? with
    | some former => once rest former captures budget
    | none => .missed budget

/-- Matches an expression, then `rest`. -/
def attempt : Extended → Rest → Rest
  | empty, rest => rest
  | set members, rest => fun position captures budget =>
    match position.ahead with
    | c :: ahead =>
      if members.mem c then rest ⟨c :: position.behind, ahead⟩ captures budget else .missed budget
    | [] => .missed budget
  | anchor condition, rest => fun position captures budget =>
    if condition.holds position.behind.head? position.ahead.head? then rest position captures budget
    else .missed budget
  | cat a b, rest => a.attempt (b.attempt rest)
  | alt a b, rest => fun position captures budget =>
    (a.attempt rest position captures budget).orTry (b.attempt rest position captures)
  | repeated r least most greedy, rest =>
    exactly r.attempt least fun position captures budget =>
      upTo r.attempt greedy ((most.map (· - least)).getD (position.ahead.length + 1)) rest position
        captures budget
  | group number r, rest => fun start captures budget =>
    r.attempt (fun position captures budget =>
      let matched := start.ahead.take (start.ahead.length - position.ahead.length)
      rest position ((number, matched) :: captures) budget) start captures budget
  | reference number, rest => fun position captures budget =>
    match captures.lookup number with
    | none => .missed budget
    | some matched =>
      match matched.isPrefixOf? position.ahead with
      | none => .missed budget
      | some ahead => rest ⟨matched.reverse ++ position.behind, ahead⟩ captures budget
  | atomic r, rest => firstWay r.attempt rest
  | look .ahead false r, rest => fun position captures budget =>
    r.attempt (fun _ captures budget => rest position captures budget) position captures budget
  | look .ahead true r, rest => butNot r.attempt rest
  | look .behind false r, rest => fun position captures budget =>
    behind r.fixedLength? r.attempt (fun _ captures budget => rest position captures budget)
      position captures budget
  | look .behind true r, rest => butNot (behind r.fixedLength? r.attempt) rest

/-- The search from a position and all those in front of it. -/
def searchFrom (r : Extended) (behind : Text) : Text → Nat → Outcome
  | [], budget => r.attempt .found ⟨behind, []⟩ [] budget
  | c :: ahead, budget =>
    (r.attempt .found ⟨behind, c :: ahead⟩ [] budget).orTry (searchFrom r (c :: behind) ahead)

/-- How often a search may turn to another way. -/
def searchBudget : Nat := 1000000

/-- Whether an expression occurs in a text; `none` if the search gives up. One without extensions is
searched for as a regular expression, and then no search gives up. -/
def occursIn? (r : Extended) (s : Text) : Option Bool :=
  match r.toRegex? with
  | some plain => some (plain.occursIn s)
  | none =>
    match searchFrom r [] s searchBudget with
    | .found _ _ _ => some true
    | .missed _ => some false
    | .gaveUp => none

end ContentBlocker.Extended
