import ContentBlocker.Host.Domain
/-!
# Lookup keys

Filters for a document are looked up under the host of the document and the names above it, then
under the same names without the registry and with a dot at the end. The names are found one after
the other by a walk along the dots of the host.
-/

namespace ContentBlocker.Host

/-- What a walk over the lookup keys of a host finds next. -/
inductive WalkPhase where
  /-- the host and the names above it -/
  | hosts
  /-- names without the registry -/
  | wildcards
  | done
  deriving DecidableEq, Repr

/-- A walk over the lookup keys of a host, the longest first. -/
structure KeyWalk where
  host : Text
  /-- where the next key starts -/
  cursor : Nat
  /-- the place of the dot in front of the registry, if there are keys without it -/
  wildcardEnd : Option Nat
  phase : WalkPhase
  deriving DecidableEq, Repr

namespace KeyWalk

/-- The walk over the keys of a host. Dots at the end of the host do not count. -/
def start (suffixOf : List Text → PublicSuffix) (host : Text) : KeyWalk :=
  let host := withoutEndDots host
  let registry := (registryUnder? suffixOf host).filter (·.length < host.length)
  { host
    cursor := 0
    wildcardEnd := registry.map fun registry => host.length - registry.length - 1
    phase := if host = [] then .done else .hosts }

/-- Where the next label starts, if a dot stands between the cursor and `limit`. -/
def nextLabel? (w : KeyWalk) (limit : Nat) : Option Nat :=
  (((w.host.take limit).drop w.cursor).idxOf? '.').map fun dot => w.cursor + dot + 1

/-- The walk when no name above the last one is left. -/
def turned (w : KeyWalk) : KeyWalk :=
  { w with
    cursor := 0
    phase := if w.wildcardEnd.isSome then .wildcards else .done }

/-- The next key, if one is left, and the walk behind it. -/
def next (w : KeyWalk) : Option Text × KeyWalk :=
  match w.phase with
  | .hosts =>
    let key := w.host.drop w.cursor
    match w.nextLabel? w.host.length with
    | some cursor => (some key, if cursor < w.host.length then { w with cursor } else w.turned)
    | none => (some key, w.turned)
  | .wildcards =>
    match w.wildcardEnd with
    | none => (none, w)
    | some last =>
      let key := (w.host.take (last + 1)).drop w.cursor
      match w.nextLabel? last with
      | some cursor => (some key, { w with cursor })
      | none => (some key, { w with phase := .done })
  | .done => (none, w)

/-- What is left to walk along; every key takes some of it. -/
def remaining (w : KeyWalk) : Nat :=
  match w.phase with
  | .hosts => (w.host.length - w.cursor) + w.host.length + 2
  | .wildcards => (w.host.length - w.cursor) + 1
  | .done => 0

theorem bounds_of_nextLabel? {w : KeyWalk} {limit cursor : Nat}
    (found : w.nextLabel? limit = some cursor) : w.cursor < cursor ∧ cursor ≤ w.host.length := by
  obtain ⟨dot, first, rfl⟩ := Option.map_eq_some_iff.1 found
  obtain ⟨inside, -⟩ := List.idxOf?_eq_some_iff.1 first
  rw [List.length_drop, List.length_take] at inside
  omega

theorem remaining_turned (w : KeyWalk) : w.turned.remaining ≤ w.host.length + 1 := by
  cases wildcards : w.wildcardEnd <;> simp [remaining, turned, wildcards]

theorem remaining_of_next {w rest : KeyWalk} {key : Text} (step : w.next = (some key, rest)) :
    rest.remaining < w.remaining := by
  have turned := w.remaining_turned
  unfold next at step
  split at step
  · rename_i hosts
    have here : w.remaining = (w.host.length - w.cursor) + w.host.length + 2 := by
      rw [remaining, hosts]
    split at step
    · rename_i cursor found
      have bounds := bounds_of_nextLabel? found
      cases step
      split
      · rw [here]
        simp only [remaining, hosts]
        omega
      · omega
    · cases step
      omega
  · rename_i wildcards
    have here : w.remaining = (w.host.length - w.cursor) + 1 := by
      rw [remaining, wildcards]
    split at step
    · cases step
    · split at step
      · rename_i cursor found
        have bounds := bounds_of_nextLabel? found
        cases step
        rw [here]
        simp only [remaining, wildcards]
        omega
      · cases step
        rw [here]
        exact Nat.succ_pos _
  · cases step

/-- The keys that are left. -/
def keys (w : KeyWalk) : List Text :=
  match _step : w.next with
  | (none, _) => []
  | (some key, rest) => key :: rest.keys
termination_by w.remaining
decreasing_by exact remaining_of_next _step

end KeyWalk

/-- The names under which filters for a document on `host` are looked up. -/
def lookupKeys [SuffixList] (host : Text) : List Text :=
  (KeyWalk.start SuffixList.suffixOf host).keys

end ContentBlocker.Host
