import ContentBlocker.Subscription.Basic
/-!
# Shared indexes

An index is held by handles and by subscriptions. When the last of them lets go, the hook, if there
is one, is told the size of the buffer and whether its stored form is to be removed as well. Handles
and subscriptions are numbered from zero in the order in which they come.
-/

namespace ContentBlocker

/-- An index and those who hold it. -/
structure SharedIndex where
  snapshot : Snapshot
  /-- whether a hook is told that nobody holds the index any more -/
  hasHook : Bool
  /-- whether the stored form is to be removed -/
  isMarked : Bool
  /-- whether each handle is still held -/
  handles : Array Bool
  /-- each subscription that still holds the index -/
  subscriptions : Array (Option Subscription)
  /-- what the hook was told: a size, and whether to remove -/
  released : Array (Nat × Bool)

namespace SharedIndex

/-- An index held by one handle. -/
def create (snapshot : Snapshot) (hasHook : Bool) : SharedIndex :=
  { snapshot, hasHook, isMarked := false, handles := #[true], subscriptions := #[]
    released := #[] }

/-- Whether a handle is still held. -/
def holds (x : SharedIndex) (handle : Nat) : Bool := x.handles.getD handle false

/-- The subscription with a number, if it still holds the index. -/
def subscription? (x : SharedIndex) (number : Nat) : Option Subscription :=
  x.subscriptions[number]?.join

/-- Whether anyone holds the index. -/
def isHeld (x : SharedIndex) : Bool := x.handles.any id || x.subscriptions.any Option.isSome

/-- Tells the hook if nobody holds the index any more. -/
def notify (x : SharedIndex) : SharedIndex :=
  if !x.isHeld ∧ x.hasHook then
    { x with released := x.released.push (x.snapshot.data.size, x.isMarked) }
  else x

/-- Makes another handle from one that is held. -/
def clone (x : SharedIndex) (handle : Nat) : SharedIndex :=
  if x.holds handle then { x with handles := x.handles.push true } else x

/-- Lets go of a handle. -/
def drop (x : SharedIndex) (handle : Nat) : SharedIndex :=
  if x.holds handle then { x with handles := x.handles.setIfInBounds handle false }.notify else x

/-- Asks through a handle that the stored form be removed. -/
def mark (x : SharedIndex) (handle : Nat) : SharedIndex :=
  if x.holds handle then { x with isMarked := true } else x

/-- Installs the index through a handle; the subscription holds it from then on. -/
def install [RegexEngine] (x : SharedIndex) (handle : Nat) (state : InstallationState)
    (queries : QueryState) : SharedIndex × QueryState :=
  if x.holds handle then
    let (s, queries) := Subscription.install x.snapshot defaultCapacity state 0 queries
    ({ x with subscriptions := x.subscriptions.push (some s) }, queries)
  else (x, queries)

/-- Asks through a subscription that the stored form be removed. -/
def markSubscription (x : SharedIndex) (number : Nat) : SharedIndex :=
  if (x.subscription? number).isSome then { x with isMarked := true } else x

/-- Lets go of a subscription. -/
def dropSubscription (x : SharedIndex) (number : Nat) : SharedIndex :=
  if (x.subscription? number).isSome then
    { x with subscriptions := x.subscriptions.setIfInBounds number none }.notify
  else x

/-- A shared index in words. -/
def summary (x : SharedIndex) : Text :=
  let word (b : Bool) : Text := if b then "true" else "false"
  "CompiledIndex \x7b bytes: " ++ Nat.toDigits 10 x.snapshot.data.size ++ ", has_release_hook: " ++
    word x.hasHook ++ ", permanently_remove: " ++ word x.isMarked ++ " \x7d"

end SharedIndex

end ContentBlocker
