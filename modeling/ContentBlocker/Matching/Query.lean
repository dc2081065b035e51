import ContentBlocker.Host.Domain
import ContentBlocker.Index.View
import ContentBlocker.Pattern.Cache
/-!
# Queries

A query reads an index that does not change, and shares caches of compiled patterns with other
queries. It may break off where a comparison of domains does. What it has put into the caches, and
what it has reported, stays even then.
-/

namespace ContentBlocker

/-- What queries share. -/
structure QueryState [RegexEngine] where
  caches : Array PatternCache
  events : Array Event

/-- A computation that shares caches, reports events and may break off. -/
abbrev Query [RegexEngine] : Type → Type := ExceptT Host.Fault (StateM QueryState)

section

variable [RegexEngine]

namespace QueryState

/-- Nothing cached and nothing reported. -/
def empty : QueryState := ⟨#[], #[]⟩

/-- A cache by number; one that is not there has no room for anything. -/
def cache (state : QueryState) (slot : Nat) : PatternCache :=
  state.caches.getD slot (.ofCapacity 0)

end QueryState

namespace Query

/-- Reports events. -/
def report (events : List Event) : Query Unit :=
  modify fun state => { state with events := state.events ++ events }

/-- Uses a cache. -/
def onCache {α : Type} (slot : Nat) (use : PatternCache → α × List Event × PatternCache) :
    Query α :=
  modifyGet fun state =>
    let (a, events, cache) := use (state.cache slot)
    (a, ⟨state.caches.setIfInBounds slot cache, state.events ++ events⟩)

/-- The first answer that one of several queries gives; those behind it are not made. -/
def firstSome {α : Type} : List (Query (Option α)) → Query (Option α)
  | [] => pure none
  | query :: rest => do
    match ← query with
    | some a => pure (some a)
    | none => firstSome rest

end Query

end

end ContentBlocker
