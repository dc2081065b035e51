import ContentBlocker.Pattern.Compiled
import Std.Data.TreeMap
/-!
# The pattern cache

Compiled patterns are kept for later searches, up to a fixed number; what is asked for when no room
is left is compiled for the one use. Nothing is ever dropped. The patterns of single filters and the
alternations made of several are kept apart, each up to the same number, so that alternations never
take the room of patterns. A source counts twice if it is asked for with and without regard to case.
-/

namespace ContentBlocker

/-- A store of compiled patterns with room for `capacity` of them. What it keeps for a source is
what compiling the source yields. -/
structure PatternStore [RegexEngine] where
  capacity : Nat
  /-- those that match without regard to case, by source -/
  folded : Std.TreeMap Text CompiledPattern
  /-- those that match with regard to case, by source -/
  exact : Std.TreeMap Text CompiledPattern
  eq_of_folded : ∀ source p, folded[source]? = some p → p = CompiledPattern.compile source false
  eq_of_exact : ∀ source p, exact[source]? = some p → p = CompiledPattern.compile source true

section

variable [RegexEngine]

namespace PatternStore

/-- A store that keeps nothing yet. -/
def empty (capacity : Nat) : PatternStore where
  capacity
  folded := ∅
  exact := ∅
  eq_of_folded := by simp
  eq_of_exact := by simp

/-- How many patterns are kept. -/
def size (store : PatternStore) : Nat := store.folded.size + store.exact.size

/-- The kept form of a source. -/
def find? (store : PatternStore) (source : Text) (matchCase : Bool) : Option CompiledPattern :=
  if matchCase then store.exact[source]? else store.folded[source]?

theorem eq_of_find? {store : PatternStore} {source : Text} {matchCase : Bool}
    {p : CompiledPattern} (h : store.find? source matchCase = some p) :
    p = CompiledPattern.compile source matchCase := by
  cases matchCase with
  | false => exact store.eq_of_folded source p h
  | true => exact store.eq_of_exact source p h

theorem eq_of_insert {kept : Std.TreeMap Text CompiledPattern} {matchCase : Bool}
    (h : ∀ source p, kept[source]? = some p → p = CompiledPattern.compile source matchCase)
    {added : Text} {q : CompiledPattern} (hq : q = CompiledPattern.compile added matchCase)
    (source : Text) (p : CompiledPattern) (hp : (kept.insert added q)[source]? = some p) :
    p = CompiledPattern.compile source matchCase := by
  rw [Std.TreeMap.getElem?_insert] at hp
  split at hp
  · rename_i same
    cases hp
    rw [hq, Std.LawfulEqCmp.eq_of_compare same]
  · exact h source p hp

/-- Keeps the compiled form of a source, whether there is room or not. -/
def insert (store : PatternStore) (source : Text) (matchCase : Bool) (p : CompiledPattern)
    (hp : p = CompiledPattern.compile source matchCase) : PatternStore :=
  match matchCase with
  | true =>
    { store with
      exact := store.exact.insert source p
      eq_of_exact := eq_of_insert store.eq_of_exact hp }
  | false =>
    { store with
      folded := store.folded.insert source p
      eq_of_folded := eq_of_insert store.eq_of_folded hp }

/-- The compiled form of a source, what getting it reports, and the store afterwards. -/
def get (store : PatternStore) (source : Text) (matchCase : Bool) :
    CompiledPattern × List Event × PatternStore :=
  match store.find? source matchCase with
  | some p => (p, [], store)
  | none =>
    let p := CompiledPattern.compile source matchCase
    let store :=
      if store.size < store.capacity then store.insert source matchCase p rfl else store
    (p, p.compileEvents source, store)

theorem get_fst (store : PatternStore) (source : Text) (matchCase : Bool) :
    (store.get source matchCase).1 = CompiledPattern.compile source matchCase := by
  unfold get
  split
  · rename_i h
    exact eq_of_find? h
  · rfl

end PatternStore

/-- The number of patterns a cache keeps unless told otherwise. -/
def defaultCapacity : Nat := 1000

/-- A cache of patterns and of alternations. -/
structure PatternCache where
  patterns : PatternStore
  alternations : PatternStore

namespace PatternCache

/-- An empty cache. -/
def ofCapacity (capacity : Nat) : PatternCache := ⟨.empty capacity, .empty capacity⟩

/-- The number of patterns, and of alternations, that the cache keeps. -/
def capacity (cache : PatternCache) : Nat := cache.patterns.capacity

/-- How many patterns are kept. -/
def size (cache : PatternCache) : Nat := cache.patterns.size

/-- The pattern of a filter. -/
def get (cache : PatternCache) (source : Text) (matchCase : Bool) :
    CompiledPattern × List Event × PatternCache :=
  let (p, events, patterns) := cache.patterns.get source matchCase
  (p, events, { cache with patterns })

/-- The alternation of several patterns. -/
def getAlternation (cache : PatternCache) (source : Text) (matchCase : Bool) :
    CompiledPattern × List Event × PatternCache :=
  let (p, events, alternations) := cache.alternations.get source matchCase
  (p, events, { cache with alternations })

/-- Whether a pattern matches, what finding out reports, and the cache afterwards. -/
def isMatch (cache : PatternCache) (source : Text) (matchCase : Bool) (s : Text) :
    Bool × List Event × PatternCache :=
  let (p, events, cache) := cache.get source matchCase
  (p.isMatch s, events ++ p.matchEvents s, cache)

/-- Compiles patterns before they are needed, as long as there is room; empty ones are left out. -/
def prebuild (cache : PatternCache) : List (Text × Bool) → List Event × PatternCache
  | [] => ([], cache)
  | (source, matchCase) :: rest =>
    if source = [] then cache.prebuild rest
    else if cache.size < cache.capacity then
      let (_, events, cache) := cache.get source matchCase
      let (more, cache) := cache.prebuild rest
      (events ++ more, cache)
    else ([], cache)

/-- The sizes of a cache in words. -/
def summary (cache : PatternCache) : Text :=
  "RegexCache \x7b capacity: " ++ Event.digits cache.capacity ++ ", len: " ++
    Event.digits cache.size ++ ", alternations: " ++ Event.digits cache.alternations.size ++ " \x7d"

end PatternCache

end

end ContentBlocker
