import ContentBlocker.Pattern.Cache
import ContentBlocker.Reference.Engine
import Mathlib.Data.List.Basic
/-!
# What a pattern cache keeps

A cache answers every call as compiling the source afresh would. Of the different requests made so
far it keeps the first, as many as there is room for, and no others; a request is a source with its
case mode. Patterns and alternations are kept by this rule apart from each other.
-/

namespace ContentBlocker

/-- A source whose compiled form is asked for, and whether case counts. -/
abbrev PatternRequest := Text × Bool

/-- The first `n` different requests. -/
def firstRequests (n : Nat) (requests : List PatternRequest) : List PatternRequest :=
  requests.eraseDups.take n

section FirstRequests

variable {n : Nat} {requests : List PatternRequest}

theorem length_firstRequests_le : (firstRequests n requests).length ≤ n := by
  unfold firstRequests
  exact List.length_take_le _ _

/-- Once `n` different requests have been made, no further one is among the first. -/
theorem firstRequests_append_of_full (full : n ≤ (firstRequests n requests).length)
    (more : List PatternRequest) :
    firstRequests n (requests ++ more) = firstRequests n requests := by
  unfold firstRequests at full ⊢
  rw [List.length_take] at full
  rw [List.eraseDups_append, List.take_append_of_le_length (by omega)]

theorem firstRequests_append_of_mem {request : PatternRequest} (old : request ∈ requests) :
    firstRequests n (requests ++ [request]) = firstRequests n requests := by
  have nothing : [request].removeAll requests = [] := by
    simp [List.removeAll, old]
  unfold firstRequests
  rw [List.eraseDups_append, nothing, List.eraseDups_nil, List.append_nil]

/-- As long as fewer than `n` different requests have been made, a new one joins the first. -/
theorem firstRequests_append_of_room {request : PatternRequest}
    (room : (firstRequests n requests).length < n) (new : request ∉ firstRequests n requests) :
    firstRequests n (requests ++ [request]) = firstRequests n requests ++ [request] := by
  unfold firstRequests at room new ⊢
  rw [List.length_take] at room
  have all : requests.eraseDups.take n = requests.eraseDups := List.take_of_length_le (by omega)
  rw [all] at new ⊢
  rw [List.mem_eraseDups] at new
  have single : [request].removeAll requests = [request] := by
    simp [List.removeAll, new]
  have alone : [request].eraseDups = [request] := by
    simp [List.eraseDups_cons]
  rw [List.eraseDups_append, single, alone]
  refine List.take_of_length_le ?_
  rw [List.length_append, List.length_singleton]
  omega

end FirstRequests

namespace PatternStore

variable [RegexEngine]

theorem find?_insert {store : PatternStore} {source : Text} {matchCase : Bool} {p : CompiledPattern}
    (hp : p = CompiledPattern.compile source matchCase) (request : PatternRequest) :
    (store.insert source matchCase p hp).find? request.1 request.2 =
      if request = (source, matchCase) then some p else store.find? request.1 request.2 := by
  obtain ⟨other, mode⟩ := request
  cases matchCase <;> cases mode <;>
    simp [insert, find?, Std.TreeMap.getElem?_insert, eq_comm (a := other)]

/-- Keeping a source that is not kept yet takes the room of one. -/
theorem size_insert {store : PatternStore} {source : Text} {matchCase : Bool} {p : CompiledPattern}
    (hp : p = CompiledPattern.compile source matchCase)
    (new : store.find? source matchCase = none) :
    (store.insert source matchCase p hp).size = store.size + 1 := by
  cases matchCase with
  | true =>
    have absent : source ∉ store.exact := by
      simpa [find?] using new
    simp [insert, size, Std.TreeMap.size_insert, absent, Nat.add_assoc]
  | false =>
    have absent : source ∉ store.folded := by
      simpa [find?] using new
    simp [insert, size, Std.TreeMap.size_insert, absent, Nat.add_right_comm]

/-- The store has room for `capacity` patterns and keeps the first of the requests. -/
structure Retains (store : PatternStore) (capacity : Nat) (requests : List PatternRequest) :
    Prop where
  room : store.capacity = capacity
  size : store.size = (firstRequests capacity requests).length
  keeps : ∀ request : PatternRequest,
    (store.find? request.1 request.2).isSome ↔ request ∈ firstRequests capacity requests

theorem retains_empty (capacity : Nat) : (empty capacity).Retains capacity [] where
  room := rfl
  size := by simp [firstRequests, empty, size]
  keeps := by
    rintro ⟨source, _ | _⟩ <;> simp [firstRequests, empty, find?]

variable {store : PatternStore} {capacity : Nat} {requests : List PatternRequest}

theorem Retains.size_le (h : store.Retains capacity requests) : store.size ≤ capacity := by
  rw [h.size]
  exact length_firstRequests_le

/-- A full store keeps what it has, whatever else is asked for. -/
theorem Retains.append_of_full (h : store.Retains capacity requests) (full : capacity ≤ store.size)
    (more : List PatternRequest) : store.Retains capacity (requests ++ more) := by
  rw [h.size] at full
  have same := firstRequests_append_of_full full more
  exact ⟨h.room, by rw [same, h.size], by rw [same]; exact h.keeps⟩

/-- One request: what is kept already stays, a new pattern is kept if there is room, and a full
store is left as it is. -/
theorem Retains.get (h : store.Retains capacity requests) (source : Text) (matchCase : Bool) :
    (store.get source matchCase).2.2.Retains capacity (requests ++ [(source, matchCase)]) := by
  unfold PatternStore.get
  cases found : store.find? source matchCase with
  | some p =>
    have kept := (h.keeps (source, matchCase)).1 (by simp [found])
    have old : (source, matchCase) ∈ requests := by
      rw [← List.mem_eraseDups]
      exact List.mem_of_mem_take kept
    have same := firstRequests_append_of_mem (n := capacity) old
    exact ⟨h.room, by rw [same, h.size], by rw [same]; exact h.keeps⟩
  | none =>
    have new : (source, matchCase) ∉ firstRequests capacity requests := by
      intro kept
      have := (h.keeps (source, matchCase)).2 kept
      simp [found] at this
    dsimp only
    by_cases room : store.size < store.capacity
    · rw [if_pos room]
      rw [h.room, h.size] at room
      have grown := firstRequests_append_of_room room new
      refine ⟨?_, ?_, fun request => ?_⟩
      · rw [← h.room]
        cases matchCase <;> rfl
      · rw [size_insert rfl found, grown, h.size]
        simp
      · rw [find?_insert, grown, List.mem_append, List.mem_singleton, ← h.keeps request]
        by_cases same : request = (source, matchCase) <;> simp [same]
    · rw [if_neg room]
      rw [h.room] at room
      exact h.append_of_full (by omega) _

end PatternStore

namespace PatternCache

/-- A call on a cache. -/
inductive Call where
  | get (source : Text) (matchCase : Bool)
  | isMatch (source : Text) (matchCase : Bool) (url : Text)
  | prebuild (patterns : List PatternRequest)
  | getAlternation (source : Text) (matchCase : Bool)
  deriving DecidableEq, Repr

/-- What a call answers. -/
inductive Answer [RegexEngine] where
  | pattern (p : CompiledPattern)
  | found (hit : Bool)
  /-- the patterns have been compiled ahead -/
  | done

section

variable [RegexEngine]

namespace Call

/-- Makes a call. -/
def run (cache : PatternCache) : Call → Answer × PatternCache
  | get source matchCase =>
    let (p, _, cache) := cache.get source matchCase
    (.pattern p, cache)
  | isMatch source matchCase url =>
    let (hit, _, cache) := cache.isMatch source matchCase url
    (.found hit, cache)
  | prebuild patterns =>
    let (_, cache) := cache.prebuild patterns
    (.done, cache)
  | getAlternation source matchCase =>
    let (p, _, cache) := cache.getAlternation source matchCase
    (.pattern p, cache)

/-- What a call would answer if everything were compiled afresh. -/
def fresh : Call → Answer
  | get source matchCase => .pattern (.compile source matchCase)
  | isMatch source matchCase url => .found ((CompiledPattern.compile source matchCase).isMatch url)
  | prebuild _ => .done
  | getAlternation source matchCase => .pattern (.compile source matchCase)

/-- The patterns that a call asks for. -/
def patternRequests : Call → List PatternRequest
  | get source matchCase => [(source, matchCase)]
  | isMatch source matchCase _ => [(source, matchCase)]
  | prebuild patterns => patterns.filter fun (source, _) => source ≠ []
  | getAlternation _ _ => []

/-- The alternations that a call asks for. -/
def alternationRequests : Call → List PatternRequest
  | get _ _ => []
  | isMatch _ _ _ => []
  | prebuild _ => []
  | getAlternation source matchCase => [(source, matchCase)]

/-- Makes calls in turn. -/
def runAll (cache : PatternCache) : List Call → List Answer × PatternCache
  | [] => ([], cache)
  | call :: rest =>
    let (answer, cache) := call.run cache
    let (answers, cache) := runAll cache rest
    (answer :: answers, cache)

end Call

/-- Both stores of the cache have room for `capacity` and keep the first of their requests. -/
structure Retains (cache : PatternCache) (capacity : Nat)
    (patterns alternations : List PatternRequest) : Prop where
  patterns : cache.patterns.Retains capacity patterns
  alternations : cache.alternations.Retains capacity alternations

variable {cache : PatternCache} {capacity : Nat} {patterns alternations : List PatternRequest}

/-- Compiling patterns ahead asks for each that is not empty: where it stops early the cache is
full, so that the patterns left out would not have been kept. -/
theorem Retains.prebuild (h : cache.Retains capacity patterns alternations)
    (ahead : List PatternRequest) :
    (cache.prebuild ahead).2.Retains capacity
      (patterns ++ ahead.filter fun (source, _) => source ≠ []) alternations := by
  induction ahead generalizing cache patterns with
  | nil => simpa [PatternCache.prebuild] using h
  | cons request rest ih =>
    obtain ⟨source, matchCase⟩ := request
    unfold PatternCache.prebuild
    by_cases blank : source = []
    · simpa [blank] using ih h
    · by_cases room : cache.size < cache.capacity
      · have asked : (cache.get source matchCase).2.2.Retains capacity
            (patterns ++ [(source, matchCase)]) alternations :=
          ⟨h.patterns.get source matchCase, h.alternations⟩
        simpa [blank, room, List.append_assoc] using ih asked
      · have full : capacity ≤ cache.patterns.size := by
          have := h.patterns.room
          simp only [size, PatternCache.capacity] at room
          omega
        simpa [blank, room] using
          (⟨h.patterns.append_of_full full _, h.alternations⟩ : cache.Retains capacity _ _)

/-- One call answers as compiling afresh would, and its requests are taken into account. -/
theorem Retains.run (h : cache.Retains capacity patterns alternations) (call : Call) :
    (call.run cache).1 = call.fresh ∧
      (call.run cache).2.Retains capacity (patterns ++ call.patternRequests)
        (alternations ++ call.alternationRequests) := by
  cases call with
  | get source matchCase =>
    have compiled := cache.patterns.get_fst source matchCase
    refine ⟨congrArg Answer.pattern compiled, h.patterns.get source matchCase, ?_⟩
    rw [Call.alternationRequests, List.append_nil]
    exact h.alternations
  | isMatch source matchCase url =>
    have compiled := cache.patterns.get_fst source matchCase
    refine ⟨?_, h.patterns.get source matchCase, ?_⟩
    · rw [Call.fresh, ← compiled]
      rfl
    · rw [Call.alternationRequests, List.append_nil]
      exact h.alternations
  | prebuild ahead =>
    refine ⟨rfl, ?_⟩
    rw [Call.alternationRequests, List.append_nil]
    exact h.prebuild ahead
  | getAlternation source matchCase =>
    have compiled := cache.alternations.get_fst source matchCase
    refine ⟨congrArg Answer.pattern compiled, ?_, h.alternations.get source matchCase⟩
    rw [Call.patternRequests, List.append_nil]
    exact h.patterns

/-- Calls made in turn answer as compiling afresh would, and their requests add up. -/
theorem Retains.runAll (h : cache.Retains capacity patterns alternations) (calls : List Call) :
    (Call.runAll cache calls).1 = calls.map Call.fresh ∧
      (Call.runAll cache calls).2.Retains capacity
        (patterns ++ calls.flatMap Call.patternRequests)
        (alternations ++ calls.flatMap Call.alternationRequests) := by
  induction calls generalizing cache patterns alternations with
  | nil => exact ⟨rfl, by simpa [Call.runAll] using h⟩
  | cons call rest ih =>
    obtain ⟨answered, retains⟩ := h.run call
    obtain ⟨allAnswered, allRetains⟩ := ih retains
    refine ⟨?_, ?_⟩
    · rw [List.map_cons, ← answered, ← allAnswered]
      rfl
    · rw [List.flatMap_cons, List.flatMap_cons, ← List.append_assoc, ← List.append_assoc]
      exact allRetains

/-- However many calls have been made on a cache, each was answered as compiling afresh would. There
are never more patterns, and never more alternations, than the cache has room for; those kept are
the first different ones asked for. Getting an alternation leaves the patterns as they are. -/
theorem runAll_ofCapacity (capacity : Nat) (calls : List Call) :
    (Call.runAll (ofCapacity capacity) calls).1 = calls.map Call.fresh ∧
      let cache := (Call.runAll (ofCapacity capacity) calls).2
      cache.patterns.size ≤ capacity ∧ cache.alternations.size ≤ capacity ∧
      (∀ source matchCase, (cache.patterns.find? source matchCase).isSome ↔
        (source, matchCase) ∈ firstRequests capacity (calls.flatMap Call.patternRequests)) ∧
      (∀ source matchCase, (cache.alternations.find? source matchCase).isSome ↔
        (source, matchCase) ∈ firstRequests capacity (calls.flatMap Call.alternationRequests)) ∧
      ∀ source matchCase,
        (cache.getAlternation source matchCase).2.2.patterns = cache.patterns := by
  have start : (ofCapacity capacity).Retains capacity [] [] :=
    ⟨PatternStore.retains_empty capacity, PatternStore.retains_empty capacity⟩
  obtain ⟨answered, retains⟩ := start.runAll calls
  refine ⟨answered, retains.patterns.size_le, retains.alternations.size_le, ?_, ?_, ?_⟩
  · intro source matchCase
    exact retains.patterns.keeps (source, matchCase)
  · intro source matchCase
    exact retains.alternations.keeps (source, matchCase)
  · intro source matchCase
    rfl

end

/-- A cache with room for one keeps the first pattern and the first alternation. -/
example :
    let cache := (Call.runAll (ofCapacity 1)
      [.prebuild [([], true), ("ad", false)], .get "ad" true, .getAlternation "ad" true]).2
    (cache.patterns.find? "ad" false).isSome ∧ (cache.patterns.find? "ad" true).isNone ∧
      (cache.alternations.find? "ad" true).isSome := by
  decide +kernel

end PatternCache

end ContentBlocker
