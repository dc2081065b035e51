import ContentBlocker.Matching.Find
import ContentBlocker.Proofs.Host.Domain
import Mathlib.Data.List.Forall2
/-!
# What queries answer

`Query.Gives q a` says that `q` answers `a` in every state of the caches. Caches keep only what
compiling yields, so what a query finds does not depend on them; the state decides what is reported
and what is compiled again, and nothing else.
-/

namespace ContentBlocker

theorem filterM_ok {α ε : Type} {p : α → Except ε Bool} {holds : α → Bool} {as : List α}
    (answers : ∀ a ∈ as, p a = .ok (holds a)) : as.filterM p = .ok (as.filter holds) := by
  have collect : ∀ (rest kept : List α), (∀ a ∈ rest, p a = .ok (holds a)) →
      List.filterAuxM p rest kept = .ok ((rest.filter holds).reverse ++ kept) := by
    intro rest
    induction rest with
    | nil => exact fun _ _ => rfl
    | cons a rest ih =>
      intro kept answers
      rw [List.filterAuxM, answers a List.mem_cons_self]
      refine (ih _ fun b member => answers b (List.mem_cons_of_mem _ member)).trans ?_
      cases here : holds a <;> simp [here]
  rw [List.filterM, collect as [] answers, List.append_nil]
  exact congrArg Except.ok (List.reverse_reverse _)

theorem flatMapM_ok {α β ε : Type} {f : α → Except ε (List β)} {found : α → List β} {as : List α}
    (answers : ∀ a ∈ as, f a = .ok (found a)) : as.flatMapM f = .ok (as.flatMap found) := by
  induction as with
  | nil => rfl
  | cons a rest ih =>
    rw [List.flatMapM_cons, answers a List.mem_cons_self,
      ih fun b member => answers b (List.mem_cons_of_mem _ member)]
    rfl

namespace Query

variable [RegexEngine] {α β : Type}

/-- The query answers `a`, whatever the caches hold. -/
def Gives (q : Query α) (a : α) : Prop := ∀ state, (q.run.run state).1 = .ok a

theorem gives_pure (a : α) : Gives (pure a) a := fun _ => rfl

theorem gives_ok (a : α) : Gives (liftM (Except.ok a : Except Host.Fault α)) a := fun _ => rfl

theorem gives_bind {q : Query α} {f : α → Query β} {a : α} {b : β} (h : q.Gives a)
    (h' : (f a).Gives b) : Gives (q >>= f) b := by
  intro state
  have first := h state
  have second := h' (q.run.run state).2
  rw [ExceptT.run_bind, StateT.run_bind]
  rcases answered : q.run.run state with ⟨answer, state'⟩
  rw [answered] at first second
  cases first
  exact second

/-- A query that uses a cache answers what the use yields, if that is the same for all caches. -/
theorem gives_onCache {slot : Nat} {use : PatternCache → α × List Event × PatternCache} {a : α}
    (same : ∀ cache, (use cache).1 = a) : (onCache slot use).Gives a :=
  fun state => congrArg Except.ok (same (state.cache slot))

theorem gives_filterM {p : α → Query Bool} {holds : α → Bool} {as : List α}
    (answers : ∀ a ∈ as, (p a).Gives (holds a)) : Gives (as.filterM p) (as.filter holds) := by
  have collect : ∀ (rest kept : List α), (∀ a ∈ rest, (p a).Gives (holds a)) →
      Gives (List.filterAuxM p rest kept) ((rest.filter holds).reverse ++ kept) := by
    intro rest
    induction rest with
    | nil => exact fun kept _ => gives_pure kept
    | cons a rest ih =>
      intro kept answers
      rw [List.filterAuxM]
      refine gives_bind (answers a List.mem_cons_self) ?_
      have later := ih (bif holds a then a :: kept else kept) fun b member =>
        answers b (List.mem_cons_of_mem _ member)
      cases here : holds a <;> simpa [here] using later
  rw [List.filterM]
  refine gives_bind (collect as [] answers) ?_
  rw [List.append_nil, List.reverse_reverse]
  exact gives_pure _

theorem gives_findM? {p : α → Query Bool} {holds : α → Bool} {as : List α}
    (answers : ∀ a ∈ as, (p a).Gives (holds a)) : Gives (as.findM? p) (as.find? holds) := by
  induction as with
  | nil => exact gives_pure _
  | cons a rest ih =>
    rw [List.findM?, List.find?_cons]
    refine gives_bind (answers a List.mem_cons_self) ?_
    cases holds a with
    | true => exact gives_pure _
    | false => exact ih fun b member => answers b (List.mem_cons_of_mem _ member)

theorem gives_flatMapM {f : α → Query (List β)} {g : α → List β} {as : List α}
    (answers : ∀ a ∈ as, (f a).Gives (g a)) : Gives (as.flatMapM f) (as.flatMap g) := by
  induction as with
  | nil => exact gives_pure _
  | cons a rest ih =>
    rw [List.flatMapM_cons, List.flatMap_cons]
    refine gives_bind (answers a List.mem_cons_self) ?_
    exact gives_bind (ih fun b member => answers b (List.mem_cons_of_mem _ member)) (gives_pure _)

theorem gives_firstSome {qs : List (Query (Option α))} {answers : List (Option α)}
    (h : List.Forall₂ Gives qs answers) : Gives (firstSome qs) (answers.findSome? id) := by
  induction h with
  | nil => exact gives_pure _
  | @cons q answer _ _ first _ ih =>
    rw [firstSome, List.findSome?_cons]
    refine gives_bind first ?_
    cases answer with
    | none => exact ih
    | some a => exact gives_pure _

end Query

namespace IndexedUrl

/-- Whether the pattern of a filter matches an address. -/
def matchesUrl [RegexEngine] (filter : IndexedUrl) (url : Text) : Bool :=
  (CompiledPattern.compile filter.source filter.matchCase).isMatch url

/-- Whether all other conditions of a filter hold, where that is decided. -/
def viable [Host.SuffixList] (filter : IndexedUrl) (query : UrlQuery) : Bool :=
  match filter.isViable query with
  | .ok found => found
  | .error _ => false

theorem isViable_ok [Host.SuffixList] (filter : IndexedUrl) {query : UrlQuery}
    (noEndDot : query.document.getLast? ≠ some '.') :
    filter.isViable query = .ok (filter.viable query) := by
  have decided : ∃ found, filter.isViable query = .ok found := by
    rw [isViable]
    repeat' split
    · exact ⟨_, rfl⟩
    · exact ⟨_, rfl⟩
    · exact ⟨_, rfl⟩
    · exact filter.lists.isActiveFor_ok query.sitekey noEndDot
  obtain ⟨found, eq⟩ := decided
  rw [viable, eq]

end IndexedUrl

namespace Query

/-- A test answers whether the pattern matches, whether it was compiled before or not. -/
theorem gives_test [RegexEngine] (slot : Nat) (url : Text) (filter : IndexedUrl) :
    (test slot url filter).Gives (filter.matchesUrl url) := by
  refine gives_onCache fun cache => ?_
  have compiled := cache.patterns.get_fst filter.source filter.matchCase
  rw [IndexedUrl.matchesUrl, ← compiled]
  rfl

/-- Two filters or more are merged into an alternation, and its answer counts, whether it was
compiled before or not. -/
theorem gives_merged [RegexEngine] (slot : Nat) (url : Text) (matchCase : Bool)
    (first second : IndexedUrl) (rest : List IndexedUrl) :
    let group := first :: second :: rest
    let p := CompiledPattern.compile (alternation (group.map IndexedUrl.source)) matchCase
    (groupMayMatch slot url matchCase group).Gives
      (mergedAnswer group.length p (p.tryMatch url)).1 := by
  intro group p
  refine gives_onCache fun cache => ?_
  have compiled :=
    cache.alternations.get_fst (alternation (group.map IndexedUrl.source)) matchCase
  simp only [p]
  rw [← compiled]
  rfl

/-- The filters of a sub-index under a word that are viable. -/
def candidatesUnder [Host.SuffixList] (s : Snapshot) (index : SubIndex) (query : UrlQuery)
    (keyword : Text) : List IndexedUrl :=
  ((s.lookup index keyword).filterMap fun id => s.url? id.toNat).filter (·.viable query)

theorem candidates_ok [Host.SuffixList] (s : Snapshot) (index : SubIndex) {query : UrlQuery}
    (keyword : Text) (noEndDot : query.document.getLast? ≠ some '.') :
    s.candidates index query keyword = .ok (candidatesUnder s index query keyword) :=
  filterM_ok fun filter _ => filter.isViable_ok noEndDot

/-- What testing every candidate finds. -/
theorem gives_findEach [RegexEngine] [Host.SuffixList] (s : Snapshot) (slot : Nat)
    (index : SubIndex) {query : UrlQuery} (noEndDot : query.document.getLast? ≠ some '.')
    (keys : s.keyCount index ≠ 0) :
    (findEach s slot index query).Gives (query.keywords.flatMap fun keyword =>
      (candidatesUnder s index query keyword).filter (·.matchesUrl query.url)) := by
  rw [findEach, if_neg keys]
  refine gives_flatMapM fun keyword _ => ?_
  rw [candidates_ok s index keyword noEndDot]
  refine gives_bind (gives_ok _) ?_
  exact gives_filterM fun filter _ => gives_test slot query.url filter

end Query

end ContentBlocker
