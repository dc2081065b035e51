import ContentBlocker.Proofs.Matching.Answers
/-!
# Two runs of queries

`Query.Relates R q q'` compares what two queries answer, each in a state of its own, as long as
neither breaks off. A query that is related to itself by equality answers the same in every state;
all searches for filters are such queries. A search that leaves out generic filters finds no more
than one that does not.
-/

namespace ContentBlocker

/-- Tests of which none breaks off keep the items that pass. -/
theorem mem_of_filterM_eq_ok {α ε : Type} {p : α → Except ε Bool} {as bs : List α}
    (h : as.filterM p = .ok bs) (a : α) : a ∈ bs ↔ a ∈ as ∧ p a = .ok true := by
  have collect : ∀ (rest kept result : List α), List.filterAuxM p rest kept = .ok result →
      (a ∈ result ↔ (a ∈ rest ∧ p a = .ok true) ∨ a ∈ kept) := by
    intro rest
    induction rest with
    | nil =>
      intro kept result h
      cases h
      simp
    | cons first rest ih =>
      intro kept result h
      rw [List.filterAuxM] at h
      cases tested : p first with
      | error fault =>
        rw [tested] at h
        cases h
      | ok holds =>
        rw [tested] at h
        rw [ih _ _ h, List.mem_cons]
        by_cases same : a = first
        · subst same
          cases holds <;> simp [tested]
        · cases holds <;> simp [same]
  rw [List.filterM] at h
  cases collected : List.filterAuxM p as [] with
  | error fault =>
    rw [collected] at h
    cases h
  | ok result =>
    rw [collected] at h
    cases h
    rw [List.mem_reverse, collect as [] result collected]
    simp

/-- Whether a sub-index has no keys, or no filters under any of them. -/
def Snapshot.IsVacant (s : Snapshot) (index : SubIndex) : Prop :=
  s.keyCount index = 0 ∨ ∀ key, s.lookup index key = []

/-- A filter that is viable where generic filters do not count is viable where they do. -/
theorem IndexedUrl.isViable_of_specific [Host.SuffixList] {filter : IndexedUrl} {query : UrlQuery}
    (h : filter.isViable { query with aim := .specificBlocking } = .ok true) :
    filter.isViable { query with aim := .blocking } = .ok true := by
  unfold isViable at h ⊢
  by_cases types : !query.contentTypes.all filter.contentTypes.meets
  · simp [types] at h
  · by_cases generic : filter.lists.isGeneric
    · simp [types, generic] at h
    · simpa [types, generic] using h

namespace Query

variable [RegexEngine] {α β γ δ : Type}

/-- Every answer of the query has a property. -/
def Ensures (q : Query α) (P : α → Prop) : Prop := ∀ state a, (q.run.run state).1 = .ok a → P a

/-- The query can give an answer. -/
def CanGive (q : Query α) (a : α) : Prop := ∃ state, (q.run.run state).1 = .ok a

/-- Answers of two queries are related, whatever the states in which each of them is made. -/
def Relates (R : α → β → Prop) (q : Query α) (q' : Query β) : Prop :=
  ∀ state state' a b, (q.run.run state).1 = .ok a → (q'.run.run state').1 = .ok b → R a b

/-- The query answers the same in every state. -/
abbrev Steady (q : Query α) : Prop := Relates Eq q q

theorem of_bind_eq_ok {q : Query α} {f : α → Query β} {state : QueryState} {b : β}
    (h : ((q >>= f).run.run state).1 = .ok b) :
    ∃ a, (q.run.run state).1 = .ok a ∧ ∃ state', ((f a).run.run state').1 = .ok b := by
  rw [ExceptT.run_bind, StateT.run_bind] at h
  rcases answered : q.run.run state with ⟨answer, state'⟩
  rw [answered] at h
  cases answer with
  | error fault => cases h
  | ok a => exact ⟨a, rfl, state', h⟩

section Rules

variable {R : α → β → Prop} {P : γ → δ → Prop} {q : Query α} {q' : Query β}

theorem ensures_pure {P : α → Prop} {a : α} (h : P a) : Ensures (pure a) P := by
  intro state b answered
  cases answered
  exact h

theorem ensures_bind {P : γ → Prop} {Q : α → Prop} {q : Query γ} {f : γ → Query α}
    (h : q.Ensures P) (h' : ∀ c, P c → (f c).Ensures Q) : (q >>= f).Ensures Q := by
  intro state a answered
  obtain ⟨c, first, state', second⟩ := of_bind_eq_ok answered
  exact h' c (h state c first) state' a second

theorem Ensures.mono {P Q : α → Prop} {q : Query α} (h : q.Ensures P) (h' : ∀ a, P a → Q a) :
    q.Ensures Q := fun state a answered => h' a (h state a answered)

theorem ensures_canGive (q : Query α) : q.Ensures q.CanGive := fun state _ answered =>
  ⟨state, answered⟩

theorem ensures_liftM (x : Except Host.Fault α) :
    (liftM x : Query α).Ensures fun a => x = .ok a := by
  intro state a answered
  cases x <;> exact answered

theorem relates_pure {a : α} {b : β} (h : R a b) : Relates R (pure a) (pure b) := by
  intro state state' a' b' answered answered'
  cases answered
  cases answered'
  exact h

theorem relates_bind {q : Query γ} {q' : Query δ} {f : γ → Query α} {f' : δ → Query β}
    (h : Relates P q q') (h' : ∀ c d, P c d → Relates R (f c) (f' d)) :
    Relates R (q >>= f) (q' >>= f') := by
  intro state state' a b answered answered'
  obtain ⟨c, first, next, second⟩ := of_bind_eq_ok answered
  obtain ⟨d, first', next', second'⟩ := of_bind_eq_ok answered'
  exact h' c d (h state state' c d first first') next next' a b second second'

/-- The first query takes a step that the second does not take. -/
theorem relates_bind_left {P : γ → Prop} {q : Query γ} {f : γ → Query α} (h : q.Ensures P)
    (h' : ∀ c, P c → Relates R (f c) q') : Relates R (q >>= f) q' := by
  intro state state' a b answered answered'
  obtain ⟨c, first, next, second⟩ := of_bind_eq_ok answered
  exact h' c (h state c first) next state' a b second answered'

/-- The first query does something with an answer that is related to the second one's. -/
theorem relates_bind_pure_left {S : γ → β → Prop} {q : Query γ} {f : γ → α} (h : Relates S q q')
    (h' : ∀ c b, S c b → R (f c) b) : Relates R (do return f (← q)) q' := by
  rw [← bind_pure q']
  exact relates_bind h fun c b related => relates_pure (h' c b related)

theorem relates_of_left (h : q.Ensures fun a => ∀ b, R a b) : Relates R q q' :=
  fun state _ a b answered _ => h state a answered b

theorem relates_of_right (h : q'.Ensures fun b => ∀ a, R a b) : Relates R q q' :=
  fun _ state' a b _ answered' => h state' b answered' a

/-- An answer that the second query can give is related to the first one's. -/
theorem Relates.pure_right (h : Relates R q q') {b : β} (given : q'.CanGive b) :
    Relates R q (pure b) := by
  intro state state' a b' answered answered'
  cases answered'
  obtain ⟨state'', given⟩ := given
  exact h state state'' a b answered given

/-- Every answer of the first query is related to an answer that the second query can give. -/
theorem Relates.ensures_left (h : Relates R q q') {b : β} (given : q'.CanGive b) :
    q.Ensures (R · b) := by
  obtain ⟨state', given⟩ := given
  exact fun state a answered => h state state' a b answered given

theorem Relates.mono {R' : α → β → Prop} (h : Relates R q q') (h' : ∀ a b, R a b → R' a b) :
    Relates R' q q' :=
  fun state state' a b answered answered' => h' a b (h state state' a b answered answered')

theorem Relates.and_ensures {P : β → Prop} (h : Relates R q q') (h' : q'.Ensures P) :
    Relates (fun a b => R a b ∧ P b) q q' :=
  fun state state' a b answered answered' =>
    ⟨h state state' a b answered answered', h' state' b answered'⟩

theorem Relates.and_ensures_left {P : α → Prop} (h : Relates R q q') (h' : q.Ensures P) :
    Relates (fun a b => R a b ∧ P a) q q' :=
  fun state state' a b answered answered' =>
    ⟨h state state' a b answered answered', h' state a answered⟩

theorem relates_liftM {x : Except Host.Fault α} {y : Except Host.Fault β}
    (h : ∀ a b, x = .ok a → y = .ok b → R a b) :
    Relates R (liftM x : Query α) (liftM y : Query β) := by
  intro state state' a b answered answered'
  refine h a b ?_ ?_
  · cases x <;> exact answered
  · cases y <;> exact answered'

theorem Gives.relates {a : α} {b : β} (h : q.Gives a) (h' : q'.Gives b) (related : R a b) :
    Relates R q q' := by
  intro state state' a' b' answered answered'
  rw [h state] at answered
  rw [h' state'] at answered'
  cases answered
  cases answered'
  exact related

theorem Gives.steady {a : α} (h : q.Gives a) : q.Steady := h.relates h rfl

theorem steady_pure (a : α) : (pure a : Query α).Steady := relates_pure rfl

theorem Steady.bind {q : Query γ} {f : γ → Query α} (h : q.Steady) (h' : ∀ c, (f c).Steady) :
    (q >>= f).Steady := by
  refine relates_bind h ?_
  rintro c _ rfl
  exact h' c

theorem steady_liftM (x : Except Host.Fault α) : (liftM x : Query α).Steady := by
  refine relates_liftM fun a b same same' => ?_
  rw [same] at same'
  cases same'
  rfl

theorem steady_findM? {p : α → Query Bool} (h : ∀ a, (p a).Steady) (as : List α) :
    (as.findM? p).Steady := by
  induction as with
  | nil => exact steady_pure none
  | cons a rest ih =>
    rw [List.findM?]
    refine (h a).bind fun holds => ?_
    cases holds with
    | true => exact steady_pure (some a)
    | false => exact ih

/-- Asking whether there is such an item is searching for it. -/
theorem anyM_eq_findM? (p : α → Query Bool) (as : List α) :
    as.anyM p = (do return (← as.findM? p).isSome) := by
  induction as with
  | nil => simp
  | cons a rest ih =>
    rw [List.anyM_cons, List.findM?, bind_assoc]
    refine bind_congr fun holds => ?_
    cases holds with
    | true => simp
    | false => exact ih

theorem steady_anyM {p : α → Query Bool} (h : ∀ a, (p a).Steady) (as : List α) :
    (as.anyM p).Steady := by
  rw [anyM_eq_findM?]
  exact (steady_findM? h as).bind fun _ => steady_pure _

theorem steady_firstSome {qs : List (Query (Option α))} (h : ∀ q ∈ qs, q.Steady) :
    (firstSome qs).Steady := by
  induction qs with
  | nil => exact steady_pure none
  | cons q rest ih =>
    rw [firstSome]
    refine (h q List.mem_cons_self).bind fun answer => ?_
    cases answer with
    | some a => exact steady_pure (some a)
    | none => exact ih fun other member => h other (List.mem_cons_of_mem _ member)

/-- What is collected from the same items is related if it is for each item, and if the relation
respects putting lists together. -/
theorem relates_flatMapM {ι : Type} {R : List α → List β → Prop} {f : ι → Query (List α)}
    {g : ι → Query (List β)} {items : List ι} (nil : R [] [])
    (append : ∀ as bs as' bs', R as bs → R as' bs' → R (as ++ as') (bs ++ bs'))
    (h : ∀ i ∈ items, Relates R (f i) (g i)) :
    Relates R (items.flatMapM f) (items.flatMapM g) := by
  induction items with
  | nil => exact relates_pure nil
  | cons i rest ih =>
    rw [List.flatMapM_cons, List.flatMapM_cons]
    refine relates_bind (h i List.mem_cons_self) fun as bs related => ?_
    refine relates_bind (ih fun j member => h j (List.mem_cons_of_mem _ member)) ?_
    exact fun as' bs' related' => relates_pure (append _ _ _ _ related related')

theorem steady_flatMapM {ι : Type} {f : ι → Query (List α)} (h : ∀ i, (f i).Steady)
    (items : List ι) : (items.flatMapM f).Steady := by
  refine relates_flatMapM rfl ?_ fun i _ => h i
  rintro as _ as' _ rfl rfl
  rfl

theorem relates_flatMapM_subset {ι : Type} {f g : ι → Query (List α)} {items : List ι}
    (h : ∀ i ∈ items, Relates (fun some all => some ⊆ all) (f i) (g i)) :
    Relates (fun some all => some ⊆ all) (items.flatMapM f) (items.flatMapM g) := by
  refine relates_flatMapM (fun _ => id) ?_ h
  intro as bs as' bs' subset subset'
  exact List.append_subset.2 ⟨List.Subset.trans subset (List.subset_append_left _ _),
    List.Subset.trans subset' (List.subset_append_right _ _)⟩

theorem steady_mapM {f : α → Query β} (h : ∀ a, (f a).Steady) (as : List α) :
    (as.mapM f).Steady := by
  induction as with
  | nil => exact steady_pure []
  | cons a rest ih =>
    rw [List.mapM_cons]
    exact (h a).bind fun _ => ih.bind fun _ => steady_pure _

theorem relates_firstSome {ι : Type} {f : ι → Query (Option α)} {g : ι → Query (Option β)}
    {items : List ι} (h : ∀ i ∈ items, Relates (fun a b => a.isSome → b.isSome) (f i) (g i)) :
    Relates (fun a b => a.isSome → b.isSome) (firstSome (items.map f))
      (firstSome (items.map g)) := by
  induction items with
  | nil => exact relates_pure id
  | cons i rest ih =>
    rw [List.map_cons, List.map_cons, firstSome, firstSome]
    refine relates_bind (h i List.mem_cons_self) fun answer answer' found => ?_
    cases answer' with
    | some b => exact relates_of_right (ensures_pure fun _ _ => rfl)
    | none =>
      cases answer with
      | some a => exact absurd (found rfl) Bool.false_ne_true
      | none => exact ih fun j member => h j (List.mem_cons_of_mem _ member)

end Rules

section Fewer

/-! Leaving out some of the items that are gone through. -/

variable {items fewer : List α}

/-- One more item changes what a search finds only if the search finds that item. -/
theorem relates_findM?_insert {p : α → Query Bool} (h : ∀ a, (p a).Steady) (a : α)
    (before after : List α) :
    Relates (fun found found' => found = found' ∨ (found = some a ∧ (p a).CanGive true))
      ((before ++ a :: after).findM? p) ((before ++ after).findM? p) := by
  induction before with
  | nil =>
    rw [List.nil_append, List.findM?]
    refine relates_bind_left (ensures_canGive (p a)) fun holds given => ?_
    cases holds with
    | true => exact relates_of_left (ensures_pure fun _ => .inr ⟨rfl, given⟩)
    | false => exact (steady_findM? h after).mono fun _ _ => .inl
  | cons first rest ih =>
    rw [List.cons_append, List.cons_append, List.findM?, List.findM?]
    refine relates_bind (h first) ?_
    rintro holds _ rfl
    cases holds with
    | true => exact relates_pure (.inl rfl)
    | false => exact ih

/-- An item that a search always passes over can be left out. -/
theorem relates_findM?_of_refused {p : α → Query Bool} (h : ∀ a, (p a).Steady) {a : α}
    (refused : (p a).Ensures (· = false)) (before after : List α) :
    Relates Eq ((before ++ a :: after).findM? p) ((before ++ after).findM? p) := by
  refine (relates_findM?_insert h a before after).mono fun found found' same => ?_
  rcases same with same | ⟨-, state, given⟩
  · exact same
  · cases refused state true given

/-- An item for which nothing is collected can be left out. -/
theorem relates_flatMapM_of_silent {f : α → Query (List β)} (h : ∀ a, (f a).Steady) {a : α}
    (silent : (f a).Ensures (· = [])) (before after : List α) :
    Relates Eq ((before ++ a :: after).flatMapM f) ((before ++ after).flatMapM f) := by
  induction before with
  | nil =>
    rw [List.nil_append, List.nil_append, List.flatMapM_cons]
    refine relates_bind_left silent ?_
    rintro _ rfl
    refine relates_bind_pure_left (steady_flatMapM h after) ?_
    rintro found _ rfl
    rfl
  | cons first rest ih =>
    rw [List.cons_append, List.cons_append, List.flatMapM_cons, List.flatMapM_cons]
    refine relates_bind (h first) ?_
    rintro part _ rfl
    refine relates_bind ih ?_
    rintro found _ rfl
    exact steady_pure _

theorem relates_findM?_of_sublist {p : α → Query Bool} (h : ∀ a, (p a).Steady)
    (sublist : fewer.Sublist items) :
    Relates (fun found found' => found = none → found' = none) (items.findM? p)
      (fewer.findM? p) := by
  induction sublist with
  | slnil => exact relates_pure id
  | @cons fewer items a _ ih =>
    rw [List.findM?]
    refine relates_bind_left (P := fun _ => True) (fun _ _ _ => trivial) fun holds _ => ?_
    cases holds with
    | true => exact relates_of_left (ensures_pure fun _ impossible => by cases impossible)
    | false => exact ih
  | @cons_cons fewer items a _ ih =>
    rw [List.findM?, List.findM?]
    refine relates_bind (h a) ?_
    rintro holds _ rfl
    cases holds with
    | true => exact relates_pure id
    | false => exact ih

theorem relates_anyM_of_sublist {p : α → Query Bool} (h : ∀ a, (p a).Steady)
    (sublist : fewer.Sublist items) :
    Relates (fun found found' => found = false → found' = false) (items.anyM p)
      (fewer.anyM p) := by
  rw [anyM_eq_findM?, anyM_eq_findM?]
  refine relates_bind (relates_findM?_of_sublist h sublist) fun found found' weaker =>
    relates_pure ?_
  simpa using weaker

theorem relates_flatMapM_of_sublist {f : α → Query (List β)} (h : ∀ a, (f a).Steady)
    (sublist : fewer.Sublist items) :
    Relates (fun all some => some ⊆ all) (items.flatMapM f) (fewer.flatMapM f) := by
  induction sublist with
  | slnil => exact relates_pure fun _ => id
  | @cons fewer items a _ ih =>
    rw [List.flatMapM_cons]
    refine relates_bind_left (P := fun _ => True) (fun _ _ _ => trivial) fun part _ => ?_
    exact relates_bind_pure_left ih fun all some subset =>
      List.Subset.trans subset (List.subset_append_right _ _)
  | @cons_cons fewer items a _ ih =>
    rw [List.flatMapM_cons, List.flatMapM_cons]
    refine relates_bind (h a) ?_
    rintro part _ rfl
    refine relates_bind ih fun all some subset => relates_pure ?_
    exact List.append_subset.2 ⟨List.subset_append_left _ _,
      List.Subset.trans subset (List.subset_append_right _ _)⟩

end Fewer

section Find

theorem steady_groupMayMatch (slot : Nat) (url : Text) (matchCase : Bool)
    (group : List IndexedUrl) : (groupMayMatch slot url matchCase group).Steady := by
  match group with
  | [] => exact steady_pure false
  | [filter] => exact (gives_test slot url filter).steady
  | first :: second :: rest => exact (gives_merged slot url matchCase first second rest).steady

theorem steady_findInGroup (slot : Nat) (url : Text) (matchCase : Bool)
    (group : List IndexedUrl) : (findInGroup slot url matchCase group).Steady := by
  unfold findInGroup
  refine (steady_groupMayMatch slot url matchCase group).bind fun may => ?_
  cases may with
  | true => exact steady_findM? (fun filter => (gives_test slot url filter).steady) group
  | false => exact steady_pure none

theorem steady_findAmong (slot : Nat) (url : Text) (candidates : List IndexedUrl) :
    (findAmong slot url candidates).Steady := by
  unfold findAmong
  split
  · exact steady_pure _
  · refine steady_firstSome fun q member => ?_
    simp only [List.mem_cons, List.not_mem_nil, or_false] at member
    rcases member with rfl | rfl | rfl
    · exact steady_findInGroup _ _ _ _
    · exact steady_findInGroup _ _ _ _
    · exact steady_findM? (fun filter => (gives_test slot url filter).steady) _

variable [Host.SuffixList]

theorem steady_findFirst (s : Snapshot) (slot : Nat) (index : SubIndex) (query : UrlQuery) :
    (findFirst s slot index query).Steady := by
  unfold findFirst
  split
  · exact steady_pure none
  · refine steady_firstSome fun q member => ?_
    obtain ⟨keyword, -, rfl⟩ := List.mem_map.1 member
    exact (steady_liftM _).bind fun candidates => steady_findAmong _ _ candidates

theorem steady_findEach (s : Snapshot) (slot : Nat) (index : SubIndex) (query : UrlQuery) :
    (findEach s slot index query).Steady := by
  unfold findEach
  split
  · exact steady_pure []
  · refine steady_flatMapM (fun keyword => ?_) _
    refine (steady_liftM _).bind fun candidates => ?_
    exact (gives_filterM fun filter _ => gives_test slot query.url filter).steady

/-- In a sub-index where nothing is found under any word no filter matches. -/
theorem findFirst_of_vacant {s : Snapshot} {index : SubIndex} (vacant : s.IsVacant index)
    (slot : Nat) (query : UrlQuery) : (findFirst s slot index query).Ensures (· = none) := by
  unfold findFirst
  by_cases keys : s.keyCount index = 0
  · rw [if_pos keys]
    exact ensures_pure rfl
  · rw [if_neg keys]
    have nothing := vacant.resolve_left keys
    induction query.keywords with
    | nil => exact ensures_pure rfl
    | cons keyword rest ih =>
      have none : (findAmong slot query.url []).Ensures (· = none) := by
        intro state found answered
        cases answered
        rfl
      have candidates : s.candidates index query keyword = .ok [] := by
        rw [Snapshot.candidates, nothing]
        rfl
      rw [List.map_cons, firstSome, candidates]
      refine ensures_bind none ?_
      rintro _ rfl
      exact ih

theorem findEach_of_vacant {s : Snapshot} {index : SubIndex} (vacant : s.IsVacant index)
    (slot : Nat) (query : UrlQuery) : (findEach s slot index query).Ensures (· = []) := by
  unfold findEach
  by_cases keys : s.keyCount index = 0
  · rw [if_pos keys]
    exact ensures_pure rfl
  · rw [if_neg keys]
    have nothing := vacant.resolve_left keys
    induction query.keywords with
    | nil => exact ensures_pure rfl
    | cons keyword rest ih =>
      have none : (do
          (← s.candidates index query keyword).filterM (test slot query.url) :
            Query (List IndexedUrl)).Ensures (· = []) := by
        rw [Snapshot.candidates, nothing]
        intro state found answered
        cases answered
        rfl
      rw [List.flatMapM_cons]
      refine ensures_bind none ?_
      rintro _ rfl
      refine ensures_bind ih ?_
      rintro _ rfl
      exact ensures_pure rfl

/-- What is found among the filters that are bound to domains or keys is found among all. -/
theorem relates_findEach_specific (s : Snapshot) (slot : Nat) (index : SubIndex)
    (query : UrlQuery) :
    Relates (fun specific all => specific ⊆ all)
      (findEach s slot index { query with aim := .specificBlocking })
      (findEach s slot index { query with aim := .blocking }) := by
  unfold findEach
  split
  · exact relates_pure fun _ => id
  · refine relates_flatMapM_subset fun keyword _ => ?_
    refine relates_bind (P := fun specific all => specific ⊆ all) (relates_liftM ?_) ?_
    · intro specific all found found' filter member
      rw [mem_of_filterM_eq_ok found] at member
      rw [mem_of_filterM_eq_ok found']
      exact ⟨member.1, IndexedUrl.isViable_of_specific member.2⟩
    · intro specific all subset
      have answers : ∀ candidates : List IndexedUrl,
          Gives (candidates.filterM (test slot query.url))
            (candidates.filter (·.matchesUrl query.url)) :=
        fun _ => gives_filterM fun filter _ => gives_test slot query.url filter
      exact (answers specific).relates (answers all) (List.filter_subset _ subset)

end Find

end Query

end ContentBlocker
