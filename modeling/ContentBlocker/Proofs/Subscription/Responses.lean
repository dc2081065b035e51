import ContentBlocker.Proofs.Subscription.Exceptions
/-!
# Responses and exceptions

A subscription without blocking conditions on headers can take back what other subscriptions block,
with one reservation: a filter that switches generic blocking off also puts the allowing conditions
of all subscriptions out of action. A response that is blocked with such a subscription is therefore
blocked without it, or else it is allowed without it and the subscription switches generic blocking
off for it.
-/

namespace ContentBlocker

open Query

namespace HeaderCondition

/-- Whether an allowing condition overrules a blocking one: it is the same, or says nothing. -/
def overrules (allow condition : HeaderCondition) : Bool :=
  allow.header.isEmpty || Text.sameIgnoringCase allow.header condition.header

end HeaderCondition

namespace Subscription

variable [RegexEngine] [Host.SuffixList] (s : Subscription)

theorem steady_headers (url : Text) (types : ContentTypes) (document : Text) (aim : Aim) :
    (s.headers url types document aim).Steady :=
  (steady_findEach _ _ _ _).bind fun _ => steady_pure _

/-- The conditions of filters that are bound to domains or keys are among all of them. -/
theorem relates_headers_specific (url : Text) (types : ContentTypes) (document : Text) :
    Relates (fun specific all => specific ⊆ all) (s.headers url types document .specificBlocking)
      (s.headers url types document .blocking) := by
  refine relates_bind (relates_findEach_specific s.snapshot s.slot (.url .header .blocking)
    (.make url (some types) document [] .blocking)) fun specific all subset => ?_
  refine relates_pure fun text member => ?_
  rw [List.mem_eraseDups] at member ⊢
  exact List.map_subset _ subset member

theorem headers_of_vacant {s : Subscription} {aim : Aim}
    (vacant : s.snapshot.IsVacant (.url .header aim.category)) (url : Text) (types : ContentTypes)
    (document : Text) : (s.headers url types document aim).Ensures (· = []) := by
  refine ensures_bind (findEach_of_vacant vacant s.slot _) ?_
  rintro _ rfl
  exact ensures_pure rfl

/-- The filters that a subscription finds in the index of a list are the viable ones that match. -/
theorem gives_findEach_viableUnder {filters : List Filter} {metadata : Metadata} {source : Text}
    (contains : s.snapshot.Contains (Builder.ofFilters filters) metadata source)
    (wellFormed : ∀ filter ∈ filters, filter.WellFormed) {index : SubIndex} (isUrl : index.isUrl)
    {query : UrlQuery} (noEndDot : query.document.getLast? ≠ some '.') :
    (findEach s.snapshot s.slot index query).Gives (query.keywords.flatMap fun keyword =>
      (viableUnder filters index query keyword).filter (·.matchesUrl query.url)) := by
  by_cases keys : s.snapshot.keyCount index = 0
  · have nothing : (query.keywords.flatMap fun keyword =>
        (viableUnder filters index query keyword).filter (·.matchesUrl query.url)) = [] := by
      refine List.flatMap_eq_nil_iff.2 fun keyword _ => ?_
      rw [s.viableUnder_of_keyless contains wellFormed isUrl keys query keyword, List.filter_nil]
    rw [nothing, findEach, if_pos keys]
    exact gives_pure []
  · have candidates : candidatesUnder s.snapshot index query = viableUnder filters index query :=
      funext (contains.candidatesUnder wellFormed isUrl query)
    rw [← candidates]
    exact gives_findEach s.snapshot s.slot index noEndDot keys

theorem gives_headers {filters : List Filter} {metadata : Metadata} {source : Text}
    (contains : s.snapshot.Contains (Builder.ofFilters filters) metadata source)
    (wellFormed : ∀ filter ∈ filters, filter.WellFormed) {url : Text} {types : ContentTypes}
    {document : Text} {aim : Aim} (noEndDot : document.lower.getLast? ≠ some '.')
    {texts : List Text}
    (answers :
      let query := UrlQuery.make url (some types) document [] aim
      ((query.keywords.flatMap fun keyword =>
        (viableUnder filters (.url .header aim.category) query keyword).filter
          (·.matchesUrl url)).map IndexedUrl.payload).eraseDups = texts) :
    (s.headers url types document aim).Gives texts := by
  subst answers
  exact gives_bind (s.gives_findEach_viableUnder contains wellFormed rfl noEndDot) (gives_pure _)

/-- Without frames only the request itself is asked about. -/
theorem gives_hasSpecialFilterFor {type : SpecialType} {url sitekey : Text} {answer : Bool}
    (gives : (s.hasSpecialFilter type url (documentDomain url []) sitekey).Gives answer) :
    (s.hasSpecialFilterFor type url [] sitekey).Gives answer := by
  refine gives_bind gives ?_
  cases answer with
  | true => exact gives_pure true
  | false => exact gives_pure false

end Subscription

namespace Collection

open Subscription

section Judge

variable {allowing conditions : List HeaderCondition} {decision : Decision}

/-- A response is blocked for a condition that nothing overrules. -/
theorem isBlocked_judge (unblocked : decision.isBlocked = false) :
    (judge allowing decision conditions).isBlocked ↔
      ∃ condition ∈ conditions, ∀ allow ∈ allowing, allow.overrules condition = false := by
  induction conditions generalizing decision with
  | nil => simp [judge, unblocked]
  | cons condition rest ih =>
    rw [judge]
    simp only [List.mem_cons, exists_eq_or_imp]
    cases found : allowing.find? fun allow =>
        allow.header.isEmpty || Text.sameIgnoringCase allow.header condition.header with
    | some allow =>
      have overruled : ¬ ∀ allow ∈ allowing, allow.overrules condition = false := by
        intro none
        have yes := List.find?_some found
        exact absurd yes (Bool.eq_false_iff.1 (none allow (List.mem_of_find?_eq_some found)))
      simp only [overruled, false_or]
      exact ih rfl
    | none =>
      have stands : ∀ allow ∈ allowing, allow.overrules condition = false := fun allow member =>
        Bool.eq_false_iff.2 (List.find?_eq_none.1 found allow member)
      simp only [Decision.isBlocked, true_iff]
      exact .inl stands

/-- Something becomes of a response for every condition that it meets. -/
theorem judge_eq_noMatch :
    judge allowing decision conditions = .noMatch ↔ conditions = [] ∧ decision = .noMatch := by
  induction conditions generalizing decision with
  | nil => simp [judge]
  | cons condition rest ih =>
    rw [judge]
    split
    · simp [ih]
    · simp

end Judge

section Insert

variable [RegexEngine] {before after : List Subscription} {added : Subscription} {name : Text}

/-- A list that is found with a subscription and not without it is found for that subscription. -/
theorem relates_findSource_insert {holds : Subscription → Query Bool} (h : ∀ s, (holds s).Steady) :
    Relates (fun found found' => found = found' ∨
        (found = some added.source ∧ (holds added).CanGive true))
      (findSource ⟨before ++ added :: after, name⟩ holds)
      (findSource ⟨before ++ after, name⟩ holds) := by
  refine relates_bind (relates_findM?_insert h added before after) fun found found' same => ?_
  refine relates_pure ?_
  rcases same with rfl | ⟨rfl, given⟩
  · exact .inl rfl
  · exact .inr ⟨rfl, given⟩

variable [Host.SuffixList]

/-- What a subscription contributes to the conditions of a collection. -/
theorem steady_conditions (url : Text) (types : ContentTypes) (document : Text) (aim : Aim)
    (s : Subscription) : (do
      let headers ← s.headers url types document aim
      return headers.map fun header => (⟨header, s.source⟩ : HeaderCondition) :
        Query (List HeaderCondition)).Steady :=
  (s.steady_headers url types document aim).bind fun _ => steady_pure _

theorem relates_headerConditions_of_vacant (aim : Aim)
    (vacant : added.snapshot.IsVacant (.url .header aim.category)) (url : Text)
    (frames : List Text) (types : ContentTypes) :
    Relates Eq (headerConditions ⟨before ++ added :: after, name⟩ url frames types aim)
      (headerConditions ⟨before ++ after, name⟩ url frames types aim) := by
  unfold headerConditions
  refine relates_bind (relates_flatMapM_of_silent (steady_conditions url types _ aim) ?_ _ _) ?_
  · refine ensures_bind (headers_of_vacant vacant url types _) ?_
    rintro _ rfl
    exact ensures_pure rfl
  · rintro found _ rfl
    exact steady_pure _

theorem relates_headerConditions (url : Text) (frames : List Text) (types : ContentTypes)
    (aim : Aim) :
    Relates (fun all some => some ⊆ all)
      (headerConditions ⟨before ++ added :: after, name⟩ url frames types aim)
      (headerConditions ⟨before ++ after, name⟩ url frames types aim) := by
  unfold headerConditions
  refine relates_bind (relates_flatMapM_of_sublist (steady_conditions url types _ aim)
    sublist_insert) fun all some subset => relates_pure fun condition member => ?_
  rw [mem_orderedSet] at member ⊢
  exact subset member

/-- The conditions of filters that are bound to domains or keys are among all of them. -/
theorem relates_headerConditions_specific (c : Collection) (url : Text) (frames : List Text)
    (types : ContentTypes) :
    Relates (fun specific all => specific ⊆ all)
      (c.headerConditions url frames types .specificBlocking)
      (c.headerConditions url frames types .blocking) := by
  unfold headerConditions
  refine relates_bind (relates_flatMapM_subset fun s _ => ?_) fun specific all subset => ?_
  · refine relates_bind (s.relates_headers_specific url types _) fun specific all subset => ?_
    exact relates_pure (List.map_subset _ subset)
  · refine relates_pure fun condition member => ?_
    rw [mem_orderedSet] at member ⊢
    exact subset member

theorem relates_classifyResponse (vacant : added.snapshot.IsVacant (.url .header .blocking))
    (url : Text) (frames : List Text) (types : ContentTypes) (headers : List (Text × Text)) :
    Relates (fun decision decision' => decision.isBlocked → decision'.isBlocked ∨
        ((∃ source, decision' = .allowed source) ∧
          (added.hasSpecialFilterFor .genericblock url frames []).CanGive true))
      (classifyResponse ⟨before ++ added :: after, name⟩ url frames types headers)
      (classifyResponse ⟨before ++ after, name⟩ url frames types headers) := by
  unfold classifyResponse
  refine relates_bind ((relates_headerConditions_of_vacant .blocking vacant url frames
    types).and_ensures_left (ensures_canGive _)) ?_
  rintro blocking _ ⟨rfl, given⟩
  by_cases nothing : blocking = []
  · rw [if_pos nothing, if_pos nothing]
    exact relates_pure nofun
  rw [if_neg nothing, if_neg nothing]
  refine relates_bind (relates_findSource fun s => s.steady_hasSpecialFilterFor .document
    url frames []) fun off off' fewer => ?_
  cases off with
  | some source => exact relates_of_left (ensures_pure nofun)
  | none =>
    rw [fewer rfl]
    refine relates_bind (relates_findSource_insert fun s => s.steady_hasSpecialFilterFor
      .genericblock url frames []) fun generic generic' same => ?_
    have specific : Relates Eq
        (headerConditions ⟨before ++ added :: after, name⟩ url frames types .specificBlocking)
        (headerConditions ⟨before ++ after, name⟩ url frames types .specificBlocking) :=
      relates_headerConditions_of_vacant .specificBlocking vacant url frames types
    cases generic with
    | none =>
      obtain rfl : none = generic' := same.resolve_right fun found => nomatch found.1
      refine relates_bind (relates_headerConditions url frames types .allowing)
        fun allowing allowing' subset => relates_pure fun blocked => .inl ?_
      rw [isBlocked_judge rfl] at blocked ⊢
      obtain ⟨condition, met, stands⟩ := blocked
      exact ⟨condition, met, fun allow member => stands allow (subset member)⟩
    | some source =>
      cases generic' with
      | some source' =>
        refine relates_bind specific ?_
        rintro conditions _ rfl
        exact relates_pure .inl
      | none =>
        -- only `added` switches generic blocking off, so without it the conditions that allow count
        have switches := (same.resolve_left nofun).2
        have among := (relates_headerConditions_specific _ url frames types).ensures_left given
        by_cases unmet : blocking.filter (fun condition =>
            HeaderCondition.isMetBy condition.header headers) = []
        · refine relates_of_left (ensures_bind among fun conditions subset => ensures_pure ?_)
          intro decision' blocked
          rw [isBlocked_judge rfl] at blocked
          obtain ⟨condition, met, -⟩ := blocked
          have met' := List.filter_subset _ subset met
          rw [unmet] at met'
          cases met'
        · refine relates_of_right (ensures_bind (ensures_canGive _) fun allowing' _ =>
            ensures_pure fun decision _ => ?_)
          cases judged : judge allowing' .noMatch (blocking.filter fun condition =>
              HeaderCondition.isMetBy condition.header headers) with
          | noMatch => exact absurd (judge_eq_noMatch.1 judged).1 unmet
          | blocked source => exact .inl rfl
          | allowed source => exact .inr ⟨⟨source, rfl⟩, switches⟩

/-- A subscription that blocks for no headers, wherever it is inserted into a collection, lets no
response be blocked that is not blocked without it, as long as no query breaks off, unless it
switches generic blocking off for the response or a frame of its chain. A response that is blocked
for that reason only is allowed without the subscription: it is the conditions that allow which no
longer count. The caches may hold whatever they do. -/
theorem isBlocked_classifyResponse_insert
    (vacant : added.snapshot.IsVacant (.url .header .blocking)) (url : Text) (frames : List Text)
    (types : ContentTypes) (headers : List (Text × Text)) {state state' : QueryState}
    {decision decision' : Decision}
    (runs : ((classifyResponse ⟨before ++ added :: after, name⟩ url frames types
      headers).run.run state).1 = .ok decision)
    (runs' : ((classifyResponse ⟨before ++ after, name⟩ url frames types
      headers).run.run state').1 = .ok decision')
    (blocked : decision.isBlocked) :
    decision'.isBlocked ∨ ((∃ source, decision' = .allowed source) ∧
      (added.hasSpecialFilterFor .genericblock url frames []).CanGive true) :=
  relates_classifyResponse vacant url frames types headers state state' decision decision' runs
    runs' blocked

end Insert

/-- A list with a condition that blocks and the same condition that allows, and a list that only
switches generic blocking off: the response is allowed by the first list alone, and blocked once the
second one is there. -/
theorem gives_classifyResponse_genericblock :
    let conditional := Filter.ofLines true
      ["||ads.example^$header=x-ad,domain=ads.example", "@@||ads.example^$header=x-ad"]
    let switching := Filter.ofLines false ["@@||ads.example^$genericblock"]
    let url : Text := "https://ads.example/"
    let headers : List (Text × Text) := [("X-Ad", "1")]
    ∃ s s', Snapshot.load (buildIndex conditional .absent []) = .ok s ∧
      Snapshot.load (buildIndex switching .absent []) = .ok s' ∧
      s'.IsVacant (.url .header .blocking) ∧
      let first : Subscription := ⟨s, 0, .installed, 0⟩
      let added : Subscription := ⟨s', 1, .installed, 0⟩
      (classifyResponse ⟨[first, added], []⟩ url [] (.single 2) headers).Gives
          (.blocked first.source) ∧
        (classifyResponse ⟨[first], []⟩ url [] (.single 2) headers).Gives
          (.allowed first.source) := by
  intro conditional switching url headers
  have wellFormed : ∀ filter ∈ conditional, filter.WellFormed := Filter.wellFormed_ofLines true _
  have wellFormed' : ∀ filter ∈ switching, filter.WellFormed := Filter.wellFormed_ofLines false _
  have fits : (buildIndex conditional .absent []).size < 2 ^ 32 :=
    size_buildIndex_lt (by decide +kernel)
  have fits' : (buildIndex switching .absent []).size < 2 ^ 32 :=
    size_buildIndex_lt (by decide +kernel)
  obtain ⟨s, loaded, contains⟩ := Builder.load_ofFilters fits
  obtain ⟨s', loaded', contains'⟩ := Builder.load_ofFilters fits'
  have switches : ∀ posting ∈ (Builder.ofFilters switching).postings.toList,
      posting.index = .special .genericblock := by decide +kernel
  have vacant : s'.IsVacant (.url .header .blocking) := by
    refine .inl (contains'.nothing_of_unposted fun posting member => ?_).1
    rw [switches posting member]
    decide
  refine ⟨s, s', loaded, loaded', vacant, ?_⟩
  intro first added
  have noEndDot : (documentDomain url []).lower.getLast? ≠ some '.' := by decide +kernel
  -- what each list answers by itself
  have named : ∀ aim, (first.headers url (.single 2) (documentDomain url []) aim).Gives
      ["x-ad"] := by
    intro aim
    refine first.gives_headers contains wellFormed noEndDot ?_
    cases aim <;> decide +kernel
  have silent : ∀ aim ≠ .allowing,
      (added.headers url (.single 2) (documentDomain url []) aim).Gives [] := by
    intro aim blocks
    refine added.gives_headers contains' wellFormed' noEndDot ?_
    cases aim with
    | allowing => exact absurd rfl blocks
    | blocking | specificBlocking => decide +kernel
  have counts : ∀ type ∈ [SpecialType.document, .genericblock],
      (first.hasSpecialFilterFor type url [] []).Gives false := by
    intro type member
    refine first.gives_hasSpecialFilterFor (first.gives_has contains wellFormed rfl noEndDot ?_ ?_)
      <;> (revert type; decide +kernel)
  have shows : (added.hasSpecialFilterFor .document url [] []).Gives false := by
    refine added.gives_hasSpecialFilterFor
      (added.gives_has contains' wellFormed' rfl noEndDot ?_ ?_) <;> decide +kernel
  have off : (added.hasSpecialFilterFor .genericblock url [] []).Gives true := by
    refine added.gives_hasSpecialFilterFor
      (added.gives_has contains' wellFormed' rfl noEndDot ?_ ?_) <;> decide +kernel
  -- what follows for the collections
  have conditions : ∀ aim, (headerConditions ⟨[first], []⟩ url [] (.single 2) aim).Gives
      [⟨"x-ad", first.source⟩] := fun aim =>
    gives_bind (gives_flatMapM (g := fun _ => [⟨"x-ad", first.source⟩]) fun s member => by
      rw [List.mem_singleton.1 member]
      exact gives_bind (named aim) (gives_pure _)) (gives_pure _)
  have conditions' : ∀ aim ≠ .allowing,
      (headerConditions ⟨[first, added], []⟩ url [] (.single 2) aim).Gives
        [⟨"x-ad", first.source⟩] := by
    intro aim blocks
    rw [headerConditions, List.flatMapM_cons, List.flatMapM_cons]
    refine gives_bind (a := [⟨"x-ad", first.source⟩]) ?_ (gives_pure _)
    refine gives_bind (gives_bind (named aim) (gives_pure _)) (gives_bind ?_ (gives_pure _))
    refine gives_bind (gives_bind (silent aim blocks) (gives_pure _)) ?_
    exact gives_bind (gives_pure []) (gives_pure _)
  constructor
  · have document : (findSpecial ⟨[first, added], []⟩ .document url [] []).Gives none :=
      gives_bind (gives_bind (counts _ (by simp)) (gives_bind shows (gives_pure none)))
        (gives_pure _)
    have generic : (findSpecial ⟨[first, added], []⟩ .genericblock url [] []).Gives
        (some added.source) :=
      gives_bind (gives_bind (counts _ (by simp)) (gives_bind off (gives_pure (some added))))
        (gives_pure _)
    refine gives_bind (conditions' .blocking (by decide)) (gives_bind document (gives_bind generic
      (gives_bind (conditions' .specificBlocking (by decide)) ?_)))
    exact gives_pure _
  · have document : (findSpecial ⟨[first], []⟩ .document url [] []).Gives none :=
      gives_bind (gives_bind (counts _ (by simp)) (gives_pure none)) (gives_pure _)
    have generic : (findSpecial ⟨[first], []⟩ .genericblock url [] []).Gives none :=
      gives_bind (gives_bind (counts _ (by simp)) (gives_pure none)) (gives_pure _)
    refine gives_bind (conditions .blocking) (gives_bind document (gives_bind generic
      (gives_bind (conditions .allowing) ?_)))
    exact gives_pure _

theorem isBlocked_classifyResponse_insert_genericblock :
    let conditional := Filter.ofLines true
      ["||ads.example^$header=x-ad,domain=ads.example", "@@||ads.example^$header=x-ad"]
    let switching := Filter.ofLines false ["@@||ads.example^$genericblock"]
    let url : Text := "https://ads.example/"
    let headers : List (Text × Text) := [("X-Ad", "1")]
    ∃ s s', Snapshot.load (buildIndex conditional .absent []) = .ok s ∧
      Snapshot.load (buildIndex switching .absent []) = .ok s' ∧
      let first : Subscription := ⟨s, 0, .installed, 0⟩
      let added : Subscription := ⟨s', 1, .installed, 0⟩
      s'.IsVacant (.url .header .blocking) ∧ ∀ state state', ∃ decision decision',
        ((classifyResponse ⟨[first] ++ added :: [], []⟩ url [] (.single 2)
          headers).run.run state).1 = .ok decision ∧
        ((classifyResponse ⟨[first] ++ [], []⟩ url [] (.single 2)
          headers).run.run state').1 = .ok decision' ∧
        decision.isBlocked ∧ (added.hasSpecialFilterFor .genericblock url [] []).CanGive true := by
  intro conditional switching url headers
  obtain ⟨s, s', loaded, loaded', vacant, blocked, allowed⟩ := gives_classifyResponse_genericblock
  refine ⟨s, s', loaded, loaded', vacant, fun state state' => ?_⟩
  refine ⟨_, _, blocked state, allowed state', rfl, ?_⟩
  have reason := @isBlocked_classifyResponse_insert _ [_] [] _ [] _ vacant url [] (.single 2)
    headers _ _ _ _ (blocked state) (allowed state') rfl
  exact (reason.resolve_left nofun).2

/-- A subscription without blocking conditions on headers can turn an allowed response into a
blocked one. -/
theorem not_isBlocked_classifyResponse_insert :
    ¬ ∀ [RegexEngine] [Host.SuffixList], RegexEngine.OrdinarySearch →
      ∀ (before after : List Subscription) (added : Subscription) (name url : Text)
        (frames : List Text) (types : ContentTypes) (headers : List (Text × Text))
        (state state' : QueryState) (decision decision' : Decision),
        added.snapshot.IsVacant (.url .header .blocking) →
        ((classifyResponse ⟨before ++ added :: after, name⟩ url frames types
          headers).run.run state).1 = .ok decision →
        ((classifyResponse ⟨before ++ after, name⟩ url frames types headers).run.run state').1 =
          .ok decision' →
        decision.isBlocked → decision'.isBlocked := by
  intro claimed
  obtain ⟨s, s', -, -, vacant, blocked, allowed⟩ := gives_classifyResponse_genericblock
  have stays := claimed referenceEngine_ordinarySearch [_] [] _ [] _ _ _ _ .empty .empty _ _
    vacant (blocked .empty) (allowed .empty) rfl
  cases stays

end Collection

end ContentBlocker
