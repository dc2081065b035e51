import ContentBlocker.Proofs.Matching.Retrieval
import ContentBlocker.Proofs.Matching.Strategies
import ContentBlocker.Proofs.Matching.TwoRuns
import ContentBlocker.Subscription.Collection
/-!
# More exceptions never block more

A subscription without blocking filters can only take back what others decide. Whatever a collection
blocks, adds or redirects with such a subscription, it blocks, adds or redirects without it.
-/

namespace ContentBlocker

open Query

/-- Whether a decision is to block. -/
def Decision.isBlocked : Decision → Bool
  | noMatch => false
  | blocked _ => true
  | allowed _ => false

namespace Subscription

/-- The subscription has no filters that block requests or new windows, add policies or redirect. -/
structure OnlyAllows (s : Subscription) : Prop where
  requests : s.snapshot.IsVacant (.url .subresource .blocking)
  popups : s.snapshot.IsVacant (.url .popup .blocking)
  policies : s.snapshot.IsVacant (.url .csp .blocking)
  substitutes : s.snapshot.IsVacant (.url .substitute .blocking)

section Viable

variable [Host.SuffixList]

/-- The viable filters that are filed under a word. -/
def viableUnder (filters : List Filter) (index : SubIndex) (query : UrlQuery) (keyword : Text) :
    List IndexedUrl :=
  (((filters.filterMap Filter.url?).filter (·.isFiled index keyword)).map UrlFilter.indexed).filter
    (·.viable query)

/-- In a sub-index without keys no filter is viable. -/
theorem viableUnder_of_keyless (s : Subscription) {filters : List Filter} {metadata : Metadata}
    {source : Text} (contains : s.snapshot.Contains (Builder.ofFilters filters) metadata source)
    (wellFormed : ∀ filter ∈ filters, filter.WellFormed) {index : SubIndex} (isUrl : index.isUrl)
    (keys : s.snapshot.keyCount index = 0) (query : UrlQuery) (keyword : Text) :
    viableUnder filters index query keyword = [] := by
  refine List.eq_nil_iff_forall_not_mem.2 fun entry viable => ?_
  obtain ⟨filter, filed, -⟩ := List.mem_map.1 (List.mem_filter.1 viable).1
  obtain ⟨member, here⟩ := List.mem_filter.1 filed
  exact contains.keyCount_ne_zero wellFormed isUrl member (of_decide_eq_true here).1 keys

end Viable

section Steady

variable [RegexEngine] [Host.SuffixList] (s : Subscription)

theorem steady_has (index : SubIndex) (query : UrlQuery) : (s.has index query).Steady :=
  (steady_findFirst s.snapshot s.slot index query).bind fun _ => steady_pure _

theorem has_of_vacant {s : Subscription} {index : SubIndex} (vacant : s.snapshot.IsVacant index)
    (query : UrlQuery) : (s.has index query).Ensures (· = false) := by
  refine ensures_bind (findFirst_of_vacant vacant s.slot query) ?_
  rintro _ rfl
  exact ensures_pure rfl

/-- What a subscription answers if alternations are answered soundly: whether a viable filter that
is filed under a word of the address matches. -/
theorem gives_has {filters : List Filter} {metadata : Metadata} {source : Text}
    (contains : s.snapshot.Contains (Builder.ofFilters filters) metadata source)
    (wellFormed : ∀ filter ∈ filters, filter.WellFormed) {index : SubIndex} (isUrl : index.isUrl)
    {query : UrlQuery} (noEndDot : query.document.getLast? ≠ some '.')
    (merges : ∀ keyword ∈ query.keywords, ∀ matchCase, MergesSoundly query.url matchCase
      (mergeable matchCase (viableUnder filters index query keyword)))
    {answer : Bool} (answers : (query.keywords.flatMap (viableUnder filters index query)).any
      (·.matchesUrl query.url) = answer) : (s.has index query).Gives answer := by
  subst answers
  have candidates : candidatesUnder s.snapshot index query = viableUnder filters index query :=
    funext (contains.candidatesUnder wellFormed isUrl query)
  by_cases keys : s.snapshot.keyCount index = 0
  · have nothing : query.keywords.flatMap (viableUnder filters index query) = [] :=
      List.flatMap_eq_nil_iff.2 fun keyword _ =>
        s.viableUnder_of_keyless contains wellFormed isUrl keys query keyword
    rw [has, findFirst, if_pos keys, nothing]
    exact gives_bind (gives_pure none) (gives_pure false)
  · rw [← candidates] at merges ⊢
    obtain ⟨found, gives, finds⟩ := gives_findFirst s.snapshot s.slot index noEndDot keys merges
    refine gives_bind gives ?_
    cases found with
    | none =>
      have misses : (query.keywords.flatMap (candidatesUnder s.snapshot index query)).any
          (·.matchesUrl query.url) = false :=
        List.any_eq_false.2 fun filter member => Bool.eq_false_iff.1 (finds filter member)
      rw [misses]
      exact gives_pure false
    | some filter =>
      have hits : (query.keywords.flatMap (candidatesUnder s.snapshot index query)).any
          (·.matchesUrl query.url) = true := List.any_eq_true.2 ⟨filter, finds.1, finds.2⟩
      rw [hits]
      exact gives_pure true

theorem steady_chainHasSpecialFilter (type : SpecialType) (frames : List Text) (sitekey : Text) :
    (s.chainHasSpecialFilter type frames sitekey).Steady := by
  refine steady_anyM ?_ _
  rintro ⟨frame, domain⟩
  exact s.steady_has _ _

theorem steady_hasSpecialFilterFor (type : SpecialType) (url : Text) (frames : List Text)
    (sitekey : Text) : (s.hasSpecialFilterFor type url frames sitekey).Steady := by
  refine (s.steady_has _ _).bind fun found => ?_
  cases found with
  | true => exact steady_pure true
  | false => exact s.steady_chainHasSpecialFilter type frames sitekey

theorem steady_hasAllowFilter (url : Text) (frames : List Text) (types : ContentTypes)
    (sitekey : Text) : (s.hasAllowFilter url frames types sitekey).Steady := by
  refine (s.steady_has _ _).bind fun found => ?_
  cases found with
  | true => exact steady_pure true
  | false => exact s.steady_chainHasSpecialFilter .document frames sitekey

theorem steady_policies (url document : Text) (aim : Aim) : (s.policies url document aim).Steady :=
  (steady_findEach _ _ _ _).bind fun _ => steady_pure _

theorem steady_substitutes (url document : Text) (aim : Aim) :
    (s.substitutes url document aim).Steady :=
  (steady_findEach _ _ _ _).bind fun _ => steady_pure _

/-- The policies of filters that are bound to domains or keys are among all of them. -/
theorem relates_policies_specific (url document : Text) :
    Relates (fun specific all => specific ⊆ all) (s.policies url document .specificBlocking)
      (s.policies url document .blocking) := by
  refine relates_bind (relates_findEach_specific s.snapshot s.slot (.url .csp .blocking)
    (.make url none document [] .blocking)) fun specific all subset => ?_
  refine relates_pure fun text member => ?_
  rw [List.mem_eraseDups] at member ⊢
  exact List.map_subset _ subset member

@[inherit_doc relates_policies_specific]
theorem relates_substitutes_specific (url document : Text) :
    Relates (fun specific all => specific ⊆ all) (s.substitutes url document .specificBlocking)
      (s.substitutes url document .blocking) := by
  refine relates_bind (relates_findEach_specific s.snapshot s.slot (.url .substitute .blocking)
    (.make url none document [] .blocking)) fun specific all subset => ?_
  refine relates_pure fun text member => ?_
  rw [List.mem_eraseDups] at member ⊢
  exact List.filterMap_subset _ subset member

theorem OnlyAllows.no_policies {s : Subscription} (h : s.OnlyAllows) (url document : Text) :
    (s.policies url document .blocking).Ensures (· = []) := by
  refine ensures_bind (findEach_of_vacant h.policies s.slot _) ?_
  rintro _ rfl
  exact ensures_pure rfl

theorem OnlyAllows.no_substitutes {s : Subscription} (h : s.OnlyAllows) (url document : Text) :
    (s.substitutes url document .blocking).Ensures (· = []) := by
  refine ensures_bind (findEach_of_vacant h.substitutes s.slot _) ?_
  rintro _ rfl
  exact ensures_pure rfl

end Steady

end Subscription

namespace Collection

open Subscription

section Insert

variable {before after : List Subscription} {added : Subscription} {name : Text}

theorem sublist_insert : (before ++ after).Sublist (before ++ added :: after) :=
  List.Sublist.append_left (List.sublist_cons_self _ _) _

variable [RegexEngine]

/-- A list that is not found with a subscription is not found without it. -/
theorem relates_findSource {holds : Subscription → Query Bool} (h : ∀ s, (holds s).Steady) :
    Relates (fun found found' => found = none → found' = none)
      (findSource ⟨before ++ added :: after, name⟩ holds)
      (findSource ⟨before ++ after, name⟩ holds) := by
  refine relates_bind (relates_findM?_of_sublist h sublist_insert) fun found found' fewer => ?_
  refine relates_pure fun none => ?_
  rw [Option.map_eq_none_iff] at none ⊢
  exact fewer none

theorem relates_findSource_of_refused {holds : Subscription → Query Bool}
    (h : ∀ s, (holds s).Steady) (refused : (holds added).Ensures (· = false)) :
    Relates Eq (findSource ⟨before ++ added :: after, name⟩ holds)
      (findSource ⟨before ++ after, name⟩ holds) := by
  refine relates_bind (relates_findM?_of_refused h refused before after) ?_
  rintro found _ rfl
  exact steady_pure _

/-- A subscription that says nothing is not among those that say something. -/
theorem relates_owners_of_silent {say : Subscription → Query (List Text)}
    (h : ∀ s, (say s).Steady) (silent : (say added).Ensures (· = [])) :
    Relates Eq (owners ⟨before ++ added :: after, name⟩ say)
      (owners ⟨before ++ after, name⟩ say) := by
  have pair : ∀ s, (do return (s, ← say s) : Query (Subscription × List Text)).Steady :=
    fun s => (h s).bind fun _ => steady_pure _
  have said : Relates (fun said said' : List (Subscription × List Text) =>
      said.filter (fun owner => owner.2 ≠ []) = said'.filter fun owner => owner.2 ≠ [])
      ((before ++ added :: after).mapM fun s => do return (s, ← say s))
      ((before ++ after).mapM fun s => do return (s, ← say s)) := by
    induction before with
    | nil =>
      rw [List.nil_append, List.nil_append, List.mapM_cons, bind_assoc]
      refine relates_bind_left silent ?_
      rintro _ rfl
      rw [pure_bind]
      refine relates_bind_pure_left (steady_mapM pair after) ?_
      rintro said _ rfl
      rfl
    | cons first rest ih =>
      rw [List.cons_append, List.cons_append, List.mapM_cons, List.mapM_cons]
      refine relates_bind (pair first) ?_
      rintro one _ rfl
      refine relates_bind ih fun said said' same => relates_pure ?_
      rw [List.filter_cons, List.filter_cons, same]
  exact relates_bind said fun found found' same => relates_pure same

/-- What a subscription is said to say it can say. -/
theorem ensures_owners (c : Collection) (say : Subscription → Query (List Text)) :
    (c.owners say).Ensures fun owners => ∀ owner ∈ owners, (say owner.1).CanGive owner.2 := by
  have said : ∀ subscriptions : List Subscription,
      (subscriptions.mapM fun s => do return (s, ← say s)).Ensures
        fun said => ∀ owner ∈ said, (say owner.1).CanGive owner.2 := by
    intro subscriptions
    induction subscriptions with
    | nil => exact ensures_pure nofun
    | cons s rest ih =>
      rw [List.mapM_cons, bind_assoc]
      refine ensures_bind (ensures_canGive (say s)) fun texts given => ?_
      rw [pure_bind]
      refine ensures_bind ih fun said others => ensures_pure fun owner member => ?_
      rcases List.mem_cons.1 member with rfl | later
      · exact given
      · exact others owner later
  refine ensures_bind (said c.subscriptions) fun said given => ensures_pure fun owner member => ?_
  exact given owner (List.mem_filter.1 member).1

variable [Host.SuffixList]

theorem relates_anySpecial (type : SpecialType) (url : Text) (frames : List Text) :
    Relates (fun found found' => found = false → found' = false)
      (anySpecial ⟨before ++ added :: after, name⟩ type url frames)
      (anySpecial ⟨before ++ after, name⟩ type url frames) :=
  relates_anyM_of_sublist (fun s => s.steady_hasSpecialFilterFor type url frames []) sublist_insert

end Insert

/-- Whoever goes on with what a subscription says, either of what is bound to domains and keys or of
everything, goes on with less where only the former counts. -/
theorem relates_candidates [RegexEngine] {α β : Type} {R : α → β → Prop}
    {specificSay say : Query (List Text)} {texts : List Text} {f : List Text → Query α}
    {f' : List Text → Query β} (steady : specificSay.Steady)
    (fewer : Relates (fun specific all => specific ⊆ all) specificSay say)
    (given : say.CanGive texts) {specific specific' : Bool}
    (weaker : specific = false → specific' = false)
    (h : ∀ some all, some ⊆ all → Relates R (f some) (f' all)) :
    Relates R (if specific then specificSay >>= f else pure texts >>= f)
      (if specific' then specificSay >>= f' else pure texts >>= f') := by
  cases specific with
  | false =>
    rw [weaker rfl]
    exact relates_bind (relates_pure fun _ => id) h
  | true =>
    cases specific' with
    | false => exact relates_bind (fewer.pure_right given) h
    | true =>
      refine relates_bind steady ?_
      rintro some _ rfl
      exact h some some fun _ => id

section Decisions

variable [RegexEngine] [Host.SuffixList]
variable {before after : List Subscription} {added : Subscription} {name : Text}

theorem relates_classifyRequest (harmless : added.OnlyAllows) (url : Text) (frames : List Text)
    (types : ContentTypes) (sitekey : Text) :
    Relates (fun decision decision' => decision.isBlocked → decision'.isBlocked)
      (classifyRequest ⟨before ++ added :: after, name⟩ url frames types sitekey)
      (classifyRequest ⟨before ++ after, name⟩ url frames types sitekey) := by
  have request : ∀ aim : Aim, aim.category = .blocking →
      Relates Eq (findRequest ⟨before ++ added :: after, name⟩ url frames types sitekey aim)
        (findRequest ⟨before ++ after, name⟩ url frames types sitekey aim) := by
    intro aim blocks
    refine relates_findSource_of_refused (fun s => s.steady_has _ _) ?_
    refine has_of_vacant ?_ _
    rw [blocks]
    exact harmless.requests
  unfold classifyRequest
  refine relates_bind (request .blocking rfl) ?_
  rintro found _ rfl
  cases found with
  | none => exact relates_pure nofun
  | some blocking =>
    refine relates_bind (relates_findSource fun s => s.steady_hasAllowFilter url frames types
      sitekey) fun allow allow' fewer => ?_
    cases allow with
    | some allowing =>
      refine relates_of_left (ensures_bind (P := fun _ => True) (fun _ _ _ => trivial) ?_)
      exact fun _ _ => ensures_pure nofun
    | none =>
      rw [fewer rfl]
      refine relates_bind (relates_findSource fun s => s.steady_hasSpecialFilterFor .genericblock
        url frames sitekey) fun generic generic' fewer' => ?_
      cases generic' with
      | none => exact relates_of_right (ensures_pure fun _ _ => rfl)
      | some _ =>
        cases generic with
        | none => cases fewer' rfl
        | some _ =>
          refine relates_bind (request .specificBlocking rfl) ?_
          rintro specific _ rfl
          cases specific with
          | some source => exact relates_pure fun _ => rfl
          | none => exact relates_pure nofun

theorem relates_classifyPopup (harmless : added.OnlyAllows) (url opener sitekey : Text) :
    Relates (fun decision decision' => decision.isBlocked → decision'.isBlocked)
      (classifyPopup ⟨before ++ added :: after, name⟩ url opener sitekey)
      (classifyPopup ⟨before ++ after, name⟩ url opener sitekey) := by
  unfold classifyPopup
  refine relates_bind (relates_findSource_of_refused (fun s => s.steady_has _ _)
    (has_of_vacant harmless.popups _)) ?_
  rintro found _ rfl
  cases found with
  | none => exact relates_pure nofun
  | some blocking =>
    refine relates_bind (relates_findSource fun s => s.steady_has _ _) fun allow allow' fewer => ?_
    cases allow with
    | some allowing => exact relates_of_left (ensures_pure nofun)
    | none =>
      rw [fewer rfl]
      exact relates_pure fun _ => rfl

theorem relates_policies (harmless : added.OnlyAllows) (url : Text) (frames : List Text) :
    Relates (fun found found' => found ⊆ found')
      (policies ⟨before ++ added :: after, name⟩ url frames)
      (policies ⟨before ++ after, name⟩ url frames) := by
  unfold policies
  refine relates_bind ((relates_owners_of_silent (fun s => s.steady_policies _ _ _)
    (harmless.no_policies _ _)).and_ensures (ensures_owners _ _)) ?_
  rintro owners _ ⟨rfl, given⟩
  by_cases nobody : owners.isEmpty
  · rw [if_pos nobody, if_pos nobody]
    exact relates_pure fun _ => id
  rw [if_neg nobody, if_neg nobody]
  refine relates_bind (relates_anySpecial .document url frames) fun off off' weaker => ?_
  cases off with
  | true => exact relates_of_left (ensures_pure fun _ => List.nil_subset _)
  | false =>
    rw [weaker rfl]
    refine relates_bind (relates_flatMapM_of_sublist (fun s => s.steady_policies _ _ _)
      sublist_insert) fun allowing allowing' subset => ?_
    by_cases blank : allowing.contains []
    · rw [if_pos blank]
      exact relates_of_left (ensures_pure fun _ => List.nil_subset _)
    have blank' : ¬ allowing'.contains [] := by
      rw [List.contains_iff_mem] at blank ⊢
      exact fun member => blank (subset member)
    rw [if_neg blank, if_neg blank']
    refine relates_bind (relates_anySpecial .genericblock url frames)
      fun specific specific' weaker' => ?_
    refine relates_bind (relates_flatMapM_subset ?_) fun kept kept' subset' => ?_
    · rintro ⟨s, blocking⟩ member
      refine relates_candidates (s.steady_policies _ _ _)
        (s.relates_policies_specific url (documentDomain url frames)) (given _ member) weaker'
        fun candidates candidates' subset' => relates_pure ?_
      intro policy kept
      simp only [List.mem_filter, Bool.and_eq_true, decide_eq_true_eq, Bool.not_eq_true',
        List.contains_eq_mem, decide_eq_false_iff_not] at kept ⊢
      exact ⟨subset' kept.1, kept.2.1, fun allowed => kept.2.2 (subset allowed)⟩
    · refine relates_pure fun policy kept => ?_
      rw [mem_orderedSet] at kept ⊢
      exact subset' kept

theorem relates_substitute (harmless : added.OnlyAllows) (url : Text) (frames : List Text) :
    Relates (fun found found' => found.isSome → found'.isSome)
      (substitute ⟨before ++ added :: after, name⟩ url frames)
      (substitute ⟨before ++ after, name⟩ url frames) := by
  unfold substitute
  refine relates_bind ((relates_owners_of_silent (fun s => s.steady_substitutes _ _ _)
    (harmless.no_substitutes _ _)).and_ensures (ensures_owners _ _)) ?_
  rintro owners _ ⟨rfl, given⟩
  by_cases nobody : owners.isEmpty
  · rw [if_pos nobody, if_pos nobody]
    exact relates_pure id
  rw [if_neg nobody, if_neg nobody]
  refine relates_bind (relates_anySpecial .document url frames) fun off off' weaker => ?_
  cases off with
  | true => exact relates_of_left (ensures_pure nofun)
  | false =>
    rw [weaker rfl]
    refine relates_bind (relates_flatMapM_of_sublist (fun s => s.steady_substitutes _ _ _)
      sublist_insert) fun allowing allowing' subset => ?_
    refine relates_bind (relates_anySpecial .genericblock url frames)
      fun specific specific' weaker' => relates_firstSome ?_
    rintro ⟨s, blocking⟩ member
    refine relates_candidates (s.steady_substitutes _ _ _)
      (s.relates_substitutes_specific url (documentDomain url frames)) (given _ member) weaker'
      fun candidates candidates' subset' => relates_pure ?_
    intro found
    rw [List.find?_isSome] at found ⊢
    obtain ⟨target, there, kept⟩ := found
    refine ⟨target, subset' there, ?_⟩
    simp only [List.contains_eq_mem, Bool.not_eq_true', decide_eq_false_iff_not] at kept ⊢
    exact fun allowed => kept (subset allowed)

/-- A subscription that only allows causes no more blocking, wherever it is inserted into a
collection, as long as no query breaks off: a request or a new window that is blocked with it is
blocked without it, every policy that is added with it is added without it, and where an address
stands in for a request with it, one does without it. The caches may hold whatever they do. -/
theorem insert_onlyAllows {added : Subscription} (harmless : added.OnlyAllows)
    (before after : List Subscription) (name : Text) (state state' : QueryState) :
    let more : Collection := ⟨before ++ added :: after, name⟩
    let fewer : Collection := ⟨before ++ after, name⟩
    (∀ url frames types sitekey decision decision',
      ((more.classifyRequest url frames types sitekey).run.run state).1 = .ok decision →
      ((fewer.classifyRequest url frames types sitekey).run.run state').1 = .ok decision' →
      decision.isBlocked → decision'.isBlocked) ∧
    (∀ url opener sitekey decision decision',
      ((more.classifyPopup url opener sitekey).run.run state).1 = .ok decision →
      ((fewer.classifyPopup url opener sitekey).run.run state').1 = .ok decision' →
      decision.isBlocked → decision'.isBlocked) ∧
    (∀ url frames policies policies',
      ((more.policies url frames).run.run state).1 = .ok policies →
      ((fewer.policies url frames).run.run state').1 = .ok policies' → policies ⊆ policies') ∧
    ∀ url frames target target',
      ((more.substitute url frames).run.run state).1 = .ok target →
      ((fewer.substitute url frames).run.run state').1 = .ok target' →
      target.isSome → target'.isSome := by
  refine ⟨?_, ?_, ?_, ?_⟩
  · intro url frames types sitekey
    exact relates_classifyRequest harmless url frames types sitekey state state'
  · intro url opener sitekey
    exact relates_classifyPopup harmless url opener sitekey state state'
  · intro url frames
    exact relates_policies harmless url frames state state'
  · intro url frames
    exact relates_substitute harmless url frames state state'

end Decisions

theorem insert_onlyAllows_popup :
    let blocking := Filter.ofLines false ["||ads.example^$popup"]
    let allowing := Filter.ofLines false ["@@||ads.example^$popup,domain=other.example"]
    ∃ s s', Snapshot.load (buildIndex blocking .absent []) = .ok s ∧
      Snapshot.load (buildIndex allowing .absent []) = .ok s' ∧
      let blocker : Subscription := ⟨s, 0, .installed, 0⟩
      let added : Subscription := ⟨s', 1, .installed, 0⟩
      let url : Text := "https://ads.example/"
      let opener : Text := "https://site.example/"
      ∀ state state', ∃ decision decision',
        ((classifyPopup ⟨[added, blocker], []⟩ url opener []).run.run state).1 = .ok decision ∧
        ((classifyPopup ⟨[blocker], []⟩ url opener []).run.run state').1 = .ok decision' ∧
        decision.isBlocked ∧ decision'.isBlocked := by
  intro blocking allowing
  have wellFormed : ∀ filter ∈ blocking, filter.WellFormed := Filter.wellFormed_ofLines false _
  have wellFormed' : ∀ filter ∈ allowing, filter.WellFormed := Filter.wellFormed_ofLines false _
  have fits : (buildIndex blocking .absent []).size < 2 ^ 32 :=
    size_buildIndex_lt (by decide +kernel)
  have fits' : (buildIndex allowing .absent []).size < 2 ^ 32 :=
    size_buildIndex_lt (by decide +kernel)
  obtain ⟨s, loaded, contains⟩ := Builder.load_ofFilters fits
  obtain ⟨s', loaded', contains'⟩ := Builder.load_ofFilters fits'
  refine ⟨s, s', loaded, loaded', ?_⟩
  intro blocker added url opener state state'
  have exempts : ∀ posting ∈ (Builder.ofFilters allowing).postings.toList,
      posting.index = .url .popup .allowing := by decide +kernel
  have vacant : ∀ index ≠ .url .popup .allowing, s'.IsVacant index := by
    intro index other
    refine .inl (contains'.nothing_of_unposted fun posting member => ?_).1
    rw [exempts posting member]
    exact other.symm
  have harmless : added.OnlyAllows :=
    ⟨vacant _ (by decide), vacant _ (by decide), vacant _ (by decide), vacant _ (by decide)⟩
  have blocks : (blocker.hasPopupFilter url (Url.hostOrEmpty opener) [] .blocking).Gives true := by
    refine blocker.gives_has contains wellFormed rfl ?_ ?_ ?_ <;> decide +kernel
  have passes : (blocker.hasPopupFilter url (Url.hostOrEmpty opener) [] .allowing).Gives false := by
    refine blocker.gives_has contains wellFormed rfl ?_ ?_ ?_ <;> decide +kernel
  have silent : (added.hasPopupFilter url (Url.hostOrEmpty opener) [] .blocking).Gives false := by
    refine added.gives_has contains' wellFormed' rfl ?_ ?_ ?_ <;> decide +kernel
  have misses : (added.hasPopupFilter url (Url.hostOrEmpty opener) [] .allowing).Gives false := by
    refine added.gives_has contains' wellFormed' rfl ?_ ?_ ?_ <;> decide +kernel
  have alone : (classifyPopup ⟨[blocker], []⟩ url opener []).Gives (.blocked blocker.source) := by
    have blocking : (findPopup ⟨[blocker], []⟩ url opener [] .blocking).Gives
        (some blocker.source) :=
      gives_bind (gives_bind blocks (gives_pure (some blocker))) (gives_pure _)
    have allowing : (findPopup ⟨[blocker], []⟩ url opener [] .allowing).Gives none :=
      gives_bind (gives_bind passes (gives_pure none)) (gives_pure _)
    exact gives_bind blocking (gives_bind allowing (gives_pure _))
  have together : (classifyPopup ⟨[added, blocker], []⟩ url opener []).Gives
      (.blocked blocker.source) := by
    have blocking : (findPopup ⟨[added, blocker], []⟩ url opener [] .blocking).Gives
        (some blocker.source) :=
      gives_bind (gives_bind silent (gives_bind blocks (gives_pure (some blocker)))) (gives_pure _)
    have allowing : (findPopup ⟨[added, blocker], []⟩ url opener [] .allowing).Gives none :=
      gives_bind (gives_bind misses (gives_bind passes (gives_pure none))) (gives_pure _)
    exact gives_bind blocking (gives_bind allowing (gives_pure _))
  refine ⟨_, _, together state, alone state', rfl, ?_⟩
  exact (insert_onlyAllows harmless [] [blocker] [] state state').2.1 url opener [] _ _
    (together state) (alone state') rfl

end Collection

end ContentBlocker
