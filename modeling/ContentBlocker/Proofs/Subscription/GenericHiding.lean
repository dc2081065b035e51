import ContentBlocker.Proofs.Matching.Completion
import ContentBlocker.Proofs.Subscription.SameMembers
/-!
# Switching generic hiding off

Where generic hiding is switched off for a frame, the generic filters that hide count no longer, and
neither do the generic filters that keep from hiding. A subscription that only switches it off can
therefore bring back a selector of a specific filter that a generic exception names. In no other way
does it hide more.
-/

namespace ContentBlocker

open Query

namespace Subscription

/-- All filters of the subscription are in one sub-index. -/
def HoldsOnly (s : Subscription) (index : SubIndex) : Prop :=
  ∀ other ≠ index, ∀ key, s.snapshot.lookup other key = []

/-- The subscription has no filters that hide. -/
def HidesNothing (s : Subscription) : Prop := ∀ key, s.snapshot.lookup (.content .hide) key = []

/-- A generic filter that does not avoid the document keeps the selector from hiding. -/
def ExceptsGenerically [Host.SuffixList] (s : Subscription) (document selector : Text) : Prop :=
  ∃ found, s.contentUnder .hideException document [] = .ok found ∧
    selector ∈ found.map IndexedContent.selector

section Hiding

variable [Host.SuffixList] {s : Subscription} {url document key selector : Text}
  {said said' : ContentData}

theorem of_hidingUnder_eq_ok (answered : s.hidingUnder document key = .ok said) :
    ∃ exceptions selectors, s.contentUnder .hideException document key = .ok exceptions ∧
      s.contentUnder .hide document key = .ok selectors ∧
      said.exceptions = exceptions.map IndexedContent.selector ∧
      said.selectors = selectors.map IndexedContent.selector := by
  unfold hidingUnder at answered
  cases exceptions : s.contentUnder .hideException document key with
  | error fault =>
    rw [exceptions] at answered
    cases answered
  | ok excepted =>
    cases selectors : s.contentUnder .hide document key with
    | error fault =>
      rw [exceptions, selectors] at answered
      cases answered
    | ok hidden =>
      rw [exceptions, selectors] at answered
      cases answered
      exact ⟨excepted, hidden, rfl, rfl, rfl, rfl⟩

theorem HidesNothing.hidingUnder (h : s.HidesNothing)
    (answered : s.hidingUnder document key = .ok said) : said.selectors = [] := by
  have none : s.contentUnder .hide document key = .ok [] := by
    rw [contentUnder, h]
    rfl
  obtain ⟨-, selectors, -, found, -, same⟩ := of_hidingUnder_eq_ok answered
  rw [none] at found
  cases found
  exact same

/-- What hides in a frame is said under the name of the host or a suffix of it, or without name. -/
theorem mem_elementData {specific : Bool} (answered : s.elementData url specific = .ok said) :
    let keys := (if specific then [] else [[]]) ++ Host.lookupKeys (frameHost url)
    (∀ selector, selector ∈ said.selectors ↔ ∃ key ∈ keys, ∃ part,
      s.hidingUnder (frameHost url) key = .ok part ∧ selector ∈ part.selectors) ∧
    ∀ selector, selector ∈ said.exceptions ↔ ∃ key ∈ keys, ∃ part,
      s.hidingUnder (frameHost url) key = .ok part ∧ selector ∈ part.exceptions := by
  obtain ⟨-, parts⟩ := foldlM_append_eq_ok answered
  constructor
  · intro selector
    rw [parts ContentData.selectors fun _ _ => rfl]
    simp [ContentData.empty]
  · intro selector
    rw [parts ContentData.exceptions fun _ _ => rfl]
    simp [ContentData.empty]

theorem HidesNothing.elementData (h : s.HidesNothing) {specific : Bool}
    (answered : s.elementData url specific = .ok said) : said.selectors = [] := by
  refine List.eq_nil_iff_forall_not_mem.2 fun selector member => ?_
  obtain ⟨key, -, part, under, there⟩ := ((mem_elementData answered).1 selector).1 member
  rw [h.hidingUnder under] at there
  cases there

theorem selectors_subset_of_specific (answered : s.elementData url true = .ok said)
    (answered' : s.elementData url false = .ok said') : said.selectors ⊆ said'.selectors := by
  intro selector member
  obtain ⟨key, looked, found⟩ := ((mem_elementData answered).1 selector).1 member
  exact ((mem_elementData answered').1 selector).2 ⟨key, List.mem_cons_of_mem _ looked, found⟩

/-- An exception that counts only where generic filters do is a generic one. -/
theorem exceptsGenerically_of_mem (answered : s.elementData url true = .ok said)
    (answered' : s.elementData url false = .ok said') (member : selector ∈ said'.exceptions)
    (unnamed : selector ∉ said.exceptions) : s.ExceptsGenerically (frameHost url) selector := by
  obtain ⟨key, looked, part, under, there⟩ := ((mem_elementData answered').2 selector).1 member
  rcases List.mem_cons.1 looked with rfl | looked
  · obtain ⟨exceptions, -, found, -, same, -⟩ := of_hidingUnder_eq_ok under
    rw [same] at there
    exact ⟨exceptions, found, there⟩
  · exact absurd (((mem_elementData answered).2 selector).2 ⟨key, looked, part, under, there⟩)
      unnamed

theorem elementData_answers (s : Subscription)
    (noEndDot : (Url.hostOrEmpty url).getLast? ≠ some '.') (specific : Bool) :
    ∃ said, s.elementData url specific = .ok said := by
  have under : ∀ key, ∃ part, s.hidingUnder (frameHost url) key = .ok part := by
    intro key
    have looked := s.contentUnder_eq_ok (Text.getLast?_lower_ne_dot noEndDot)
    rw [Subscription.hidingUnder, frameHost, looked, looked]
    exact ⟨_, rfl⟩
  choose part answers using under
  obtain ⟨said, gathered, -⟩ := gather_ok _ answers
  exact ⟨said, gathered⟩

end Hiding

/-- The document that holds a frame of a chain is itself a frame of the chain. -/
theorem exists_of_mem_frameChain {frames : List Text} {frame domain : Text}
    (member : (frame, domain) ∈ frameChain frames) :
    ∃ holder ∈ frames, domain = Url.hostOrEmpty holder := by
  induction frames using frameChain.induct with
  | case1 => cases member
  | case2 only =>
    rw [frameChain, List.mem_singleton] at member
    cases member
    exact ⟨_, List.mem_cons_self, rfl⟩
  | case3 first parent rest ih =>
    rw [frameChain] at member
    rcases List.mem_cons.1 member with here | later
    · cases here
      exact ⟨parent, by simp, rfl⟩
    · obtain ⟨holder, among, same⟩ := ih later
      exact ⟨holder, List.mem_cons_of_mem _ among, same⟩

section Completion

variable [RegexEngine] [Host.SuffixList] (s : Subscription) {url : Text} {frames : List Text}

theorem completes_hasSpecialFilter (type : SpecialType) (url : Text) {document : Text}
    (noEndDot : document.getLast? ≠ some '.') (sitekey : Text) :
    (s.hasSpecialFilter type url document sitekey).Completes :=
  (completes_findFirst s.slot s.snapshot _ (Text.getLast?_lower_ne_dot noEndDot)).bind fun _ =>
    completes_pure _

theorem completes_hasSpecialFilterFor (type : SpecialType)
    (noEndDot : ∀ address ∈ url :: frames, (Url.hostOrEmpty address).getLast? ≠ some '.')
    (sitekey : Text) : (s.hasSpecialFilterFor type url frames sitekey).Completes := by
  have document : (documentDomain url frames).getLast? ≠ some '.' := by
    unfold documentDomain
    cases frames with
    | nil => exact noEndDot url List.mem_cons_self
    | cons frame rest => exact noEndDot frame (by simp)
  refine (s.completes_hasSpecialFilter type url document sitekey).bind fun found => ?_
  cases found with
  | true => exact completes_pure true
  | false =>
    refine completes_anyM ?_
    rintro ⟨frame, domain⟩ member
    obtain ⟨holder, among, rfl⟩ := exists_of_mem_frameChain member
    exact s.completes_hasSpecialFilter type frame (noEndDot holder (List.mem_cons_of_mem _ among))
      sitekey

end Completion

/-- What a subscription says about hiding in a frame, if it is loaded from the index of a list. -/
theorem elementData_ok [Host.SuffixList] {s : Subscription} {filters : List Filter}
    {metadata : Metadata} {source : Text}
    (contains : s.snapshot.Contains (Builder.ofFilters filters) metadata source)
    (wellFormed : ∀ filter ∈ filters, filter.WellFormed) {url : Text}
    (noEndDot : (frameHost url).getLast? ≠ some '.') {specific : Bool} {said : ContentData}
    (gathers : ((if specific then [] else [[]]) ++ Host.lookupKeys (frameHost url)).foldl
      (fun data key => data.append (hidingFiled filters (frameHost url) key)) .empty = said) :
    s.elementData url specific = .ok said := by
  unfold elementData gather
  dsimp only
  rw [funext (hidingUnder_ok contains wellFormed noEndDot), ← gathers]
  exact List.foldlM_pure

end Subscription

namespace Collection

open Subscription

section Combined

variable [RegexEngine]

/-- A selector hides if a subscription says so and none says otherwise. -/
theorem ensures_combine (c : Collection) (say : Subscription → Except Host.Fault ContentData) :
    (c.combine say).Ensures fun data =>
      (∀ s ∈ c.subscriptions, ∃ said, say s = .ok said) ∧
      ∀ selector, selector ∈ data.selectors ↔
        (∃ s ∈ c.subscriptions, ∃ said, say s = .ok said ∧ selector ∈ said.selectors) ∧
        ¬ ∃ s ∈ c.subscriptions, ∃ said, say s = .ok said ∧ selector ∈ said.exceptions := by
  unfold combine
  rw [foldlM_liftM]
  refine ensures_bind (ensures_liftM _) fun data folded => ensures_pure ?_
  obtain ⟨answers, parts⟩ := foldlM_append_eq_ok folded
  refine ⟨answers, fun selector => ?_⟩
  have selectors := parts ContentData.selectors (fun _ _ => rfl) selector
  have exceptions := parts ContentData.exceptions (fun _ _ => rfl) selector
  simp only [ContentData.empty, List.not_mem_nil, false_or] at selectors exceptions
  simp [ContentData.reduce, List.mem_filter, selectors, exceptions]

/-- What hides is what the subscriptions say, put together in their order. -/
theorem gives_combine {subscriptions : List Subscription} {parts : List ContentData}
    (name : Text) (say : Subscription → Except Host.Fault ContentData)
    (answers : List.Forall₂ (fun s part => say s = .ok part) subscriptions parts) :
    (combine ⟨subscriptions, name⟩ say).Gives (parts.foldl ContentData.append .empty).reduce := by
  refine gives_bind ?_ (gives_pure _)
  generalize ContentData.empty = start
  induction answers generalizing start with
  | nil => exact gives_pure start
  | cons answered _ ih =>
    rw [List.foldlM_cons, answered]
    exact gives_bind (gives_bind (gives_ok _) (gives_pure _)) (ih _)

theorem completes_combine {c : Collection} {say : Subscription → Except Host.Fault ContentData}
    (answers : ∀ s, ∃ said, say s = .ok said) : (c.combine say).Completes := by
  choose said answers using answers
  have parts : List.Forall₂ (fun s part => say s = .ok part) c.subscriptions
      (c.subscriptions.map said) :=
    List.forall₂_map_right_iff.2 (List.forall₂_same.2 fun s _ => answers s)
  exact ⟨_, gives_combine c.name say parts⟩

end Combined

section Insert

variable [RegexEngine] {before after : List Subscription} {added : Subscription} {name : Text}

/-- If what is inserted hides nothing, and the others say of no more selectors that they hide, then
what hides did so before, or has lost its exception. -/
theorem relates_combine_insert {say say' : Subscription → Except Host.Fault ContentData}
    (silent : ∀ said, say added = .ok said → said.selectors = [])
    (fewer : ∀ s said said', say s = .ok said → say' s = .ok said' →
      said.selectors ⊆ said'.selectors) :
    Relates (fun data data' => ∀ selector ∈ data.selectors, selector ∈ data'.selectors ∨
        ∃ s ∈ before ++ after, ∃ said said', say s = .ok said ∧ say' s = .ok said' ∧
          selector ∈ said'.exceptions ∧ selector ∉ said.exceptions)
      (combine ⟨before ++ added :: after, name⟩ say)
      (combine ⟨before ++ after, name⟩ say') := by
  refine relates_of_ensures (ensures_combine _ say) (ensures_combine _ say') ?_
  rintro data data' ⟨answers, hides⟩ ⟨answers', hides'⟩ selector member
  obtain ⟨⟨s, among, said, answered, there⟩, unnamed⟩ := (hides selector).1 member
  have others : ∀ s ∈ before ++ after, s ∈ before ++ added :: after := fun s member =>
    sublist_insert.subset member
  have stays : s ∈ before ++ after := by
    rw [List.mem_append, List.mem_cons] at among
    rcases among with first | rfl | last
    · exact List.mem_append_left _ first
    · rw [silent said answered] at there
      cases there
    · exact List.mem_append_right _ last
  by_cases named : ∃ s ∈ before ++ after, ∃ said', say' s = .ok said' ∧ selector ∈ said'.exceptions
  · obtain ⟨s', among', said', answered', excepted⟩ := named
    obtain ⟨without, saidWithout⟩ := answers s' (others s' among')
    refine .inr ⟨s', among', without, said', saidWithout, answered', excepted, fun still => ?_⟩
    exact unnamed ⟨s', others s' among', without, saidWithout, still⟩
  · obtain ⟨said', answered'⟩ := answers' s stays
    exact .inl ((hides' selector).2
      ⟨⟨s, stays, said', answered', fewer s said said' answered answered' there⟩, named⟩)

variable [Host.SuffixList]

theorem relates_elementData_insert (harmless : added.HidesNothing) (url : Text)
    (frames : List Text) (sitekey : Text) :
    Relates (fun data data' => ∀ selector ∈ data.selectors, selector ∈ data'.selectors ∨
        ((added.hasSpecialFilterFor .generichide url frames sitekey).CanGive true ∧
          (findSpecial ⟨before ++ after, name⟩ .generichide url frames sitekey).CanGive none ∧
          ∃ s ∈ before ++ after, s.ExceptsGenerically (frameHost url) selector))
      (elementData ⟨before ++ added :: after, name⟩ url frames sitekey)
      (elementData ⟨before ++ after, name⟩ url frames sitekey) := by
  unfold elementData
  refine relates_bind ((relates_findSource_insert fun s => s.steady_hasSpecialFilterFor
    .generichide url frames sitekey).and_ensures (ensures_canGive _)) ?_
  rintro off off' ⟨same, given⟩
  by_cases alike : off.isSome = off'.isSome
  · rw [alike]
    refine (relates_combine_insert (fun _ => harmless.elementData) ?_).mono ?_
    · intro s said said' answered answered'
      rw [answered] at answered'
      cases answered'
      exact fun _ => id
    · intro data data' fewer selector member
      refine (fewer selector member).imp_right ?_
      rintro ⟨s, -, said, said', answered, answered', excepted, unnamed⟩
      rw [answered] at answered'
      cases answered'
      exact absurd excepted unnamed
  · -- only `added` switches generic hiding off
    obtain ⟨rfl, switches⟩ := same.resolve_left fun eq => alike (congrArg Option.isSome eq)
    obtain rfl : off' = none := by
      rw [← Option.not_isSome_iff_eq_none]
      exact fun found => alike found.symm
    refine (relates_combine_insert (fun _ => harmless.elementData)
      fun s _ _ => selectors_subset_of_specific).mono fun data data' fewer selector member => ?_
    refine (fewer selector member).imp_right ?_
    rintro ⟨s, among, said, said', answered, answered', excepted, unnamed⟩
    exact ⟨switches, given, s, among, exceptsGenerically_of_mem answered answered' excepted unnamed⟩

theorem completes_elementData (c : Collection) {url : Text} {frames : List Text}
    (noEndDot : ∀ address ∈ url :: frames, (Url.hostOrEmpty address).getLast? ≠ some '.')
    (sitekey : Text) : (c.elementData url frames sitekey).Completes := by
  have off : (c.findSpecial .generichide url frames sitekey).Completes :=
    (completes_findM? fun s _ => s.completes_hasSpecialFilterFor _ noEndDot sitekey).bind fun _ =>
      completes_pure _
  exact off.bind fun _ => completes_combine fun s =>
    s.elementData_answers (noEndDot url List.mem_cons_self) _

/-- A subscription that hides nothing, wherever it is inserted into a collection, lets a selector
hide that does not hide without it only if it is what switches generic hiding off for the frame, and
a generic exception of another subscription names the selector. The caches may hold whatever they
do. If no host in question ends in a dot, what hides is found with the subscription and without
it. -/
theorem selectors_elementData_insert (harmless : added.HidesNothing) (url : Text)
    (frames : List Text) (sitekey : Text) :
    (∀ state state' data data',
      ((elementData ⟨before ++ added :: after, name⟩ url frames sitekey).run.run state).1 =
        .ok data →
      ((elementData ⟨before ++ after, name⟩ url frames sitekey).run.run state').1 = .ok data' →
      ∀ selector ∈ data.selectors, selector ∈ data'.selectors ∨
        ((added.hasSpecialFilterFor .generichide url frames sitekey).CanGive true ∧
          (findSpecial ⟨before ++ after, name⟩ .generichide url frames sitekey).CanGive none ∧
          ∃ s ∈ before ++ after, s.ExceptsGenerically (frameHost url) selector)) ∧
    ((∀ address ∈ url :: frames, (Url.hostOrEmpty address).getLast? ≠ some '.') →
      (elementData ⟨before ++ added :: after, name⟩ url frames sitekey).Completes ∧
        (elementData ⟨before ++ after, name⟩ url frames sitekey).Completes) :=
  ⟨relates_elementData_insert harmless url frames sitekey, fun noEndDot =>
    ⟨completes_elementData _ noEndDot sitekey, completes_elementData _ noEndDot sitekey⟩⟩

end Insert

/-- A list with a specific filter and a generic exception for its selector, and a list that only
switches generic hiding off: the selector hides once the second list is there. -/
theorem gives_elementData_generichide :
    let elements := Filter.ofLines false ["#@#.banner", "news.test##.banner", "news.test##.ad"]
    let switching := Filter.ofLines false ["@@||news.test^$generichide"]
    let url : Text := "https://news.test/"
    ∃ s s', Snapshot.load (buildIndex elements .absent []) = .ok s ∧
      Snapshot.load (buildIndex switching .absent []) = .ok s' ∧
      let first : Subscription := ⟨s, 0, .installed, 0⟩
      let added : Subscription := ⟨s', 1, .installed, 0⟩
      added.HoldsOnly (.special .generichide) ∧
      (elementData ⟨[first, added], []⟩ url [] []).Gives
          ⟨[".banner".toList, ".ad".toList], [], [], []⟩ ∧
        (elementData ⟨[first], []⟩ url [] []).Gives ⟨[".ad".toList], [], [], []⟩ := by
  intro elements switching url
  have wellFormed : ∀ filter ∈ elements, filter.WellFormed := Filter.wellFormed_ofLines false _
  have wellFormed' : ∀ filter ∈ switching, filter.WellFormed := Filter.wellFormed_ofLines false _
  have fits : (buildIndex elements .absent []).size < 2 ^ 32 :=
    size_buildIndex_lt (by decide +kernel)
  have fits' : (buildIndex switching .absent []).size < 2 ^ 32 :=
    size_buildIndex_lt (by decide +kernel)
  obtain ⟨s, loaded, contains⟩ := Builder.load_ofFilters fits
  obtain ⟨s', loaded', contains'⟩ := Builder.load_ofFilters fits'
  refine ⟨s, s', loaded, loaded', ?_⟩
  intro first added
  have switches : ∀ posting ∈ (Builder.ofFilters switching).postings.toList,
      posting.index = .special .generichide := by decide +kernel
  have only : added.HoldsOnly (.special .generichide) := by
    intro index other
    refine (contains'.nothing_of_unposted fun posting member => ?_).2.1
    rw [switches posting member]
    exact other.symm
  have noEndDot : (frameHost url).getLast? ≠ some '.' := by decide +kernel
  -- what each list answers by itself
  have counts : (first.hasSpecialFilterFor .generichide url [] []).Gives false := by
    refine first.gives_hasSpecialFilterFor (first.gives_has contains wellFormed rfl ?_ ?_ ?_)
      <;> decide +kernel
  have off : (added.hasSpecialFilterFor .generichide url [] []).Gives true := by
    refine added.gives_hasSpecialFilterFor (added.gives_has contains' wellFormed' rfl ?_ ?_ ?_)
      <;> decide +kernel
  have specific : first.elementData url true = .ok ⟨[".banner".toList, ".ad".toList], [], [], []⟩ :=
    elementData_ok contains wellFormed noEndDot (by decide +kernel)
  have all : first.elementData url false =
      .ok ⟨[".banner".toList, ".ad".toList], [".banner".toList], [], []⟩ :=
    elementData_ok contains wellFormed noEndDot (by decide +kernel)
  have silent : added.elementData url true = .ok .empty :=
    elementData_ok contains' wellFormed' noEndDot (by decide +kernel)
  refine ⟨only, ?_, ?_⟩
  · have generic : (findSpecial ⟨[first, added], []⟩ .generichide url [] []).Gives
        (some added.source) :=
      gives_bind (gives_bind counts (gives_bind off (gives_pure (some added)))) (gives_pure _)
    exact gives_bind generic (gives_combine [] (fun s => s.elementData url true)
      (.cons specific (.cons silent .nil)))
  · have generic : (findSpecial ⟨[first], []⟩ .generichide url [] []).Gives none :=
      gives_bind (gives_bind counts (gives_pure none)) (gives_pure _)
    exact gives_bind generic (gives_combine [] (fun s => s.elementData url false)
      (.cons all .nil))

theorem selectors_elementData_insert_generichide :
    let elements := Filter.ofLines false ["#@#.banner", "news.test##.banner", "news.test##.ad"]
    let switching := Filter.ofLines false ["@@||news.test^$generichide"]
    let url : Text := "https://news.test/"
    ∃ s s', Snapshot.load (buildIndex elements .absent []) = .ok s ∧
      Snapshot.load (buildIndex switching .absent []) = .ok s' ∧
      let first : Subscription := ⟨s, 0, .installed, 0⟩
      let added : Subscription := ⟨s', 1, .installed, 0⟩
      added.HidesNothing ∧ (∀ state state', ∃ data data',
        ((elementData ⟨[first] ++ added :: [], []⟩ url [] []).run.run state).1 = .ok data ∧
        ((elementData ⟨[first] ++ [], []⟩ url [] []).run.run state').1 = .ok data' ∧
        ".banner".toList ∈ data.selectors ∧ ".banner".toList ∉ data'.selectors) ∧
      (added.hasSpecialFilterFor .generichide url [] []).CanGive true ∧
      first.ExceptsGenerically (frameHost url) ".banner".toList ∧
      (elementData ⟨[first] ++ added :: [], []⟩ url [] []).Completes := by
  intro elements switching url
  obtain ⟨s, s', loaded, loaded', only, more, fewer⟩ := gives_elementData_generichide
  have harmless : Subscription.HidesNothing ⟨s', 1, .installed, 0⟩ := only _ (by decide)
  have insert :=
    @selectors_elementData_insert _ [⟨s, 0, .installed, 0⟩] [] _ [] _ harmless url [] []
  obtain ⟨switches, -, first, member, excepts⟩ := (insert.1 .empty .empty _ _ (more .empty)
    (fewer .empty) ".banner".toList (by simp)).resolve_left (by decide)
  rw [List.mem_singleton.1 member] at excepts
  refine ⟨s, s', loaded, loaded', harmless, fun state state' => ?_, switches, excepts,
    (insert.2 (by decide +kernel)).1⟩
  exact ⟨_, _, more state, fewer state', by simp, by decide⟩

/-- A subscription that only switches generic hiding off can make a selector hide. -/
theorem not_selectors_elementData_insert :
    ¬ ∀ [RegexEngine] [Host.SuffixList], RegexEngine.OrdinarySearch →
      ∀ (before after : List Subscription) (added : Subscription) (name url : Text)
        (frames : List Text) (sitekey : Text) (state state' : QueryState)
        (data data' : ContentData), added.HoldsOnly (.special .generichide) →
        ((elementData ⟨before ++ added :: after, name⟩ url frames sitekey).run.run state).1 =
          .ok data →
        ((elementData ⟨before ++ after, name⟩ url frames sitekey).run.run state').1 = .ok data' →
        data.selectors ⊆ data'.selectors := by
  intro claimed
  obtain ⟨s, s', -, -, only, more, fewer⟩ := gives_elementData_generichide
  have subset := claimed referenceEngine_ordinarySearch [_] [] _ [] _ _ _ .empty .empty _ _ only
    (more .empty) (fewer .empty)
  have absent : ".banner".toList ∉ [".ad".toList] := by decide
  exact absent (subset (by simp))

end Collection

end ContentBlocker
