import ContentBlocker.Proofs.Matching.SameItems
import ContentBlocker.Proofs.Subscription.ElementHiding
import ContentBlocker.Proofs.Subscription.Responses
import ContentBlocker.Proofs.Text.Ordered
import Mathlib.Data.Char
import Mathlib.Data.List.Lex
import Mathlib.Order.RelIso.Basic
/-!
# The order of subscriptions does not matter

Two collections of the same subscriptions, in any order and with any repetitions, decide alike: what
becomes of a request, a new window or a response, which policies and conditions there are, whether
an address stands in for a request, and which elements are hidden. The order decides only which list
is named as the reason, and which of several addresses stands in.
-/

namespace ContentBlocker

open Query

/-- What becomes of a request, without the list that decided it. -/
inductive Verdict where
  | noMatch
  | blocked
  | allowed
  deriving DecidableEq, Repr

/-- A decision without its list. -/
def Decision.verdict : Decision → Verdict
  | noMatch => .noMatch
  | blocked _ => .blocked
  | allowed _ => .allowed

instance : IsStrictTotalOrder HeaderCondition (· < ·) :=
  let place : ((· < ·) : HeaderCondition → HeaderCondition → Prop) ↪r
      ((· < ·) : List Text → List Text → Prop) :=
    { toFun := fun condition => [condition.header, condition.source]
      inj' := by
        rintro ⟨header, source⟩ ⟨header', source'⟩ same
        simpa using same
      map_rel_iff' := Iff.rfl }
  place.isStrictTotalOrder

/-- The same selectors and declarations, in any order and with any repetitions. -/
structure ContentData.SameMembers (a b : ContentData) : Prop where
  selectors : ContentBlocker.SameMembers a.selectors b.selectors
  exceptions : ContentBlocker.SameMembers a.exceptions b.exceptions
  removed : ContentBlocker.SameMembers a.removed b.removed
  inlineCss : ContentBlocker.SameMembers a.inlineCss b.inlineCss

theorem ContentData.SameMembers.reduce {a b : ContentData} (same : a.SameMembers b) :
    a.reduce.SameMembers b.reduce := by
  constructor <;> simp only [ContentData.reduce, List.contains_eq_mem, same.exceptions _]
  · exact same.selectors.filter _
  · exact fun _ => Iff.rfl
  · exact same.removed.filter _
  · exact same.inlineCss.filter _

namespace Collection

open Subscription

section Same

variable [RegexEngine] {c c' : Collection} (same : SameMembers c.subscriptions c'.subscriptions)

include same

theorem relates_findSource_of_same {holds : Subscription → Query Bool}
    (h : ∀ s, (holds s).Steady) :
    Relates (fun found found' => found.isSome = found'.isSome) (c.findSource holds)
      (c'.findSource holds) := by
  refine relates_bind (relates_findM?_of_same h same) fun found found' alike => relates_pure ?_
  rw [Option.isSome_map, Option.isSome_map, alike]

theorem relates_owners_of_same {say : Subscription → Query (List Text)}
    (h : ∀ s, (say s).Steady) : Relates SameMembers (c.owners say) (c'.owners say) := by
  refine relates_bind (relates_mapM_of_same (fun s => (h s).bind fun _ => steady_pure _) same)
    fun said said' alike => relates_pure ?_
  exact alike.filter _

variable [Host.SuffixList]

theorem relates_anySpecial_of_same (type : SpecialType) (url : Text) (frames : List Text) :
    Relates Eq (c.anySpecial type url frames) (c'.anySpecial type url frames) :=
  relates_anyM_of_same (fun s => s.steady_hasSpecialFilterFor type url frames []) same

theorem relates_headerConditions_of_same (url : Text) (frames : List Text) (types : ContentTypes)
    (aim : Aim) :
    Relates Eq (c.headerConditions url frames types aim)
      (c'.headerConditions url frames types aim) := by
  unfold headerConditions
  refine relates_bind (relates_flatMapM_of_same (steady_conditions url types _ aim) same)
    fun found found' alike => relates_pure ?_
  exact orderedSet_congr alike

theorem relates_classifyRequest_of_same (url : Text) (frames : List Text) (types : ContentTypes)
    (sitekey : Text) :
    Relates (fun decision decision' => decision.verdict = decision'.verdict)
      (c.classifyRequest url frames types sitekey)
      (c'.classifyRequest url frames types sitekey) := by
  have request : ∀ aim, Relates (fun found found' => found.isSome = found'.isSome)
      (c.findRequest url frames types sitekey aim) (c'.findRequest url frames types sitekey aim) :=
    fun aim => relates_findSource_of_same same fun s => s.steady_has _ _
  unfold classifyRequest
  refine relates_bind (request .blocking) fun blocking blocking' alike => ?_
  match blocking, blocking' with
  | none, none => exact relates_pure rfl
  | some blocking, some blocking' =>
    refine relates_bind (relates_findSource_of_same same fun s => s.steady_hasAllowFilter url frames
      types sitekey) fun allow allow' alike => ?_
    match allow, allow' with
    | some allow, some allow' =>
      exact relates_bind (P := fun _ _ => True) (fun _ _ _ _ _ _ => trivial) fun _ _ _ =>
        relates_pure rfl
    | none, none =>
      refine relates_bind (relates_findSource_of_same same fun s => s.steady_hasSpecialFilterFor
        .genericblock url frames sitekey) fun generic generic' alike => ?_
      match generic, generic' with
      | none, none => exact relates_pure rfl
      | some _, some _ =>
        refine relates_bind (request .specificBlocking) fun specific specific' alike => ?_
        match specific, specific' with
        | none, none => exact relates_pure rfl
        | some _, some _ => exact relates_pure rfl

theorem relates_classifyPopup_of_same (url opener sitekey : Text) :
    Relates (fun decision decision' => decision.verdict = decision'.verdict)
      (c.classifyPopup url opener sitekey) (c'.classifyPopup url opener sitekey) := by
  have popup : ∀ aim, Relates (fun found found' => found.isSome = found'.isSome)
      (c.findPopup url opener sitekey aim) (c'.findPopup url opener sitekey aim) :=
    fun aim => relates_findSource_of_same same fun s => s.steady_has _ _
  unfold classifyPopup
  refine relates_bind (popup .blocking) fun blocking blocking' alike => ?_
  match blocking, blocking' with
  | none, none => exact relates_pure rfl
  | some blocking, some blocking' =>
    refine relates_bind (popup .allowing) fun allow allow' alike => ?_
    match allow, allow' with
    | none, none => exact relates_pure rfl
    | some _, some _ => exact relates_pure rfl

theorem relates_classifyResponse_of_same (url : Text) (frames : List Text) (types : ContentTypes)
    (headers : List (Text × Text)) :
    Relates (fun decision decision' => decision.verdict = decision'.verdict)
      (c.classifyResponse url frames types headers)
      (c'.classifyResponse url frames types headers) := by
  have conditions := relates_headerConditions_of_same same url frames types
  have special : ∀ type, Relates (fun found found' => found.isSome = found'.isSome)
      (c.findSpecial type url frames []) (c'.findSpecial type url frames []) :=
    fun type => relates_findSource_of_same same fun s => s.steady_hasSpecialFilterFor _ _ _ _
  unfold classifyResponse
  refine relates_bind (conditions .blocking) ?_
  rintro blocking _ rfl
  by_cases nothing : blocking = []
  · rw [if_pos nothing, if_pos nothing]
    exact relates_pure rfl
  rw [if_neg nothing, if_neg nothing]
  refine relates_bind (special .document) fun off off' alike => ?_
  match off, off' with
  | some _, some _ => exact relates_pure rfl
  | none, none =>
    refine relates_bind (special .genericblock) fun generic generic' alike => ?_
    match generic, generic' with
    | some _, some _ =>
      refine relates_bind (conditions .specificBlocking) ?_
      rintro specific _ rfl
      exact relates_pure rfl
    | none, none =>
      refine relates_bind (conditions .allowing) ?_
      rintro allowing _ rfl
      exact relates_pure rfl

theorem relates_policies_of_same (url : Text) (frames : List Text) :
    Relates Eq (c.policies url frames) (c'.policies url frames) := by
  unfold policies
  refine relates_bind (relates_owners_of_same same fun s => s.steady_policies _ _ _)
    fun owners owners' alike => ?_
  rw [alike.isEmpty]
  by_cases nobody : owners'.isEmpty
  · rw [if_pos nobody, if_pos nobody]
    exact relates_pure rfl
  rw [if_neg nobody, if_neg nobody]
  refine relates_bind (relates_anySpecial_of_same same .document url frames) ?_
  rintro off _ rfl
  cases off with
  | true => exact relates_pure rfl
  | false =>
    refine relates_bind (relates_flatMapM_of_same (fun s => s.steady_policies _ _ _) same)
      fun allowing allowing' allowed => ?_
    simp only [List.contains_eq_mem, allowed _]
    by_cases blank : decide ([] ∈ allowing')
    · rw [if_pos blank, if_pos blank]
      exact relates_pure rfl
    rw [if_neg blank, if_neg blank]
    refine relates_bind (relates_anySpecial_of_same same .genericblock url frames) ?_
    rintro specific _ rfl
    refine relates_bind (relates_flatMapM_of_same ?_ alike)
      fun kept kept' alike => relates_pure (orderedSet_congr alike)
    rintro ⟨s, blocking⟩
    cases specific with
    | true => exact (s.steady_policies _ _ _).bind fun _ => steady_pure _
    | false => exact (steady_pure _).bind fun _ => steady_pure _

theorem relates_substitute_of_same (url : Text) (frames : List Text) :
    Relates (fun found found' => found.isSome = found'.isSome) (c.substitute url frames)
      (c'.substitute url frames) := by
  unfold substitute
  refine relates_bind (relates_owners_of_same same fun s => s.steady_substitutes _ _ _)
    fun owners owners' alike => ?_
  rw [alike.isEmpty]
  by_cases nobody : owners'.isEmpty
  · rw [if_pos nobody, if_pos nobody]
    exact relates_pure rfl
  rw [if_neg nobody, if_neg nobody]
  refine relates_bind (relates_anySpecial_of_same same .document url frames) ?_
  rintro off _ rfl
  cases off with
  | true => exact relates_pure rfl
  | false =>
    refine relates_bind (relates_flatMapM_of_same (fun s => s.steady_substitutes _ _ _) same)
      fun allowing allowing' allowed => ?_
    simp only [List.contains_eq_mem, allowed _]
    refine relates_bind (relates_anySpecial_of_same same .genericblock url frames) ?_
    rintro specific _ rfl
    refine relates_firstSome_of_same ?_ alike
    rintro ⟨s, blocking⟩
    cases specific with
    | true => exact (s.steady_substitutes _ _ _).bind fun _ => steady_pure _
    | false => exact (steady_pure _).bind fun _ => steady_pure _

end Same

section Combined

variable [RegexEngine]

/-- Putting together what subscriptions say involves no caches. -/
theorem foldlM_liftM (say : Subscription → Except Host.Fault ContentData)
    (subscriptions : List Subscription) (data : ContentData) :
    (subscriptions.foldlM (fun data s => return data.append (← say s)) data : Query ContentData) =
      liftM (subscriptions.foldlM (fun data s => return data.append (← say s)) data :
        Except Host.Fault ContentData) := by
  induction subscriptions generalizing data with
  | nil => rfl
  | cons s rest ih =>
    rw [List.foldlM_cons, List.foldlM_cons]
    cases say s with
    | error fault => rfl
    | ok said => exact ih _

/-- What is put together from the subscriptions of a collection holds what any of them says. -/
theorem ensures_foldlM_append {α : Type} {part : ContentData → List α}
    (append : ∀ a b, part (a.append b) = part a ++ part b)
    (say : Subscription → Except Host.Fault ContentData) (subscriptions : List Subscription)
    (data : ContentData) :
    (subscriptions.foldlM (fun data s => return data.append (← say s)) data :
      Query ContentData).Ensures fun found =>
        ∀ a, a ∈ part found ↔
          a ∈ part data ∨ ∃ s ∈ subscriptions, ∃ said, say s = .ok said ∧ a ∈ part said := by
  rw [foldlM_liftM]
  exact (ensures_liftM _).mono fun found folded => (foldlM_append_eq_ok folded).2 part append

theorem relates_combine_of_same {c c' : Collection}
    (same : SameMembers c.subscriptions c'.subscriptions)
    (say : Subscription → Except Host.Fault ContentData) :
    Relates ContentData.SameMembers (c.combine say) (c'.combine say) := by
  have alike {α : Type} {part : ContentData → List α}
      (append : ∀ a b, part (a.append b) = part a ++ part b) :
      Relates (fun data data' => SameMembers (part data) (part data'))
        (c.subscriptions.foldlM (fun data s => return data.append (← say s)) .empty)
        (c'.subscriptions.foldlM (fun data s => return data.append (← say s)) .empty) := by
    refine relates_of_ensures (ensures_foldlM_append append say _ _)
      (ensures_foldlM_append append say _ _) fun data data' is is' a => ?_
    rw [is, is']
    simp only [same _]
  unfold combine
  refine relates_bind (P := ContentData.SameMembers) ?_ fun data data' alike =>
    relates_pure alike.reduce
  intro state state' data data' answered answered'
  exact ⟨alike (fun _ _ => rfl) state state' data data' answered answered',
    alike (fun _ _ => rfl) state state' data data' answered answered',
    alike (fun _ _ => rfl) state state' data data' answered answered',
    alike (fun _ _ => rfl) state state' data data' answered answered'⟩

variable [Host.SuffixList]

theorem relates_elementData_of_same {c c' : Collection}
    (same : SameMembers c.subscriptions c'.subscriptions) (url : Text) (frames : List Text)
    (sitekey : Text) :
    Relates ContentData.SameMembers (c.elementData url frames sitekey)
      (c'.elementData url frames sitekey) := by
  unfold elementData
  refine relates_bind (relates_findSource_of_same same fun s => s.steady_hasSpecialFilterFor
    .generichide url frames sitekey) fun generic generic' alike => ?_
  rw [alike]
  exact relates_combine_of_same same _

/-- Collections of the same subscriptions, in any order and with any repetitions, decide alike as
long as no query breaks off: requests, new windows and responses get the same verdict, the policies
and header conditions are the same, an address stands in for a request in both or in neither, and
what is done to the elements of a frame is the same. The caches may hold whatever they do. -/
theorem sameMembers_decide {c c' : Collection}
    (same : SameMembers c.subscriptions c'.subscriptions) (state state' : QueryState) :
    (∀ url frames types sitekey decision decision',
      ((c.classifyRequest url frames types sitekey).run.run state).1 = .ok decision →
      ((c'.classifyRequest url frames types sitekey).run.run state').1 = .ok decision' →
      decision.verdict = decision'.verdict) ∧
    (∀ url opener sitekey decision decision',
      ((c.classifyPopup url opener sitekey).run.run state).1 = .ok decision →
      ((c'.classifyPopup url opener sitekey).run.run state').1 = .ok decision' →
      decision.verdict = decision'.verdict) ∧
    (∀ url frames types headers decision decision',
      ((c.classifyResponse url frames types headers).run.run state).1 = .ok decision →
      ((c'.classifyResponse url frames types headers).run.run state').1 = .ok decision' →
      decision.verdict = decision'.verdict) ∧
    (∀ url frames policies policies',
      ((c.policies url frames).run.run state).1 = .ok policies →
      ((c'.policies url frames).run.run state').1 = .ok policies' → policies = policies') ∧
    (∀ url frames types aim conditions conditions',
      ((c.headerConditions url frames types aim).run.run state).1 = .ok conditions →
      ((c'.headerConditions url frames types aim).run.run state').1 = .ok conditions' →
      conditions = conditions') ∧
    (∀ url frames target target',
      ((c.substitute url frames).run.run state).1 = .ok target →
      ((c'.substitute url frames).run.run state').1 = .ok target' →
      target.isSome = target'.isSome) ∧
    (∀ url frames sitekey data data',
      ((c.elementData url frames sitekey).run.run state).1 = .ok data →
      ((c'.elementData url frames sitekey).run.run state').1 = .ok data' →
      data.SameMembers data') ∧
    ∀ url data data',
      ((c.emulationData url).run.run state).1 = .ok data →
      ((c'.emulationData url).run.run state').1 = .ok data' → data.SameMembers data' := by
  refine ⟨?_, ?_, ?_, ?_, ?_, ?_, ?_, ?_⟩
  · intro url frames types sitekey
    exact relates_classifyRequest_of_same same url frames types sitekey state state'
  · intro url opener sitekey
    exact relates_classifyPopup_of_same same url opener sitekey state state'
  · intro url frames types headers
    exact relates_classifyResponse_of_same same url frames types headers state state'
  · intro url frames
    exact relates_policies_of_same same url frames state state'
  · intro url frames types aim
    exact relates_headerConditions_of_same same url frames types aim state state'
  · intro url frames
    exact relates_substitute_of_same same url frames state state'
  · intro url frames sitekey
    exact relates_elementData_of_same same url frames sitekey state state'
  · intro url
    exact relates_combine_of_same same (fun s => s.emulationData url) state state'

end Combined

/-- Two lists that block the same new window are named as the reason in turn. -/
theorem sameMembers_decide_popup :
    let filters := Filter.ofLines false ["||ads.example^$popup"]
    ∃ s s', Snapshot.load (buildIndex filters .absent "first") = .ok s ∧
      Snapshot.load (buildIndex filters .absent "second") = .ok s' ∧
      let first : Subscription := ⟨s, 0, .installed, 0⟩
      let second : Subscription := ⟨s', 1, .installed, 0⟩
      let url : Text := "https://ads.example/"
      let opener : Text := "https://site.example/"
      SameMembers [first, second] [second, first, second] ∧
      ∀ state state', ∃ decision decision',
        ((classifyPopup ⟨[first, second], []⟩ url opener []).run.run state).1 = .ok decision ∧
        ((classifyPopup ⟨[second, first, second], []⟩ url opener []).run.run state').1 =
          .ok decision' ∧
        decision ≠ decision' ∧ decision.verdict = decision'.verdict := by
  intro filters
  have wellFormed : ∀ filter ∈ filters, filter.WellFormed := Filter.wellFormed_ofLines false _
  have fits : (buildIndex filters .absent "first").size < 2 ^ 32 :=
    size_buildIndex_lt (by decide +kernel)
  have fits' : (buildIndex filters .absent "second").size < 2 ^ 32 :=
    size_buildIndex_lt (by decide +kernel)
  obtain ⟨s, loaded, contains⟩ := Builder.load_ofFilters fits
  obtain ⟨s', loaded', contains'⟩ := Builder.load_ofFilters fits'
  refine ⟨s, s', loaded, loaded', ?_⟩
  intro first second url opener
  have same : ∀ a b : Subscription, SameMembers [a, b] [b, a, b] := by
    intro a b c
    rw [List.mem_cons (a := c) (b := b), or_iff_right_of_imp]
    rintro rfl
    exact List.mem_cons_of_mem _ List.mem_cons_self
  refine ⟨same first second, fun state state' => ?_⟩
  have blocks : (first.hasPopupFilter url (Url.hostOrEmpty opener) [] .blocking).Gives true := by
    refine first.gives_has contains wellFormed rfl ?_ ?_ ?_ <;> decide +kernel
  have passes : (first.hasPopupFilter url (Url.hostOrEmpty opener) [] .allowing).Gives false := by
    refine first.gives_has contains wellFormed rfl ?_ ?_ ?_ <;> decide +kernel
  have blocks' : (second.hasPopupFilter url (Url.hostOrEmpty opener) [] .blocking).Gives true := by
    refine second.gives_has contains' wellFormed rfl ?_ ?_ ?_ <;> decide +kernel
  have passes' : (second.hasPopupFilter url (Url.hostOrEmpty opener) [] .allowing).Gives false := by
    refine second.gives_has contains' wellFormed rfl ?_ ?_ ?_ <;> decide +kernel
  have decides : (classifyPopup ⟨[first, second], []⟩ url opener []).Gives
      (.blocked first.source) := by
    have blocking : (findPopup ⟨[first, second], []⟩ url opener [] .blocking).Gives
        (some first.source) :=
      gives_bind (gives_bind blocks (gives_pure (some first))) (gives_pure _)
    have allowing : (findPopup ⟨[first, second], []⟩ url opener [] .allowing).Gives none :=
      gives_bind (gives_bind passes (gives_bind passes' (gives_pure none))) (gives_pure _)
    exact gives_bind blocking (gives_bind allowing (gives_pure _))
  have decides' : (classifyPopup ⟨[second, first, second], []⟩ url opener []).Gives
      (.blocked second.source) := by
    have blocking : (findPopup ⟨[second, first, second], []⟩ url opener [] .blocking).Gives
        (some second.source) :=
      gives_bind (gives_bind blocks' (gives_pure (some second))) (gives_pure _)
    have allowing : (findPopup ⟨[second, first, second], []⟩ url opener [] .allowing).Gives none :=
      gives_bind (gives_bind passes' (gives_bind passes (gives_bind passes' (gives_pure none))))
        (gives_pure _)
    exact gives_bind blocking (gives_bind allowing (gives_pure _))
  refine ⟨_, _, decides state, decides' state', ?_, ?_⟩
  · rw [Ne, Decision.blocked.injEq, Subscription.source, Subscription.source]
    rw [contains.info (by decide), contains'.info (by decide)]
    decide
  · have alike := @sameMembers_decide _ _ ⟨[first, second], []⟩ ⟨[second, first, second], []⟩
      (same first second) state state'
    exact alike.2.1 url opener [] _ _ (decides state) (decides' state')

end Collection

end ContentBlocker
