import ContentBlocker.Subscription.Basic
import ContentBlocker.Text.Ordered
/-!
# Collections of subscriptions

A collection answers for all of its subscriptions at once: whether to block a request, which
policies to add, which elements to hide. A request comes from a chain of frames, the one that makes
it first and the whole document last. The document of a request is its first frame, or the request
itself if there is none. Filters that switch something off are asked for the request and for every
frame of the chain.
-/

namespace ContentBlocker

/-- What becomes of a request, with the list that decided it. -/
inductive Decision where
  /-- no blocking filter applies -/
  | noMatch
  | blocked (source : Text)
  /-- a blocking filter applies, but an allowing one overrules it -/
  | allowed (source : Text)
  deriving DecidableEq, Repr

/-- A condition on the headers of a response, with the list it comes from. -/
structure HeaderCondition where
  header : Text
  source : Text
  deriving DecidableEq, Repr

/-- Conditions are ordered by text, then by list. -/
instance : LT HeaderCondition := ⟨fun a b => [a.header, a.source] < [b.header, b.source]⟩

instance : DecidableLT HeaderCondition :=
  fun a b => inferInstanceAs (Decidable ([a.header, a.source] < [b.header, b.source]))

namespace HeaderCondition

/-- Whether the headers of a response meet a condition: a header of the name is there, with the
value if the condition gives one. Case does not count. -/
def isMetBy (condition : Text) (headers : List (Text × Text)) : Bool :=
  match Text.splitFirst? '=' condition with
  | some (name, value) =>
    headers.any fun (n, v) => Text.sameIgnoringCase n name && Text.sameIgnoringCase v.trim value
  | none => headers.any fun (n, _) => Text.sameIgnoringCase n condition

end HeaderCondition

/-- The domain of the document that a request comes from. -/
def documentDomain (url : Text) (frames : List Text) : Text :=
  Url.hostOrEmpty (frames.head?.getD url)

/-- Each frame of a chain with the domain of the frame that holds it; the last holds itself. -/
def frameChain : List Text → List (Text × Text)
  | [] => []
  | [frame] => [(frame, Url.hostOrEmpty frame)]
  | frame :: parent :: rest => (frame, Url.hostOrEmpty parent) :: frameChain (parent :: rest)

namespace ContentData

/-- What is left to do once the exceptions are taken away. -/
def reduce (data : ContentData) : ContentData :=
  { selectors := data.selectors.filter fun selector => !data.exceptions.contains selector
    exceptions := []
    removed := data.removed.filter fun selector => !data.exceptions.contains selector
    inlineCss := data.inlineCss.filter fun (selector, _) => !data.exceptions.contains selector }

end ContentData

section

variable [RegexEngine] [Host.SuffixList]

namespace Subscription

/-- Whether something is switched off for a frame of a chain. -/
def chainHasSpecialFilter (s : Subscription) (type : SpecialType) (frames : List Text)
    (sitekey : Text) : Query Bool :=
  (frameChain frames).anyM fun (frame, domain) => s.hasSpecialFilter type frame domain sitekey

/-- Whether something is switched off for a request or a frame of its chain. -/
def hasSpecialFilterFor (s : Subscription) (type : SpecialType) (url : Text) (frames : List Text)
    (sitekey : Text) : Query Bool := do
  if ← s.hasSpecialFilter type url (documentDomain url frames) sitekey then return true
  else s.chainHasSpecialFilter type frames sitekey

/-- Whether a request is allowed, by itself or with its document. -/
def hasAllowFilter (s : Subscription) (url : Text) (frames : List Text) (types : ContentTypes)
    (sitekey : Text) : Query Bool := do
  if ← s.hasRequestFilter url (documentDomain url frames) types sitekey .allowing then return true
  else s.chainHasSpecialFilter .document frames sitekey

end Subscription

/-- Several subscriptions in order. -/
structure Collection where
  subscriptions : List Subscription
  name : Text

namespace Collection

/-- The list of the first subscription for which a query says yes. -/
def findSource (c : Collection) (holds : Subscription → Query Bool) : Query (Option Text) := do
  return (← c.subscriptions.findM? holds).map Subscription.source

/-- The first list with a filter on requests that matches. -/
def findRequest (c : Collection) (url : Text) (frames : List Text) (types : ContentTypes)
    (sitekey : Text) (aim : Aim) : Query (Option Text) :=
  c.findSource fun s => s.hasRequestFilter url (documentDomain url frames) types sitekey aim

/-- The first list with a filter on new windows that matches. -/
def findPopup (c : Collection) (url opener sitekey : Text) (aim : Aim) : Query (Option Text) :=
  c.findSource fun s => s.hasPopupFilter url (Url.hostOrEmpty opener) sitekey aim

/-- The first list that allows a request. -/
def findAllow (c : Collection) (url : Text) (frames : List Text) (types : ContentTypes)
    (sitekey : Text) : Query (Option Text) :=
  c.findSource fun s => s.hasAllowFilter url frames types sitekey

/-- The first list that switches something off for a request. -/
def findSpecial (c : Collection) (type : SpecialType) (url : Text) (frames : List Text)
    (sitekey : Text) : Query (Option Text) :=
  c.findSource fun s => s.hasSpecialFilterFor type url frames sitekey

/-- Whether a list switches something off for a request. -/
def anySpecial (c : Collection) (type : SpecialType) (url : Text) (frames : List Text) :
    Query Bool :=
  c.subscriptions.anyM fun s => s.hasSpecialFilterFor type url frames []

/-- What becomes of a request. Where generic blocking is switched off, only filters that are bound
to domains or keys block it. -/
def classifyRequest (c : Collection) (url : Text) (frames : List Text) (types : ContentTypes)
    (sitekey : Text) : Query Decision := do
  match ← c.findRequest url frames types sitekey .blocking with
  | none => return .noMatch
  | some blocking =>
    match ← c.findAllow url frames types sitekey with
    | some allowing =>
      Query.report [.requestAllowed url allowing]
      return .allowed allowing
    | none =>
      match ← c.findSpecial .genericblock url frames sitekey with
      | none => return .blocked blocking
      | some _ =>
        match ← c.findRequest url frames types sitekey .specificBlocking with
        | some source => return .blocked source
        | none => return .noMatch

/-- What becomes of a new window. -/
def classifyPopup (c : Collection) (url opener sitekey : Text) : Query Decision := do
  match ← c.findPopup url opener sitekey .blocking with
  | none => return .noMatch
  | some blocking =>
    match ← c.findPopup url opener sitekey .allowing with
    | some allowing => return .allowed allowing
    | none => return .blocked blocking

/-- The header conditions of matching filters, in order and each of them once. -/
def headerConditions (c : Collection) (url : Text) (frames : List Text) (types : ContentTypes)
    (aim : Aim) : Query (List HeaderCondition) := do
  let found ← c.subscriptions.flatMapM fun s => do
    let headers ← s.headers url types (documentDomain url frames) aim
    return headers.map fun header => { header, source := s.source : HeaderCondition }
  return orderedSet found

/-- What becomes of a response, given the conditions that its headers meet and those that allow: the
first that is not overruled blocks it. A condition is overruled by an equal one, or by one that says
nothing. -/
def judge (allowing : List HeaderCondition) : Decision → List HeaderCondition → Decision
  | decision, [] => decision
  | _, condition :: rest =>
    match allowing.find? fun allow =>
        allow.header.isEmpty || Text.sameIgnoringCase allow.header condition.header with
    | some allow => judge allowing (.allowed allow.source) rest
    | none => .blocked condition.source

/-- What becomes of a response. Where generic blocking is switched off, only conditions that are
bound to domains count, and nothing overrules them. -/
def classifyResponse (c : Collection) (url : Text) (frames : List Text) (types : ContentTypes)
    (headers : List (Text × Text)) : Query Decision := do
  let blocking ← c.headerConditions url frames types .blocking
  if blocking = [] then return .noMatch
  else
    match ← c.findSpecial .document url frames [] with
    | some source => return .allowed source
    | none =>
      let met (conditions : List HeaderCondition) :=
        conditions.filter fun condition => HeaderCondition.isMetBy condition.header headers
      match ← c.findSpecial .genericblock url frames [] with
      | some _ =>
        let blocking ← c.headerConditions url frames types .specificBlocking
        return judge [] .noMatch (met blocking)
      | none =>
        let allowing ← c.headerConditions url frames types .allowing
        return judge allowing .noMatch (met blocking)

/-- What the subscriptions that have any say, each with what it says. -/
def owners (c : Collection) (say : Subscription → Query (List Text)) :
    Query (List (Subscription × List Text)) := do
  let said ← c.subscriptions.mapM fun s => return (s, ← say s)
  return said.filter fun (_, texts) => texts ≠ []

/-- The policies to add to a document, in order and each of them once. An allowing filter without
policy takes all of them away, one with a policy takes away the same. -/
def policies (c : Collection) (url : Text) (frames : List Text) : Query (List Text) := do
  let domain := documentDomain url frames
  let owners ← c.owners fun s => s.policies url domain .blocking
  if owners.isEmpty then return []
  else if ← c.anySpecial .document url frames then return []
  else
    let allowing ← c.subscriptions.flatMapM fun s => s.policies url domain .allowing
    if allowing.contains [] then return []
    else
      let specific ← c.anySpecial .genericblock url frames
      let kept ← owners.flatMapM fun (s, blocking) => do
        let candidates ← if specific then s.policies url domain .specificBlocking else pure blocking
        return candidates.filter fun policy => policy ≠ [] && !allowing.contains policy
      return orderedSet kept

/-- The address that stands in for a request: the first of a subscription that is not allowed. -/
def substitute (c : Collection) (url : Text) (frames : List Text) : Query (Option Text) := do
  let domain := documentDomain url frames
  let owners ← c.owners fun s => s.substitutes url domain .blocking
  if owners.isEmpty then return none
  else if ← c.anySpecial .document url frames then return none
  else
    let allowing ← c.subscriptions.flatMapM fun s => s.substitutes url domain .allowing
    let specific ← c.anySpecial .genericblock url frames
    Query.firstSome (owners.map fun (s, blocking) => do
      let candidates ←
        if specific then s.substitutes url domain .specificBlocking else pure blocking
      return candidates.find? fun target => !allowing.contains target)

/-- What the subscriptions say about the elements of a frame, without the exceptions. -/
def combine (c : Collection) (say : Subscription → Except Host.Fault ContentData) :
    Query ContentData := do
  let data ← c.subscriptions.foldlM (fun data s => return data.append (← say s)) ContentData.empty
  return data.reduce

/-- The selectors that hide in a frame. Where generic hiding is switched off, only filters that name
domains count. -/
def elementData (c : Collection) (url : Text) (frames : List Text) (sitekey : Text) :
    Query ContentData := do
  let specific := (← c.findSpecial .generichide url frames sitekey).isSome
  c.combine fun s => s.elementData url specific

/-- What other filters on elements do in a frame. -/
def emulationData (c : Collection) (url : Text) : Query ContentData :=
  c.combine fun s => s.emulationData url

/-- The calls to make in a frame. -/
def calls (c : Collection) (url : Text) (frames : List Text) : Query (List SnippetCall) :=
  c.subscriptions.flatMapM fun s => s.calls (documentDomain url frames)

end Collection

end

end ContentBlocker
