import ContentBlocker.Host.LookupKeys
import ContentBlocker.Matching.Find
import ContentBlocker.Text.Quoted
import ContentBlocker.Url
/-!
# Subscriptions

A subscription is an installed index together with the number of the cache that holds its compiled
patterns. It answers questions about one address or document by itself;
`ContentBlocker.Subscription.Collection` combines the answers of several.
-/

namespace ContentBlocker

/-- How far the installation of a subscription has come. -/
inductive InstallationState where
  | installing
  | installed
  | preloaded
  deriving DecidableEq, Repr

/-- The name of a state. -/
def InstallationState.name : InstallationState → String
  | installing => "Installing"
  | installed => "Installed"
  | preloaded => "Preloaded"

/-- An installed index. -/
structure Subscription where
  snapshot : Snapshot
  /-- the number of its cache -/
  slot : Nat
  state : InstallationState
  /-- in seconds -/
  installedAt : Nat

/-- What to do with the elements of a document. -/
structure ContentData where
  selectors : List Text
  /-- selectors that do not hide after all -/
  exceptions : List Text
  removed : List Text
  /-- selectors with the declarations that their elements get -/
  inlineCss : List (Text × Text)
  deriving DecidableEq, Repr

namespace ContentData

/-- Nothing to do. -/
def empty : ContentData := ⟨[], [], [], []⟩

/-- What two parts say, one after the other. -/
def append (a b : ContentData) : ContentData :=
  { selectors := a.selectors ++ b.selectors
    exceptions := a.exceptions ++ b.exceptions
    removed := a.removed ++ b.removed
    inlineCss := a.inlineCss ++ b.inlineCss }

end ContentData

/-- The host of a frame in small letters; empty if it has none. -/
def frameHost (url : Text) : Text := (Url.hostOrEmpty url).lower

namespace Subscription

/-- The address of the list. -/
def source (s : Subscription) : Text := s.snapshot.info.source

/-- A subscription in words. -/
def summary (s : Subscription) : Text :=
  "InstalledSubscription \x7b source_url: " ++ Text.quoted s.source ++ ", installation_state: " ++
    s.state.name.toList ++ " \x7d"

section

variable [RegexEngine] [Host.SuffixList]

/-- The patterns that every query consults: those of filters without a word. -/
def standingPatterns (snapshot : Snapshot) : List (Text × Bool) :=
  let indexes := SubIndex.all.filter fun index =>
    match index with
    | .url _ _ => true
    | .special _ => true
    | _ => false
  let ids := indexes.flatMap fun index => snapshot.lookup index []
  let filters := ids.filterMap fun id => snapshot.url? id.toNat
  filters.map fun filter => (filter.source, filter.matchCase)

/-- Installs an index with a cache of its own, which is filled with the patterns that every query
consults. -/
def install (snapshot : Snapshot) (capacity : Nat) (installation : InstallationState)
    (installedAt : Nat) (queries : QueryState) : Subscription × QueryState :=
  let (events, cache) := (PatternCache.ofCapacity capacity).prebuild (standingPatterns snapshot)
  let s : Subscription :=
    { snapshot, slot := queries.caches.size, state := installation, installedAt }
  let installed := Event.listInstalled s.source snapshot.urlCount cache.size
  (s, ⟨queries.caches.push cache, queries.events ++ events.toArray.push installed⟩)

/-- Whether a filter of a sub-index matches. -/
def has (s : Subscription) (index : SubIndex) (query : UrlQuery) : Query Bool := do
  return (← Query.findFirst s.snapshot s.slot index query).isSome

/-- Whether a filter on requests matches. -/
def hasRequestFilter (s : Subscription) (url document : Text) (types : ContentTypes)
    (sitekey : Text) (aim : Aim) : Query Bool :=
  s.has (.url .subresource aim.category) (.make url (some types) document sitekey aim)

/-- Whether a filter on new windows matches. -/
def hasPopupFilter (s : Subscription) (url opener sitekey : Text) (aim : Aim) : Query Bool :=
  s.has (.url .popup aim.category) (.make url none opener sitekey aim)

/-- Whether a filter switches something off for a document. -/
def hasSpecialFilter (s : Subscription) (type : SpecialType) (url document sitekey : Text) :
    Query Bool :=
  s.has (.special type) (.make url none document sitekey .allowing)

/-- The policies of matching filters, each of them once. -/
def policies (s : Subscription) (url document : Text) (aim : Aim) : Query (List Text) := do
  let found ← Query.findEach s.snapshot s.slot (.url .csp aim.category)
    (.make url none document [] aim)
  return (found.map IndexedUrl.payload).eraseDups

/-- The addresses that stand in for a request by matching filters, each of them once. -/
def substitutes (s : Subscription) (url document : Text) (aim : Aim) : Query (List Text) := do
  let found ← Query.findEach s.snapshot s.slot (.url .substitute aim.category)
    (.make url none document [] aim)
  return (found.filterMap fun filter => filter.substitute.dataUrl?).eraseDups

/-- The header conditions of matching filters, each of them once. -/
def headers (s : Subscription) (url : Text) (types : ContentTypes) (document : Text) (aim : Aim) :
    Query (List Text) := do
  let found ← Query.findEach s.snapshot s.slot (.url .header aim.category)
    (.make url (some types) document [] aim)
  return (found.map IndexedUrl.payload).eraseDups

/-- The filters on elements under a key that do not avoid a document's domain. -/
def contentUnder (s : Subscription) (kind : ContentKind) (document key : Text) :
    Except Host.Fault (List IndexedContent) :=
  ((s.snapshot.lookup (.content kind) key).filterMap fun id => s.snapshot.content? id.toNat).filterM
    fun filter => return !(← filter.lists.isExcludedOn document)

/-- The selectors under a key, and those that do not hide. -/
def hidingUnder (s : Subscription) (document key : Text) : Except Host.Fault ContentData := do
  let exceptions ← s.contentUnder .hideException document key
  let selectors ← s.contentUnder .hide document key
  return { ContentData.empty with
    selectors := selectors.map IndexedContent.selector
    exceptions := exceptions.map IndexedContent.selector }

/-- What other filters on elements do under a key, and the selectors that do not hide. -/
def emulationUnder (s : Subscription) (document key : Text) : Except Host.Fault ContentData := do
  let exceptions ← s.contentUnder .hideException document key
  let selectors ← s.contentUnder .emulation document key
  let removed ← s.contentUnder .remove document key
  let inlineCss ← s.contentUnder .inlineCss document key
  return {
    selectors := selectors.map IndexedContent.selector
    exceptions := exceptions.map IndexedContent.selector
    removed := removed.map IndexedContent.selector
    inlineCss := inlineCss.map fun filter => (filter.selector, filter.css) }

/-- What is said under several keys, one after the other. -/
def gather (keys : List Text) (under : Text → Except Host.Fault ContentData) :
    Except Host.Fault ContentData :=
  keys.foldlM (fun data key => return data.append (← under key)) .empty

/-- The selectors that hide in a frame, and those that do not. With `specific` only filters that
name domains count. -/
def elementData (s : Subscription) (url : Text) (specific : Bool) : Except Host.Fault ContentData :=
  let document := frameHost url
  gather ((if specific then [] else [[]]) ++ Host.lookupKeys document) (s.hidingUnder document)

/-- What other filters on elements do in a frame; all of them name domains. -/
def emulationData (s : Subscription) (url : Text) : Except Host.Fault ContentData :=
  let document := frameHost url
  gather (Host.lookupKeys document) (s.emulationUnder document)

/-- The calls to make in a document, those of the most specific domain first. -/
def calls (s : Subscription) (document : Text) : Except Host.Fault (List SnippetCall) :=
  let document := document.lower
  (Host.lookupKeys document).flatMapM fun key => do
    let filters := (s.snapshot.lookup .snippet key).filterMap fun id =>
      s.snapshot.snippet? id.toNat
    let active ← filters.filterM fun filter => return !(← filter.lists.isExcludedOn document)
    return active.flatMap IndexedSnippet.calls

end

end Subscription

end ContentBlocker
