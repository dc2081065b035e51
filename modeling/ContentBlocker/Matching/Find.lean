import ContentBlocker.Matching.Activity
import ContentBlocker.Matching.Query
/-!
# Finding filters on addresses

The filters that may match an address are filed under its words and under the empty word. Those that
are viable, that is, whose other conditions hold, are tested by their patterns: one by one where
every match counts, or merged into one alternation where the first match is enough. An alternation
only says that some member matches; which one is found by testing them in turn. Patterns that refer
to their own groups are never merged, since merging renumbers the groups.
-/

namespace ContentBlocker

/-- Which filters a query looks for. -/
inductive Aim where
  | blocking
  | allowing
  /-- blocking filters that are bound to domains or keys -/
  | specificBlocking
  deriving DecidableEq, Repr

/-- The category of the filters looked for. -/
def Aim.category : Aim → Category
  | blocking => .blocking
  | allowing => .allowing
  | specificBlocking => .blocking

/-- What is asked about an address. -/
structure UrlQuery where
  url : Text
  /-- the kinds of content, one of which a filter must apply to; `none` if that does not matter -/
  contentTypes : Option ContentTypes
  /-- the domain of the document, in small letters -/
  document : Text
  /-- the key of the document's site, in capitals -/
  sitekey : Text
  aim : Aim
  /-- whether the address leaves the site of the document -/
  thirdParty : Bool
  deriving DecidableEq, Repr

namespace UrlQuery

/-- The query about an address, a document's domain and a key in any case. -/
def make [Host.SuffixList] (url : Text) (contentTypes : Option ContentTypes)
    (document sitekey : Text) (aim : Aim) : UrlQuery :=
  { url, contentTypes, document := document.lower, sitekey := sitekey.upper, aim
    thirdParty := Host.isThirdParty url document }

/-- The words under which filters for the query are filed. -/
def keywords (query : UrlQuery) : List Text := Keyword.ofUrl query.url.lower ++ [[]]

end UrlQuery

namespace PartyRule

/-- Whether a rule admits a request that does, or does not, leave its site. -/
def admits : PartyRule → Bool → Bool
  | either, _ => true
  | firstParty, leaves => !leaves
  | thirdParty, leaves => leaves

end PartyRule

namespace IndexedUrl

/-- Whether all conditions of a filter other than its pattern hold. -/
def isViable [Host.SuffixList] (filter : IndexedUrl) (query : UrlQuery) : Except Host.Fault Bool :=
  if !query.contentTypes.all filter.contentTypes.meets then .ok false
  else if query.aim = .specificBlocking ∧ filter.lists.isGeneric then .ok false
  else if !filter.party.admits query.thirdParty then .ok false
  else filter.lists.isActiveFor query.document query.sitekey

end IndexedUrl

namespace Snapshot

/-- The viable filters of a sub-index under a word. -/
def candidates [Host.SuffixList] (s : Snapshot) (index : SubIndex) (query : UrlQuery)
    (keyword : Text) : Except Host.Fault (List IndexedUrl) :=
  ((s.lookup index keyword).filterMap fun id => s.url? id.toNat).filterM (·.isViable query)

end Snapshot

namespace Query

section

variable [RegexEngine]

/-- Whether the pattern of a filter matches. -/
def test (slot : Nat) (url : Text) (filter : IndexedUrl) : Query Bool :=
  onCache slot fun cache => cache.isMatch filter.source filter.matchCase url

/-- The source that matches if one of several does. -/
def alternation (sources : List Text) : Text :=
  List.flatten ((sources.map fun source => ("(?:" : Text) ++ source ++ [')']).intersperse ['|'])

/-- What is concluded from searching for an alternation of `count` patterns, and what that reports.
If the alternation is not valid or the search gives up, each pattern has to be tested. -/
def mergedAnswer (count : Nat) (p : CompiledPattern) (answer : Option Bool) : Bool × List Event :=
  if !p.isValid then (true, [.alternationRejected count])
  else match answer with
    | some found => (found, [])
    | none => (true, [.alternationGaveUp count])

/-- Whether a filter of a group, all of one case mode, may match. -/
def groupMayMatch (slot : Nat) (url : Text) (matchCase : Bool) : List IndexedUrl → Query Bool
  | [] => pure false
  | [filter] => test slot url filter
  | group =>
    onCache slot fun cache =>
      let (p, events, cache) :=
        cache.getAlternation (alternation (group.map IndexedUrl.source)) matchCase
      let (found, more) := mergedAnswer group.length p (p.tryMatch url)
      (found, events ++ p.matchEvents url ++ more, cache)

/-- The first filter of a group, all of one case mode, that matches. -/
def findInGroup (slot : Nat) (url : Text) (matchCase : Bool) (group : List IndexedUrl) :
    Query (Option IndexedUrl) := do
  if ← groupMayMatch slot url matchCase group then group.findM? (test slot url) else pure none

/-- A filter among candidates that matches. A filter with an empty pattern always does. -/
def findAmong (slot : Nat) (url : Text) (candidates : List IndexedUrl) :
    Query (Option IndexedUrl) :=
  match candidates.find? fun filter => filter.source = [] with
  | some filter => pure (some filter)
  | none =>
    let (alone, mergeable) := candidates.partition fun filter => hasReference filter.source
    let (exact, folded) := mergeable.partition fun filter => filter.matchCase
    firstSome [findInGroup slot url false folded, findInGroup slot url true exact,
      alone.findM? (test slot url)]

variable [Host.SuffixList]

/-- A filter of a sub-index that matches. -/
def findFirst (s : Snapshot) (slot : Nat) (index : SubIndex) (query : UrlQuery) :
    Query (Option IndexedUrl) :=
  if s.keyCount index = 0 then pure none
  else firstSome (query.keywords.map fun keyword => do
    findAmong slot query.url (← s.candidates index query keyword))

/-- The filters of a sub-index that match, in the order in which they are found. A word that the
address repeats is looked up again. -/
def findEach (s : Snapshot) (slot : Nat) (index : SubIndex) (query : UrlQuery) :
    Query (List IndexedUrl) :=
  if s.keyCount index = 0 then pure []
  else query.keywords.flatMapM fun keyword => do
    (← s.candidates index query keyword).filterM (test slot query.url)

end

end Query

end ContentBlocker
