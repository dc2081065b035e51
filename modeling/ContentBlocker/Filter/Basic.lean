import ContentBlocker.Filter.ContentTypes
import ContentBlocker.Filter.Domains
import ContentBlocker.Filter.Substitute
import ContentBlocker.Pattern.Address
/-!
# Filters

A filter list holds three kinds of filter: one on the addresses of requests, one on the elements of
documents, and one that runs scripted calls in documents.
-/

namespace ContentBlocker

/-- Whether a filter blocks, or allows what others block. -/
inductive Category where
  | blocking
  | allowing
  deriving DecidableEq, Repr

/-- What a filter asks about the sites of request and document. -/
inductive PartyRule where
  | either
  | firstParty
  | thirdParty
  deriving DecidableEq, Repr

namespace PartyRule

/-- The number of a rule in the index format. -/
def number : PartyRule → Nat
  | either => 0
  | firstParty => 1
  | thirdParty => 2

/-- The rule with a number. -/
def ofNumber? : Nat → Option PartyRule
  | 0 => some either
  | 1 => some firstParty
  | 2 => some thirdParty
  | _ => none

theorem ofNumber?_number (rule : PartyRule) : ofNumber? rule.number = some rule := by
  cases rule <;> rfl

end PartyRule

/-- What an allowing filter may switch off in a whole document. -/
inductive SpecialType where
  /-- all filtering -/
  | document
  /-- the hiding of elements -/
  | elemhide
  /-- blocking by filters without domains -/
  | genericblock
  /-- the hiding of elements by filters without domains -/
  | generichide
  deriving DecidableEq, Repr

namespace SpecialType

/-- The name of a type in options. -/
def name : SpecialType → String
  | document => "document"
  | elemhide => "elemhide"
  | genericblock => "genericblock"
  | generichide => "generichide"

/-- All types. -/
def all : List SpecialType := [.document, .elemhide, .genericblock, .generichide]

/-- The type of a name. -/
def ofName? (name : Text) : Option SpecialType :=
  all.find? fun special => special.name.toList = name

end SpecialType

/-- A filter on the addresses of requests. -/
structure UrlFilter where
  category : Category
  pattern : Text
  matchCase : Bool
  contentTypes : ContentTypes
  party : PartyRule
  domains : DomainSet
  /-- the keys of sites that may use the filter, in capitals and in order -/
  sitekeys : List Text
  /-- whether it applies to new windows -/
  popup : Bool
  /-- whether it applies to what a document loads -/
  subresource : Bool
  /-- a policy added to documents -/
  csp : Option Text
  /-- a condition on the headers of a response -/
  header : Option Text
  substitute : Option Substitute
  /-- in the order of the options -/
  specialTypes : List SpecialType
  deriving DecidableEq, Repr

namespace UrlFilter

/-- Whether the filter is bound to no domain and no key. -/
def isGeneric (filter : UrlFilter) : Bool := filter.sitekeys.isEmpty && filter.domains.isEmpty

/-- The source of the filter's expression. -/
def source (filter : UrlFilter) : Text := Pattern.source filter.pattern

/-- The word the filter is filed under. -/
def keyword (filter : UrlFilter) : Text := Pattern.keyword filter.pattern

end UrlFilter

/-- What a filter does with the elements it selects. -/
inductive ContentKind where
  | hide
  /-- does not hide what other filters hide -/
  | hideException
  /-- hides by a selector that style sheets do not know -/
  | emulation
  | remove
  | inlineCss
  deriving DecidableEq, Repr

/-- A filter on the elements of documents. -/
structure ContentFilter where
  kind : ContentKind
  selector : Text
  /-- the declarations given to the elements, empty unless the kind is `inlineCss` -/
  css : Text
  domains : DomainSet
  deriving DecidableEq, Repr

/-- A call in a script. -/
structure SnippetCall where
  command : Text
  arguments : List Text
  deriving DecidableEq, Repr

/-- A filter that runs calls in documents. -/
structure SnippetFilter where
  domains : DomainSet
  calls : List SnippetCall
  deriving DecidableEq, Repr

/-- A filter of any kind. -/
inductive Filter where
  | url (filter : UrlFilter)
  | content (filter : ContentFilter)
  | snippet (filter : SnippetFilter)
  deriving DecidableEq, Repr

/-- Whether a filter blocks or allows. -/
def Filter.category : Filter → Category
  | url filter => filter.category
  | content filter => if filter.kind = .hideException then .allowing else .blocking
  | snippet _ => .blocking

end ContentBlocker
