import ContentBlocker.Filter.Basic
import ContentBlocker.Filter.OptionValue
import ContentBlocker.Text.Blank
/-!
# Options of an address filter

Options stand behind the last `$` of a filter, between commas. They are read from left to right; of
an option that may have one value the last one counts, while content types and special types add up.
-/

namespace ContentBlocker

/-- What the options of a filter say. -/
structure Options where
  matchCase : Bool
  popup : Bool
  party : PartyRule
  /-- the content types named so far; none of them may mean that none has been named -/
  types : ContentTypes
  /-- whether a content type has been named -/
  namesTypes : Bool
  substitute : Option Substitute
  domains : DomainSet
  sitekeys : List Text
  csp : Option Text
  header : Option Text
  specialTypes : List SpecialType
  deriving DecidableEq, Repr

/-- Why options cannot be read. -/
inductive OptionFault where
  | unknown (name : Text)
  | withoutDomain
  | withoutSitekey
  | forbiddenPolicy
  | unknownSubstituteScheme
  deriving DecidableEq, Repr

namespace Options

/-- What no options say. -/
def absent : Options where
  matchCase := false
  popup := false
  party := .either
  types := .none
  namesTypes := false
  substitute := none
  domains := .empty
  sitekeys := []
  csp := none
  header := none
  specialTypes := []

/-- One option: its name in small letters, its value, and whether it stands behind a `~`. -/
structure Entry where
  negated : Bool
  name : Text
  value : Text
  deriving DecidableEq, Repr

/-- The option that a text writes. -/
def Entry.ofText (text : Text) : Entry :=
  let negated := text.head? = some '~'
  let text := if negated then text.tail else text
  let (name, value) := (Text.splitFirst? '=' text).getD (text, [])
  { negated, name := Text.lower (name.filter fun c => !Text.isAsciiBlank c), value }

/-- The options that a text writes. -/
def entries (text : Text) : List Entry :=
  ((Text.pieces ',' text).filter (· ≠ [])).map Entry.ofText

/-- The keys that the value of a sitekey option writes. -/
def sitekeysOf (value : Text) : List Text :=
  ((Text.pieces '|' value.upper).filter (· ≠ [])).mergeSort fun a b => ¬ b < a

/-- Adds a content type. -/
def addType (types : ContentTypes) (options : Options) : Options :=
  { options with types := options.types.union types, namesTypes := true }

/-- Takes a content type away, from all of them if no other has been named. -/
def removeType (types : ContentTypes) (options : Options) : Options :=
  let named := if options.types = .none then .all else options.types
  { options with types := named.without types, namesTypes := true }

/-- Adds a special type that is not there yet. -/
def addSpecial (special : SpecialType) (options : Options) : Options :=
  if options.specialTypes.contains special then options
  else { options with specialTypes := options.specialTypes ++ [special] }

/-- What the name of a substitute stands behind. -/
def substituteScheme : Text := "abp-resource:"

/-- The names of the options that are neither a content type nor a special type. -/
inductive Name where
  | matchCase
  | popup
  | thirdParty
  | substitute
  | domain
  | sitekey
  | csp
  | header
  deriving DecidableEq, Repr

/-- The spelling of each name. -/
def named : List (Text × Name) :=
  [("match-case", .matchCase), ("popup", .popup), ("third-party", .thirdParty),
    ("rewrite", .substitute), ("domain", .domain), ("sitekey", .sitekey), ("csp", .csp),
    ("header", .header)]

/-- What the options say after a named one. -/
def setNamed (options : Options) (name : Name) (entry : Entry) : Except OptionFault Options :=
  match name with
  | .matchCase => .ok { options with matchCase := !entry.negated }
  | .popup => .ok { options with popup := true }
  | .thirdParty =>
    .ok { options with party := if entry.negated then .firstParty else .thirdParty }
  | .substitute =>
    if substituteScheme.isPrefixOf entry.value then
      .ok { options with substitute := some (.ofName (entry.value.drop substituteScheme.length)) }
    else .error .unknownSubstituteScheme
  | .domain =>
    if entry.value = [] then .error .withoutDomain
    else .ok { options with domains := .ofEntries (Text.pieces '|' entry.value) }
  | .sitekey =>
    if entry.value = [] then .error .withoutSitekey
    else .ok { options with sitekeys := sitekeysOf entry.value }
  | .csp =>
    if OptionValue.isAllowedPolicy entry.value then .ok { options with csp := some entry.value }
    else .error .forbiddenPolicy
  | .header => .ok { options with header := some (OptionValue.unescapeHeader entry.value) }

/-- What the options say after one more. -/
def add (options : Options) (entry : Entry) : Except OptionFault Options :=
  match named.lookup entry.name with
  | some name => options.setNamed name entry
  | none =>
    match ContentTypes.ofName? entry.name with
    | some types =>
      .ok (if entry.negated then options.removeType types else options.addType types)
    | none =>
      match SpecialType.ofName? entry.name with
      | some special => .ok (options.addSpecial special)
      | none => .error (.unknown entry.name)

/-- What a text of options says. -/
def parse (text : Text) : Except OptionFault Options := (entries text).foldlM add absent

/-- The content types a filter applies to. -/
def contentTypes (options : Options) : ContentTypes :=
  if options.types = .none then .all else options.types

/-- Whether a filter applies to what a document loads: it does if it names a content type, or has no
other purpose. -/
def subresource (options : Options) : Bool :=
  options.namesTypes ||
    (options.specialTypes.isEmpty && !options.popup && options.csp.isNone &&
      options.substitute.isNone && options.header.isNone)

end Options

end ContentBlocker
