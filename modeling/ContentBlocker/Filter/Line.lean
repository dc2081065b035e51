import ContentBlocker.Filter.Options
import ContentBlocker.Filter.Script
import ContentBlocker.Pattern.Compiled
/-!
# Lines of a filter list

A line holds one filter, a comment or nothing. The first `#` of a line decides its kind: if a
separator starts there, what precedes it is a list of domains and what follows it says what to do in
documents; otherwise the line is a filter on addresses. Filters that could act on documents in
dangerous ways are read only from privileged lists. `Filter.parse` reads a line or says why it holds
no filter, and `Filter.events` is what reading it reports. Which expressions are valid is for the
engines to say.
-/

namespace ContentBlocker

/-- Why a line is no filter on addresses. -/
inductive UrlFault where
  | options (fault : OptionFault)
  | policyMissing
  | headerMissing
  /-- only an allowing filter may switch something off -/
  | specialTypeBlocks
  | headerNotAllowed
  | patternMissing
  | substituteTooWide
  | schemeBehindAnchor
  | tooGeneral
  | patternInvalid (source : Text)
  deriving DecidableEq, Repr

/-- Why a line is no filter on documents. -/
inductive ContentFault where
  | selectorMissing
  | selectorTooShort
  | includeDomainsMissing
  | blockNotOpened
  | modifierSelectorMissing
  | modifierNotAllowed
  | snippetNotAllowed
  | snippetEmpty
  deriving DecidableEq, Repr

/-- Why a line holds no filter. -/
inductive LineFault where
  | blank
  | comment
  | url (fault : UrlFault)
  | content (fault : ContentFault)
  deriving DecidableEq, Repr

namespace UrlFilter

/-- The fewest bytes of a pattern without wildcard that may apply everywhere. -/
def leastPattern : Nat := 4

/-- A text with every bar written as an escape. -/
def escapeBars (t : Text) : Text := t.flatMap fun c => if c = '|' then "%7C" else [c]

/-- A pattern in which bars stand only where they anchor it: up to two at the start and one at the
end. Others are written as escapes. -/
def sanitizeBars (pattern : Text) : Text :=
  let start := (pattern.take 2).takeWhile (· = '|')
  let rest := pattern.drop start.length
  match Text.dropLast? '|' rest with
  | some body => start ++ escapeBars body ++ ['|']
  | none => start ++ escapeBars rest

/-- The form of a pattern that is kept: without white space and, unless it is an expression, with
sanitized bars and in small letters if case does not count. -/
def normalizePattern (matchCase : Bool) (text : Text) : Text :=
  let pattern := text.withoutBlanks
  if Pattern.isExpression pattern then pattern
  else if matchCase then sanitizeBars pattern
  else (sanitizeBars pattern).lower

/-- Whether requests may be redirected by a pattern with such options: only on named domains or
within a site, and only whole hosts or everything. -/
def allowsSubstitute (pattern : Text) (options : Options) : Bool :=
  options.party != .thirdParty &&
    (pattern = [] || pattern = ['*'] || ("||" : Text).isPrefixOf pattern) &&
    (!options.domains.included.isEmpty || options.party = .firstParty)

/-- Whether a pattern has a scheme behind its host anchor, where it matches nothing. -/
def hasSchemeBehindAnchor : Text → Bool
  | '|' :: '|' :: rest =>
    ("://" : Text).isPrefixOf (rest.dropWhile fun c => c.isAlphanum || c = '_')
  | _ => false

/-- Whether a pattern says enough to apply everywhere. -/
def isSpecificEnough (pattern : Text) : Bool :=
  let rest := pattern.dropWhile (· = '|')
  leastPattern ≤ Text.byteLength rest || rest.contains '*'

/-- The part of a filter in front of its options, and the options. An expression has no options. -/
def splitOptions (text : Text) : Text × Option Text :=
  if Pattern.isExpression text then (text, none)
  else match Text.splitLast? '$' text with
    | some (pattern, options) => (pattern, some options)
    | none => (text, none)

/-- The filter that a pattern and options make, if they make one. -/
def ofParts [RegexEngine] (privileged : Bool) (category : Category) (text : Text)
    (hasOptions : Bool) (options : Options) : Except UrlFault UrlFilter :=
  let pattern := normalizePattern options.matchCase text
  let source := Pattern.source pattern
  if category = .blocking ∧ options.csp = some [] then .error .policyMissing
  else if category = .blocking ∧ options.header = some [] then .error .headerMissing
  else if category = .blocking ∧ options.specialTypes ≠ [] then .error .specialTypeBlocks
  else if options.header.isSome ∧ !privileged then .error .headerNotAllowed
  else if text.withoutBlanks = [] ∧ !hasOptions then .error .patternMissing
  else if options.substitute.isSome ∧ !allowsSubstitute pattern options then
    .error .substituteTooWide
  else if hasSchemeBehindAnchor pattern then .error .schemeBehindAnchor
  else if options.domains.isEmpty ∧ options.sitekeys = [] ∧ !isSpecificEnough pattern then
    .error .tooGeneral
  else if !isValidPattern source then .error (.patternInvalid source)
  else .ok
    { category, pattern
      matchCase := options.matchCase
      contentTypes := options.contentTypes
      party := options.party
      domains := options.domains
      sitekeys := options.sitekeys
      popup := options.popup
      subresource := options.subresource
      csp := options.csp
      header := options.header
      substitute := options.substitute
      specialTypes := options.specialTypes }

/-- The category of a filter, and the filter without the mark of it. -/
def splitCategory : Text → Category × Text
  | '@' :: '@' :: rest => (.allowing, rest)
  | line => (.blocking, line)

/-- The filter on addresses that a line writes. -/
def parse [RegexEngine] (privileged : Bool) (line : Text) : Except UrlFault UrlFilter :=
  let (category, text) := splitCategory line
  match splitOptions text with
  | (pattern, none) => ofParts privileged category pattern false .absent
  | (pattern, some options) =>
    match Options.parse options with
    | .ok options => ofParts privileged category pattern true options
    | .error fault => .error (.options fault)

end UrlFilter

/-- What stands between the domains of a filter on documents and the rest of it. -/
inductive Separator where
  | hide
  | hideException
  | emulation
  | snippet
  deriving DecidableEq, Repr

namespace Separator

/-- The separator at the first `#` of a line, with what precedes and what follows it. Something must
follow. -/
def find? (line : Text) : Option (Text × Separator × Text) :=
  (Text.splitFirst? '#' line).bind fun (before, after) =>
    match after with
    | '#' :: c :: rest => some (before, hide, c :: rest)
    | '@' :: '#' :: rest => some (before, hideException, rest)
    | '?' :: '#' :: rest => some (before, emulation, rest)
    | '$' :: '#' :: rest => some (before, snippet, rest)
    | _ => none

/-- Whether such a filter must name the domains it applies to. -/
def needsDomains : Separator → Bool
  | emulation => true
  | snippet => true
  | _ => false

end Separator

namespace ContentFilter

/-- The fewest characters of a selector that may apply everywhere. -/
def leastSelector : Nat := 3

/-- A selector in which no brace can open a block of declarations: each is written as an escape. -/
def escapeBraces (selector : Text) : Text :=
  selector.flatMap fun c =>
    if c = '\x7b' then "\\7b " else if c = '\x7d' then "\\7d " else [c]

/-- Whether a block of declarations removes elements. -/
def removes (declarations : Text) : Bool :=
  let compact := declarations.withoutBlanks.lower
  compact = ("remove:true;" : Text) || compact = ("remove:true" : Text)

/-- The filter that hides by a selector, or keeps others from it. -/
def ofSelector (kind : ContentKind) (domains : DomainSet) (selector : Text) :
    Except ContentFault ContentFilter :=
  if domains.included = [] ∧ selector.length < leastSelector then .error .selectorTooShort
  else .ok { kind, selector := escapeBraces selector, css := [], domains }

/-- The filter that a selector and perhaps a block of declarations make. -/
def ofEmulation (privileged : Bool) (domains : DomainSet) (body : Text) :
    Except ContentFault ContentFilter :=
  match Text.dropLast? '\x7d' body with
  | none => .ok { kind := .emulation, selector := body, css := [], domains }
  | some block =>
    match Text.splitLast? '\x7b' block with
    | none => .error .blockNotOpened
    | some (selector, declarations) =>
      let selector := selector.trim
      let declarations := declarations.trim
      if selector = [] then .error .modifierSelectorMissing
      else if !privileged then .error .modifierNotAllowed
      else if removes declarations then .ok { kind := .remove, selector, css := [], domains }
      else .ok { kind := .inlineCss, selector, css := declarations, domains }

end ContentFilter

namespace SnippetFilter

/-- The filter that a script makes. -/
def ofScript (privileged : Bool) (domains : DomainSet) (script : Text) :
    Except ContentFault SnippetFilter :=
  if !privileged then .error .snippetNotAllowed
  else
    let calls := Script.parse script
    if calls = [] then .error .snippetEmpty else .ok { domains, calls }

end SnippetFilter

namespace Filter

/-- The domains in front of a separator. -/
def domainsBefore (separator : Separator) (before : Text) : DomainSet :=
  let domains := DomainSet.ofEntries (((Text.pieces ',' before).map Text.trim).filter (· ≠ []))
  if separator.needsDomains then domains.sites else domains

/-- The filter on documents that a line with a separator writes. -/
def ofSeparated (privileged : Bool) (before : Text) (separator : Separator) (after : Text) :
    Except ContentFault Filter :=
  let body := after.trim
  let domains := domainsBefore separator before
  if body = [] then .error .selectorMissing
  else if separator.needsDomains ∧ domains.included = [] then .error .includeDomainsMissing
  else match separator with
    | .hide => (ContentFilter.ofSelector .hide domains body).map .content
    | .hideException => (ContentFilter.ofSelector .hideException domains body).map .content
    | .emulation => (ContentFilter.ofEmulation privileged domains body).map .content
    | .snippet => (SnippetFilter.ofScript privileged domains body).map .snippet

/-- Whether a line is a comment or a header. -/
def isComment (line : Text) : Bool := line.head? = some '!' || line.head? = some '['

/-- The filter that a line holds, or why it holds none. -/
def parse [RegexEngine] (privileged : Bool) (line : Text) : Except LineFault Filter :=
  let line := line.trim
  if line = [] then .error .blank
  else if isComment line then .error .comment
  else match Separator.find? line with
    | some (before, separator, after) =>
      (ofSeparated privileged before separator after).mapError .content
    | none => ((UrlFilter.parse privileged line).map .url).mapError .url

/-- What compiling an expression to see whether it is valid reports. -/
def checkEvents [RegexEngine] (source : Text) : List Event :=
  (CompiledPattern.compile source true).compileEvents source

/-- What a line without filter reports. -/
def faultEvents [RegexEngine] (line : Text) : LineFault → List Event
  | .blank => []
  | .comment => []
  | .url (.patternInvalid source) => checkEvents source ++ [.filterDropped line]
  | .url .headerNotAllowed => [.headerNotAllowed line, .filterDropped line]
  | .url _ => [.filterDropped line]
  | .content .selectorMissing => [.selectorMissing line]
  | .content .selectorTooShort => [.selectorTooShort line]
  | .content .includeDomainsMissing => [.includeDomainsMissing line]
  | .content .blockNotOpened => []
  | .content .modifierSelectorMissing => [.modifierSelectorMissing line]
  | .content .modifierNotAllowed => [.modifierNotAllowed line]
  | .content .snippetNotAllowed => [.snippetNotAllowed line]
  | .content .snippetEmpty => [.snippetEmpty line]

/-- What reading a line reports, given what was read. -/
def events [RegexEngine] (line : Text) : Except LineFault Filter → List Event
  | .ok (.url filter) => checkEvents filter.source
  | .ok _ => []
  | .error fault => faultEvents line.trim fault

end Filter

end ContentBlocker
