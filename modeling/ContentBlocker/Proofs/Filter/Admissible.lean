import ContentBlocker.Proofs.Filter.Restrictions
import ContentBlocker.Proofs.Text.ByteOrder
/-!
# What every filter satisfies

The index posts a filter once under each of its domains and looks names up byte by byte, and a
filter that redirects requests must be bound to named domains or to a site. What these rely on is
checked at many points while a line is read, some of it option by option. Here it is put together:
whatever line a filter was read from, its domains and keys are in order and in one case, its values
go with its category, and its pattern is in the form that is compiled.
-/

namespace ContentBlocker

namespace DomainSet

/-- Both lists are strictly ascending in the order of bytes, and what they hold are names without
capitals. -/
structure Canonical (domains : DomainSet) : Prop where
  included : domains.included.Pairwise Text.BytesBefore
  excluded : domains.excluded.Pairwise Text.BytesBefore
  named : ∀ name ∈ domains.included ++ domains.excluded, name ≠ []
  small : ∀ name ∈ domains.included ++ domains.excluded, ∀ c ∈ name, c.isUpper = false

/-- Some domain is included, and all domains can hold documents. -/
structure NamesSites (domains : DomainSet) : Prop where
  included : domains.included ≠ []
  sites : ∀ name ∈ domains.included ++ domains.excluded,
    '.' ∈ name ∨ name = ("localhost" : Text)

variable {domains : DomainSet}

theorem canonical_of_wellFormed (ordered : domains.WellFormed)
    (small : ∀ name, name ∈ domains.included ∨ name ∈ domains.excluded → name.lower = name) :
    domains.Canonical where
  included := ordered.included.imp Text.bytesBefore_of_lt
  excluded := ordered.excluded.imp Text.bytesBefore_of_lt
  named name member := ordered.named name (List.mem_append.1 member)
  small name member := Text.isUpper_of_lower_eq (small name (List.mem_append.1 member))

theorem canonical_empty : empty.Canonical :=
  canonical_of_wellFormed wellFormed_empty (by simp [empty])

theorem canonical_ofEntries (entries : List Text) : (ofEntries entries).Canonical :=
  canonical_of_wellFormed (wellFormed_ofEntries entries) fun _ => lower_of_mem_ofEntries

theorem sites_subset (domains : DomainSet) :
    domains.sites.included ++ domains.sites.excluded ⊆ domains.included ++ domains.excluded :=
  (List.filter_sublist.append List.filter_sublist).subset

theorem Canonical.sites (canonical : domains.Canonical) : domains.sites.Canonical where
  included := canonical.included.filter _
  excluded := canonical.excluded.filter _
  named name member := canonical.named name (sites_subset domains member)
  small name member := canonical.small name (sites_subset domains member)

theorem namesSites_sites (named : domains.sites.included ≠ []) : domains.sites.NamesSites where
  included := named
  sites name member := by
    have isSite : isSite name = true := by
      rw [DomainSet.sites, ← List.filter_append] at member
      exact (List.mem_filter.1 member).2
    rw [DomainSet.isSite, Bool.or_eq_true, decide_eq_true_eq, List.contains_iff_mem] at isSite
    exact isSite.symm

end DomainSet

namespace Options

/-- Keys are put in order; those that were written twice stay. -/
theorem ordered_sitekeysOf (value : Text) :
    (sitekeysOf value).Pairwise fun a b => a = b ∨ Text.BytesBefore a b := by
  have sorted : (sitekeysOf value).Pairwise fun a b => decide (¬ b < a) = true := by
    apply List.pairwise_mergeSort
    · intro a b c
      simp only [decide_eq_true_eq]
      intro first second
      exact Std.not_lt.2 (Std.le_trans (Std.not_lt.1 first) (Std.not_lt.1 second))
    · intro a b
      rw [Bool.or_eq_true, decide_eq_true_eq, decide_eq_true_eq]
      exact Classical.or_iff_not_imp_left.2 fun less => List.lt_asymm (Classical.not_not.1 less)
  refine sorted.imp fun {a b} notGreater => ?_
  rcases Std.lt_trichotomy a b with less | same | greater
  · exact .inr (Text.bytesBefore_of_lt less)
  · exact .inl same
  · exact absurd greater (of_decide_eq_true notGreater)

theorem of_mem_sitekeysOf {value key : Text} (member : key ∈ sitekeysOf value) :
    key ≠ [] ∧ ∀ c ∈ key, c.isLower = false := by
  rw [sitekeysOf, List.mem_mergeSort, List.mem_filter, decide_eq_true_eq] at member
  refine ⟨member.2, fun c there => ?_⟩
  obtain ⟨d, -, rfl⟩ := List.mem_map.1 (Text.subset_of_mem_pieces member.1 there)
  exact Text.isLower_toUpper d

section Reading

variable {entries : List Entry} {options : Options}
  (read : entries.foldlM add .absent = .ok options)
include read

theorem canonical_domains_of_read : options.domains.Canonical := by
  rw [domains_of_read read]
  cases last? "domain" entries with
  | none => exact DomainSet.canonical_empty
  | some entry => exact DomainSet.canonical_ofEntries _

theorem ordered_sitekeys_of_read :
    options.sitekeys.Pairwise fun a b => a = b ∨ Text.BytesBefore a b := by
  rw [sitekeys_of_read read]
  cases last? "sitekey" entries with
  | none => exact .nil
  | some entry => exact ordered_sitekeysOf entry.value

theorem of_mem_sitekeys_of_read {key : Text} (member : key ∈ options.sitekeys) :
    key ≠ [] ∧ ∀ c ∈ key, c.isLower = false := by
  rw [sitekeys_of_read read] at member
  generalize last? "sitekey" entries = last at member
  cases last with
  | none => cases member
  | some entry => exact of_mem_sitekeysOf member

end Reading

end Options

/-- One of the engines compiles the source. -/
def RegexEngine.Accepts [RegexEngine] (source : Text) : Prop :=
  (∃ r, compileStandard false source = .ok r) ∨ ∃ r, compileBacktracking source = .ok r

namespace UrlFilter

/-- What a filter with a substitute may ask of requests: it is bound to named domains or to a site,
and redirects everything there or whole hosts. -/
structure RedirectsSafely (filter : UrlFilter) : Prop where
  party : filter.party ≠ .thirdParty
  pattern : filter.pattern = [] ∨ filter.pattern = ['*'] ∨ ("||" : Text) <+: filter.pattern
  bound : filter.domains.included ≠ [] ∨ filter.party = .firstParty

/-- What every filter on addresses satisfies. -/
structure Admissible [RegexEngine] (filter : UrlFilter) : Prop where
  domains : filter.domains.Canonical
  /-- a key may be there twice -/
  sitekeys : filter.sitekeys.Pairwise fun a b => a = b ∨ Text.BytesBefore a b
  keys : ∀ key ∈ filter.sitekeys, key ≠ [] ∧ ∀ c ∈ key, c.isLower = false
  specialTypes : filter.specialTypes.Nodup
  allows : filter.specialTypes ≠ [] → filter.category = .allowing
  blocks : filter.category = .blocking → filter.csp ≠ some [] ∧ filter.header ≠ some []
  substitute : filter.substitute.isSome = true → filter.RedirectsSafely
  specific : filter.isGeneric = true →
    4 ≤ Text.byteLength (filter.pattern.dropWhile (· = '|')) ∨
      '*' ∈ filter.pattern.dropWhile (· = '|')
  unspaced : ∀ c ∈ filter.pattern, Text.isBlank c = false
  bars : Pattern.isExpression filter.pattern = false → Pattern.BarsAtEnds filter.pattern
  small : Pattern.isExpression filter.pattern = false → filter.matchCase = false →
    ∀ c ∈ filter.pattern, c.isUpper = false
  accepted : RegexEngine.Accepts filter.source

section Patterns

theorem isBlank_of_mem_sanitizeBars {t : Text} (clear : ∀ c ∈ t, Text.isBlank c = false) :
    ∀ c ∈ sanitizeBars t, Text.isBlank c = false := by
  intro c member
  rcases List.mem_append.1 (sanitizeBars_subset t member) with old | new
  · exact clear c old
  · have escape : ("%7C" : Text).all (fun c => !Text.isBlank c) = true := by decide
    simpa using List.all_eq_true.1 escape c new

theorem isBlank_of_mem_normalizePattern (matchCase : Bool) (text : Text) :
    ∀ c ∈ normalizePattern matchCase text, Text.isBlank c = false := by
  have clear : ∀ c ∈ text.withoutBlanks, Text.isBlank c = false := fun c member => by
    simpa using (List.mem_filter.1 member).2
  rw [normalizePattern]
  split
  · exact clear
  · split
    · exact isBlank_of_mem_sanitizeBars clear
    · exact Text.isBlank_of_mem_lower (isBlank_of_mem_sanitizeBars clear)

theorem isUpper_of_mem_normalizePattern {text : Text}
    (plain : Pattern.isExpression (normalizePattern false text) = false) :
    ∀ c ∈ normalizePattern false text, c.isUpper = false := by
  rw [normalizePattern] at plain ⊢
  split
  · rename_i expression
    rw [if_pos expression, expression] at plain
    cases plain
  · exact Text.isUpper_of_lower_eq (Text.lower_lower _)

/-- A source that can match anything is accepted by an engine. -/
theorem accepts_of_isValidPattern [RegexEngine] (blank : RegexEngine.Accepts []) {source : Text}
    (valid : isValidPattern source = true) : RegexEngine.Accepts source := by
  rw [isValidPattern, CompiledPattern.compile] at valid
  split at valid
  · rename_i empty
    exact empty ▸ blank
  · split at valid
    · rename_i r accepted
      exact .inl ⟨r, accepted⟩
    · cases valid
    · split at valid
      · rename_i r accepted
        exact .inr ⟨r, accepted⟩
      · cases valid

end Patterns

section Guards

variable [RegexEngine] {privileged hasOptions : Bool} {category : Category} {text : Text}
  {options : Options} {filter : UrlFilter}

/-- What the parts of a filter must pass to make one. -/
structure Passes (privileged : Bool) (category : Category) (text : Text) (hasOptions : Bool)
    (options : Options) : Prop where
  policy : ¬ (category = .blocking ∧ options.csp = some [])
  header : ¬ (category = .blocking ∧ options.header = some [])
  special : ¬ (category = .blocking ∧ options.specialTypes ≠ [])
  privilege : ¬ (options.header.isSome ∧ !privileged)
  written : ¬ (text.withoutBlanks = [] ∧ !hasOptions)
  substitute : ¬ (options.substitute.isSome ∧
    !allowsSubstitute (normalizePattern options.matchCase text) options)
  scheme : ¬ hasSchemeBehindAnchor (normalizePattern options.matchCase text)
  specific : ¬ (options.domains.isEmpty ∧ options.sitekeys = [] ∧
    !isSpecificEnough (normalizePattern options.matchCase text))
  valid : ¬ !isValidPattern (Pattern.source (normalizePattern options.matchCase text))

theorem passes_of_ofParts
    (made : ofParts privileged category text hasOptions options = .ok filter) :
    Passes privileged category text hasOptions options := by
  rw [ofParts] at made
  iterate 9 (split at made; · cases made)
  constructor <;> assumption

theorem redirectsSafely_of_ofParts
    (made : ofParts privileged category text hasOptions options = .ok filter)
    (redirects : filter.substitute.isSome = true) : filter.RedirectsSafely := by
  have passes := passes_of_ofParts made
  obtain rfl := of_ofParts_eq_ok made
  have allowed := passes.substitute
  rw [not_and, Bool.not_eq_true, Bool.not_eq_false'] at allowed
  have conditions := allowed redirects
  simp only [allowsSubstitute, Bool.and_eq_true, Bool.or_eq_true, bne_iff_ne, decide_eq_true_eq,
    Bool.not_eq_true', List.isEmpty_eq_false_iff, List.isPrefixOf_iff_prefix, or_assoc]
    at conditions
  exact ⟨conditions.1.1, conditions.1.2, conditions.2⟩

/-- What the parts of a filter pass, and what was read from its options, make it admissible. -/
theorem admissible_of_ofParts (blank : RegexEngine.Accepts []) {entries : List Options.Entry}
    (read : entries.foldlM Options.add .absent = .ok options)
    (made : ofParts privileged category text hasOptions options = .ok filter) :
    filter.Admissible := by
  have passes := passes_of_ofParts made
  have redirects := redirectsSafely_of_ofParts made
  have wellFormed := Options.wellFormed_of_read read
  obtain rfl := of_ofParts_eq_ok made
  constructor
  case domains => exact Options.canonical_domains_of_read read
  case sitekeys => exact Options.ordered_sitekeys_of_read read
  case keys => exact fun key member => Options.of_mem_sitekeys_of_read read member
  case specialTypes => exact wellFormed.specialTypes
  case allows =>
    intro special
    cases category with
    | allowing => rfl
    | blocking => exact absurd ⟨rfl, special⟩ passes.special
  case blocks =>
    exact fun blocking => ⟨fun empty => passes.policy ⟨blocking, empty⟩,
      fun empty => passes.header ⟨blocking, empty⟩⟩
  case substitute => exact redirects
  case specific =>
    intro generic
    obtain ⟨noKey, noDomain⟩ := Bool.and_eq_true_iff.1 generic
    have specific : isSpecificEnough (normalizePattern options.matchCase text) = true := by
      by_contra vague
      exact passes.specific ⟨noDomain, List.isEmpty_iff.1 noKey, by simpa using vague⟩
    rw [isSpecificEnough, Bool.or_eq_true, decide_eq_true_eq, List.contains_iff_mem] at specific
    exact specific
  case unspaced => exact isBlank_of_mem_normalizePattern _ text
  case bars => exact barsAtEnds_normalizePattern
  case small =>
    intro plain ignored
    dsimp only at plain ignored ⊢
    rw [ignored] at plain ⊢
    exact isUpper_of_mem_normalizePattern plain
  case accepted =>
    have valid := passes.valid
    rw [Bool.not_eq_true, Bool.not_eq_false'] at valid
    exact accepts_of_isValidPattern blank valid

end Guards

end UrlFilter

/-- What every filter on the elements of documents satisfies: if it does more than hide, or keep
others from it, it is bound to sites. -/
structure ContentFilter.Admissible (filter : ContentFilter) : Prop where
  domains : filter.domains.Canonical
  bound : filter.kind ∈ [.emulation, .remove, .inlineCss] → filter.domains.NamesSites

/-- What every filter that runs calls satisfies. -/
structure SnippetFilter.Admissible (filter : SnippetFilter) : Prop where
  domains : filter.domains.Canonical
  bound : filter.domains.NamesSites
  calls : filter.calls ≠ []

namespace Filter

/-- What every filter satisfies. -/
def Admissible [RegexEngine] : Filter → Prop
  | url filter => filter.Admissible
  | content filter => filter.Admissible
  | snippet filter => filter.Admissible

theorem canonical_domainsBefore (separator : Separator) (before : Text) :
    (domainsBefore separator before).Canonical := by
  rw [domainsBefore]
  split
  · exact (DomainSet.canonical_ofEntries _).sites
  · exact DomainSet.canonical_ofEntries _

theorem namesSites_domainsBefore {separator : Separator} {before : Text}
    (needs : separator.needsDomains = true)
    (named : (domainsBefore separator before).included ≠ []) :
    (domainsBefore separator before).NamesSites := by
  rw [domainsBefore, if_pos needs] at named ⊢
  exact DomainSet.namesSites_sites named

theorem Separated.admissible [RegexEngine] {privileged : Bool} {before body : Text}
    {separator : Separator} {filter : Filter}
    (made : Separated privileged (domainsBefore separator before) body separator filter) :
    filter.Admissible := by
  have canonical := canonical_domainsBefore separator before
  cases made with
  | hide selected | hideException selected =>
    refine ⟨?_, fun kind => ?_⟩
    · rwa [ContentFilter.domains_ofSelector selected]
    · simp [ContentFilter.kind_ofSelector selected] at kind
  | emulation named emulated =>
    have bound := namesSites_domainsBefore rfl named
    rw [← ContentFilter.domains_ofEmulation emulated] at canonical bound
    exact ⟨canonical, fun _ => bound⟩
  | snippet named scripted =>
    have bound := namesSites_domainsBefore rfl named
    rw [← SnippetFilter.domains_ofScript scripted] at canonical bound
    exact ⟨canonical, bound, SnippetFilter.calls_ofScript scripted⟩

/-- Whatever is read from a line is admissible, if an engine compiles the empty expression. -/
theorem admissible_of_parse [RegexEngine] (blank : RegexEngine.Accepts []) {privileged : Bool}
    {line : Text} {filter : Filter} (read : parse privileged line = .ok filter) :
    filter.Admissible := by
  rcases cases_of_parse read with ⟨before, separator, after, -, made⟩ | ⟨-, made, -, rfl⟩
  · exact made.admissible
  · obtain ⟨hasOptions, options, folded, parts⟩ := UrlFilter.made_of_parse read
    exact UrlFilter.admissible_of_ofParts blank folded parts

/-- Options in any order and any case, of which some are there twice. -/
theorem admissible_of_parse_redirect :
    let line : Text :=
      "||Ads.example/a|b$domain=x.test,rewrite=abp-resource:blank-js,Domain=B.test|~a.B.test|a.*"
    let filter := { UrlFilter.plain .blocking "||ads.example/a%7cb" with
      domains := ⟨["a.", "b.test"], ["a.b.test"]⟩
      substitute := some .blankScript, subresource := false }
    RegexEngine.Accepts [] ∧ parse false line = .ok (.url filter) ∧
      (Filter.url filter).Admissible := by
  intro line filter
  have blank : RegexEngine.Accepts [] := .inl ⟨_, compileStandard_of_read (Regex.run_nil rfl)⟩
  have read : parse false line = .ok (.url filter) := by decide +kernel
  exact ⟨blank, read, admissible_of_parse blank read⟩

end Filter

end ContentBlocker
