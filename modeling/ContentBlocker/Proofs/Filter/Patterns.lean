import ContentBlocker.Proofs.Filter.Parsed
import ContentBlocker.Proofs.Pattern.Filing
import ContentBlocker.Proofs.Pattern.Translation
import ContentBlocker.Proofs.Reference.Engine
/-!
# What the patterns of filters match

A filter that is read from a line keeps its pattern with bars at the ends only, those in between
being written as escapes. Its compiled pattern therefore matches what the pattern says. The word the
filter is filed under is then looked up for the addresses that match, except where the pattern
ignores case and takes the Kelvin sign or the long s for a letter of ASCII: the words of an address
are cut and put into small letters within ASCII.
-/

namespace ContentBlocker

open Regex Text

namespace Pattern

theorem barsAtEnds_lower {pattern : Text} (ends : BarsAtEnds pattern) :
    BarsAtEnds pattern.lower := by
  obtain ⟨opening, middle, closed, rfl, noBar⟩ := ends
  refine ⟨opening, middle.lower, closed, ?_, ?_⟩
  · cases opening <;> cases closed <;> simp [Text.lower, bars, closing]
  · intro bar
    obtain ⟨c, there, small⟩ := List.mem_map.1 bar
    rw [eq_of_toLower_eq (by decide) small] at there
    exact noBar there

end Pattern

namespace UrlFilter

open Pattern

theorem bar_not_mem_escapeBars (t : Text) : '|' ∉ escapeBars t := by
  intro bar
  rcases List.mem_flatMap.1 bar with ⟨c, -, part⟩
  split at part
  · revert part
    decide
  · rename_i other
    exact other (List.mem_singleton.1 part).symm

theorem exists_bars (t : Text) : ∃ opening, (t.take 2).takeWhile (· = '|') = bars opening := by
  rcases t with _ | ⟨c, _ | ⟨d, t⟩⟩
  · exact ⟨.anywhere, rfl⟩
  · by_cases bar : c = '|'
    · exact ⟨.address, by simp [bar, bars]⟩
    · exact ⟨.anywhere, by simp [bar, bars]⟩
  · by_cases bar : c = '|'
    · by_cases again : d = '|'
      · exact ⟨.host, by simp [bar, again, bars]⟩
      · exact ⟨.address, by simp [bar, again, bars]⟩
    · exact ⟨.anywhere, by simp [bar, bars]⟩

theorem barsAtEnds_sanitizeBars (pattern : Text) : BarsAtEnds (sanitizeBars pattern) := by
  obtain ⟨opening, start⟩ := exists_bars pattern
  rw [sanitizeBars]
  simp only [start]
  split
  · exact ⟨opening, _, true, List.append_assoc _ _ _, bar_not_mem_escapeBars _⟩
  · exact ⟨opening, _, false, congrArg _ (List.append_nil _).symm, bar_not_mem_escapeBars _⟩

theorem barsAtEnds_normalizePattern {matchCase : Bool} {text : Text}
    (plain : isExpression (normalizePattern matchCase text) = false) :
    BarsAtEnds (normalizePattern matchCase text) := by
  rw [normalizePattern] at plain ⊢
  split
  · rename_i expression
    rw [if_pos expression, expression] at plain
    cases plain
  · split
    · exact barsAtEnds_sanitizeBars _
    · exact barsAtEnds_lower (barsAtEnds_sanitizeBars _)

section

variable [RegexEngine]

/-- The pattern of a filter has bars at its ends only. -/
theorem barsAtEnds_of_parse {privileged : Bool} {line : Text} {filter : UrlFilter}
    (read : parse privileged line = .ok filter) (plain : isExpression filter.pattern = false) :
    BarsAtEnds filter.pattern := by
  obtain ⟨hasOptions, options, -, made⟩ := of_parse_eq_ok read
  obtain rfl := of_ofParts_eq_ok made
  exact barsAtEnds_normalizePattern plain

/-- A filter that is read from a line matches what its pattern says, its size aside. -/
theorem isMatch_iff_matches (ordinary : RegexEngine.OrdinarySearch) {privileged : Bool}
    {line url : Text} {filter : UrlFilter} (read : parse privileged line = .ok filter)
    (plain : isExpression filter.pattern = false)
    (small : RegexEngine.tooLarge (!filter.matchCase) filter.source = false) :
    (CompiledPattern.compile filter.source filter.matchCase).isMatch url = true ↔
      Matches filter.matchCase filter.pattern url := by
  rw [source, source_of_not_isExpression plain] at small ⊢
  have valid := AddressPattern.isValid_compile_source ordinary small
  rw [AddressPattern.isMatch_compile_source ordinary, and_iff_right valid,
    occurs_iff_matches (barsAtEnds_of_parse read plain)]

/-- The filter that a pattern makes without options. -/
def plain (category : Category) (pattern : Text) : UrlFilter where
  category
  pattern
  matchCase := false
  contentTypes := .all
  party := .either
  domains := .empty
  sitekeys := []
  popup := false
  subresource := true
  csp := none
  header := none
  substitute := none
  specialTypes := []

/-- Options that only bind a filter leave a plain filter with these bounds. -/
theorem ofParts_restricted {privileged hasOptions : Bool} {category : Category} {text : Text}
    (domains : DomainSet) (sitekeys : List Text) (written : text.withoutBlanks ≠ [])
    (noScheme : hasSchemeBehindAnchor (normalizePattern false text) = false)
    (specific : isSpecificEnough (normalizePattern false text) = true)
    (valid : isValidPattern (Pattern.source (normalizePattern false text)) = true) :
    ofParts privileged category text hasOptions { Options.absent with domains, sitekeys } =
      .ok { plain category (normalizePattern false text) with domains, sitekeys } := by
  simp [ofParts, Options.absent, plain, written, noScheme, specific, valid]
  exact ⟨rfl, rfl⟩

theorem ofParts_absent {privileged hasOptions : Bool} {category : Category} {text : Text}
    (written : text.withoutBlanks ≠ [])
    (noScheme : hasSchemeBehindAnchor (normalizePattern false text) = false)
    (specific : isSpecificEnough (normalizePattern false text) = true)
    (valid : isValidPattern (Pattern.source (normalizePattern false text)) = true) :
    ofParts privileged category text hasOptions .absent =
      .ok (plain category (normalizePattern false text)) :=
  ofParts_restricted .empty [] written noScheme specific valid

/-- The word a filter is filed under is looked up for every address that the filter matches, unless
the pattern ignores case and a character beyond ASCII is taken for a letter of it. -/
theorem keyword_mem_ofUrl (ordinary : RegexEngine.OrdinarySearch) {filter : UrlFilter} {url : Text}
    (distinct : filter.matchCase = true ∨
      ∀ c, c ∈ filter.pattern ∨ c ∈ url → c ≠ '\u212A' ∧ c ≠ '\u017F')
    (matched : (CompiledPattern.compile filter.source filter.matchCase).isMatch url = true) :
    filter.keyword = [] ∨ filter.keyword ∈ Keyword.ofUrl url.lower := by
  have clear : ∀ c, c ∈ filter.pattern ∨ c ∈ url → Unmistaken (!filter.matchCase) c := by
    intro c there ignored
    rcases distinct with exact | distinct
    · rw [exact] at ignored
      cases ignored
    · exact distinct c there
  apply keyword_mem_of_unmistaken ordinary
  · intro c there
    exact clear c (.inl there)
  · intro c there
    exact clear c (.inr there)
  · exact matched

end

/-- Capitals of the address do not keep the filter from being looked up. -/
theorem keyword_mem_ofUrl_capitals :
    let filter := plain .blocking "||kelvin.test^"
    let url : Text := "https://www.KELVIN.test/"
    RegexEngine.OrdinarySearch ∧
      (filter.matchCase = true ∨
        ∀ c, c ∈ filter.pattern ∨ c ∈ url → c ≠ '\u212A' ∧ c ≠ '\u017F') ∧
      (CompiledPattern.compile filter.source filter.matchCase).isMatch url = true ∧
      (filter.keyword = [] ∨ filter.keyword ∈ Keyword.ofUrl url.lower) := by
  intro filter url
  have distinct : filter.matchCase = true ∨
      ∀ c, c ∈ filter.pattern ∨ c ∈ url → c ≠ '\u212A' ∧ c ≠ '\u017F' := by
    have ascii : Text.IsAscii (filter.pattern ++ url) := by decide
    right
    intro c there
    have clear : Unmistaken true c := unmistaken_of_ascii (ascii c (List.mem_append.2 there))
    exact clear rfl
  have matched : (CompiledPattern.compile filter.source filter.matchCase).isMatch url = true := by
    rw [source, source_of_not_isExpression (by decide),
      AddressPattern.isMatch_compile_source_eq (by decide)]
    decide
  exact ⟨referenceEngine_ordinarySearch, distinct, matched,
    keyword_mem_ofUrl referenceEngine_ordinarySearch distinct matched⟩

/-- The Kelvin sign is taken for the first letter of the word a filter is filed under, and the
address does not contain that word. -/
theorem not_keyword_mem_ofUrl :
    ¬ ∀ [RegexEngine], RegexEngine.OrdinarySearch → ∀ line filter,
      Filter.parse false line = .ok (.url filter) → isExpression filter.pattern = false → ∀ url,
        (CompiledPattern.compile filter.source filter.matchCase).isMatch url = true →
          filter.keyword = [] ∨ filter.keyword ∈ Keyword.ofUrl url.lower := by
  intro claimed
  have made : ofParts false .blocking "||kelvin.test^" false .absent =
      .ok (plain .blocking "||kelvin.test^") := by
    apply ofParts_absent (by decide) (by decide) (by decide)
    show isValidPattern (Pattern.source "||kelvin.test^") = true
    rw [source_of_not_isExpression (by decide)]
    exact AddressPattern.isValid_compile_source referenceEngine_ordinarySearch
      (AddressPattern.tooLarge_source (by decide))
  have read : Filter.parse false "||kelvin.test^" =
      .ok (.url (plain .blocking "||kelvin.test^")) := by
    show ((ofParts false .blocking "||kelvin.test^" false .absent).map _).mapError _ = _
    rw [made]
    rfl
  have matched : (CompiledPattern.compile (Pattern.source "||kelvin.test^") false).isMatch
      "https://\u212Aelvin.test/" = true := by
    rw [source_of_not_isExpression (by decide),
      AddressPattern.isMatch_compile_source_eq (by decide)]
    decide
  have filed : (plain .blocking "||kelvin.test^").keyword = "kelvin" := by
    show Keyword.filing "||kelvin.test^" = "kelvin"
    decide +kernel
  have words : Keyword.ofUrl (Text.lower "https://\u212Aelvin.test/") = ["elvin", "test"] := by
    decide +kernel
  have wrong := claimed referenceEngine_ordinarySearch _ _ read (by decide) _ matched
  rw [filed, words] at wrong
  revert wrong
  decide

end UrlFilter

end ContentBlocker
