import ContentBlocker.Proofs.Filter.Ascii
import ContentBlocker.Proofs.Matching.Buckets
import ContentBlocker.Proofs.Pattern.Filing
import ContentBlocker.Proofs.Reference.Engine
import ContentBlocker.Reference.Suffixes
/-!
# Looking only under the words of the address

A query looks only at the filters that are filed under the words of its address, and finds just
those that a scan of all filters would find: none of the others could match, if the engine for
regular expressions has ordinary search semantics.
-/

namespace ContentBlocker

namespace Snapshot.Contains

variable {s : Snapshot} {filters : List Filter} {metadata : Metadata} {source : Text}

/-- A sub-index to which a filter belongs has a key. -/
theorem keyCount_ne_zero (contains : s.Contains (Builder.ofFilters filters) metadata source)
    (wellFormed : ∀ filter ∈ filters, filter.WellFormed) {index : SubIndex} (isUrl : index.isUrl)
    {filter : UrlFilter} (member : filter ∈ filters.filterMap Filter.url?)
    (belongs : index ∈ filter.subIndexes) : s.keyCount index ≠ 0 := by
  have filed := (Builder.routed_ofFilters wellFormed).filed index filter.keyword isUrl
  have here : filter ∈ (filters.filterMap Filter.url?).filter (·.isFiled index filter.keyword) :=
    List.mem_filter.2 ⟨member, by simp [UrlFilter.isFiled, belongs]⟩
  have posted :
      filter.keyword ∈ postedKeys (Builder.ofFilters filters).postings.toList index := by
    rw [mem_postedKeys]
    intro none
    rw [none, List.filterMap_nil] at filed
    exact List.not_mem_nil (filed ▸ here)
  rw [(contains.keys index).keyCount]
  exact (List.length_pos_of_mem posted).ne'

/-- If every filter that matches is filed under a word that is looked up, looking under these words
finds what a scan of all filters finds. -/
theorem mem_flatMap_candidatesUnder [RegexEngine] [Host.SuffixList]
    (contains : s.Contains (Builder.ofFilters filters) metadata source)
    (wellFormed : ∀ filter ∈ filters, filter.WellFormed) {index : SubIndex} (isUrl : index.isUrl)
    {query : UrlQuery} (noEndDot : query.document.getLast? ≠ some '.')
    (known : ∀ filter ∈ filters.filterMap Filter.url?,
      filter.indexed.matchesUrl query.url = true → filter.keyword ∈ query.keywords)
    {entry : IndexedUrl} :
    entry ∈ (query.keywords.flatMap fun keyword =>
        (Query.candidatesUnder s index query keyword).filter (·.matchesUrl query.url)) ↔
      ∃ filter ∈ filters.filterMap Filter.url?, index ∈ filter.subIndexes ∧
        filter.indexed = entry ∧ entry.isViable query = .ok true ∧
          entry.matchesUrl query.url = true := by
  have candidates := contains.candidatesUnder wellFormed isUrl query
  rw [List.mem_flatMap, entry.isViable_ok noEndDot, Except.ok.injEq]
  constructor
  · rintro ⟨keyword, -, found⟩
    obtain ⟨there, matched⟩ := List.mem_filter.1 found
    rw [candidates keyword] at there
    obtain ⟨filed, viable⟩ := List.mem_filter.1 there
    obtain ⟨filter, inBucket, rfl⟩ := List.mem_map.1 filed
    obtain ⟨member, isFiled⟩ := List.mem_filter.1 inBucket
    exact ⟨filter, member, (of_decide_eq_true isFiled).1, rfl, viable, matched⟩
  · rintro ⟨filter, member, belongs, rfl, viable, matched⟩
    refine ⟨filter.keyword, known filter member matched, List.mem_filter.2 ⟨?_, matched⟩⟩
    rw [candidates filter.keyword]
    refine List.mem_filter.2 ⟨List.mem_map_of_mem (List.mem_filter.2 ⟨member, ?_⟩), viable⟩
    exact decide_eq_true ⟨belongs, rfl⟩

end Snapshot.Contains

/-- The filters that ASCII lines hold are filed under words of every ASCII address they match. -/
theorem Filter.keyword_mem_keywords [RegexEngine] (ordinary : RegexEngine.OrdinarySearch)
    {privileged : Bool} {lines : List Text} (ascii : ∀ line ∈ lines, line.IsAscii)
    {query : UrlQuery} (urlAscii : query.url.IsAscii) {filter : UrlFilter}
    (member : filter ∈ (ofLines privileged lines).filterMap Filter.url?)
    (matched : filter.indexed.matchesUrl query.url = true) : filter.keyword ∈ query.keywords := by
  obtain ⟨whole, there, isUrl⟩ := List.mem_filterMap.1 member
  obtain ⟨line, inLines, read⟩ := mem_ofLines.1 there
  cases whole with
  | url made =>
    cases isUrl
    exact Pattern.keyword_mem ordinary (isAscii_pattern_parse (ascii line inLines) read) urlAscii
      matched
  | content | snippet => cases isUrl

namespace Query

/-- In the index of ASCII lines, looking under the words of an ASCII address finds exactly the
filters of the sub-index that are viable and whose pattern matches, whatever words they are filed
under. The index must be small enough for the offsets of its format. -/
theorem findEach_buildIndex [RegexEngine] [Host.SuffixList]
    (ordinary : RegexEngine.OrdinarySearch) {privileged : Bool} {lines : List Text}
    {metadata : Metadata} {source : Text} (ascii : ∀ line ∈ lines, line.IsAscii)
    (fits : (buildIndex (Filter.ofLines privileged lines) metadata source).size < 2 ^ 32) :
    ∃ s, Snapshot.load (buildIndex (Filter.ofLines privileged lines) metadata source) = .ok s ∧
      ∀ index, index.isUrl → ∀ query : UrlQuery, query.url.IsAscii →
        query.document.getLast? ≠ some '.' → ∀ slot state, ∃ found,
          ((findEach s slot index query).run.run state).1 = .ok found ∧
            ∀ entry, entry ∈ found ↔
              ∃ filter ∈ (Filter.ofLines privileged lines).filterMap Filter.url?,
                index ∈ filter.subIndexes ∧ filter.indexed = entry ∧
                  entry.isViable query = .ok true ∧
                    (CompiledPattern.compile entry.source entry.matchCase).isMatch query.url =
                      true := by
  let filters := Filter.ofLines privileged lines
  have wellFormed := Filter.wellFormed_ofLines privileged lines
  obtain ⟨s, loaded, contains⟩ := Builder.load_ofFilters fits
  refine ⟨s, loaded, fun index isUrl query urlAscii noEndDot slot state => ?_⟩
  by_cases keys : s.keyCount index = 0
  · refine ⟨[], ?_, fun entry => iff_of_false List.not_mem_nil ?_⟩
    · rw [findEach, if_pos keys]
      exact gives_pure [] state
    · rintro ⟨filter, member, belongs, -⟩
      exact contains.keyCount_ne_zero wellFormed isUrl member belongs keys
  · refine ⟨_, gives_findEach s slot index noEndDot keys state, fun entry => ?_⟩
    exact contains.mem_flatMap_candidatesUnder wellFormed isUrl noEndDot
      fun filter member matched =>
        Filter.keyword_mem_keywords ordinary ascii urlAscii member matched

theorem findEach_buildIndex_two_words :
    let lines : List Text := ["||ads.example^", "/banner[0-9]/", "||other.example^", "##.ad"]
    let filters := Filter.ofLines false lines
    let query : UrlQuery :=
      { url := "https://ads.example/banner1.gif", contentTypes := none, document := "site.example",
        sitekey := [], aim := .blocking, thirdParty := true }
    let index : SubIndex := .url .subresource .blocking
    ∃ s, Snapshot.load (buildIndex filters .absent []) = .ok s ∧ ∀ state, ∃ found,
      ((findEach s 0 index query).run.run state).1 = .ok found ∧
        ∀ filter ∈ filters.filterMap Filter.url?,
          filter.indexed ∈ found ↔ filter.keyword ≠ "other".toList := by
  intro lines filters query index
  have fits : (buildIndex filters .absent []).size < 2 ^ 32 :=
    size_buildIndex_lt (by decide +kernel)
  obtain ⟨s, loaded, finds⟩ :=
    findEach_buildIndex referenceEngine_ordinarySearch (by decide +kernel) fits
  refine ⟨s, loaded, fun state => ?_⟩
  obtain ⟨found, answers, same⟩ :=
    finds index rfl query (by decide +kernel) (by decide +kernel) 0 state
  refine ⟨found, answers, ?_⟩
  simp only [same]
  decide +kernel

end Query

end ContentBlocker
