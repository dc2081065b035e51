import ContentBlocker.Proofs.Index.Filed
import ContentBlocker.Proofs.Index.RoundTrip
import ContentBlocker.Proofs.Matching.Answers
/-!
# The filters under a word of a compiled index

In the index of filters that were read from lines, a sub-index about addresses has under each word
just the filters that belong there and are filed under the word, in the order in which they came.
-/

namespace ContentBlocker

/-- Whether a sub-index is about filters on addresses. -/
def SubIndex.isUrl : SubIndex → Bool
  | .url _ _ => true
  | .special _ => true
  | .content _ => false
  | .snippet => false

/-- Whether a filter is filed under a word of a sub-index. -/
def UrlFilter.isFiled (index : SubIndex) (keyword : Text) (filter : UrlFilter) : Bool :=
  index ∈ filter.subIndexes ∧ filter.keyword = keyword

namespace Builder

/-- The builder has posted the filters on addresses where they belong. -/
structure Routed (b : Builder) (urls : List UrlFilter) : Prop where
  numbered : b.Numbered
  size : b.urls.size = urls.length
  filed : ∀ index keyword, index.isUrl →
    (postedIds b.postings.toList index keyword).filterMap (fun id => urls[id]?) =
      urls.filter (·.isFiled index keyword)

theorem files_urls {filters : List Filter} (wellFormed : ∀ filter ∈ filters, filter.WellFormed)
    {index : SubIndex} (isUrl : index.isUrl) :
    (ofFilters filters).Files index (filters.filterMap Filter.url?) (UrlFilter.isFiled index) := by
  refine files_ofFilters wellFormed ?_ ?_
  · rintro (filter | filter | filter) <;> cases index <;> first | rfl | cases isUrl
  · rintro (filter | filter | filter) _ ⟨⟩ key
    rfl

theorem routed_ofFilters {filters : List Filter}
    (wellFormed : ∀ filter ∈ filters, filter.WellFormed) :
    (ofFilters filters).Routed (filters.filterMap Filter.url?) := by
  have special : (SubIndex.special .document).isUrl := rfl
  exact ⟨numbered_ofFilters wellFormed, (files_urls wellFormed special).count,
    fun index keyword isUrl => (files_urls wellFormed isUrl).filed keyword⟩

end Builder

/-- The candidates under a word are the viable filters that are filed under it. -/
theorem Snapshot.Contains.candidatesUnder [Host.SuffixList] {s : Snapshot} {filters : List Filter}
    {metadata : Metadata} {source : Text}
    (contains : s.Contains (Builder.ofFilters filters) metadata source)
    (wellFormed : ∀ filter ∈ filters, filter.WellFormed) {index : SubIndex} (isUrl : index.isUrl)
    (query : UrlQuery) (keyword : Text) :
    Query.candidatesUnder s index query keyword =
      (((filters.filterMap Filter.url?).filter (·.isFiled index keyword)).map
        UrlFilter.indexed).filter (·.viable query) := by
  have files := Builder.files_urls wellFormed isUrl
  have reads := contains.url? (Builder.gathered_ofFilters filters) wellFormed
  rw [Query.candidatesUnder, contains.filterMap_lookup files reads]

end ContentBlocker
