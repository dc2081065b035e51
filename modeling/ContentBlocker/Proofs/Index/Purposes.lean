import ContentBlocker.Proofs.Filter.Patterns
import ContentBlocker.Proofs.Matching.Buckets
import Mathlib.Data.List.Induction
/-!
# The sub-indexes of a filter on addresses

The options of a filter say which sub-indexes it belongs to. It is listed in all of these under its
word, unless it has a condition on headers: then it is listed where such filters are, and nowhere
else. A filter keeps one text beside its conditions, its policy if it has one and its condition on
headers otherwise, so that a policy hides the condition.
-/

namespace ContentBlocker

namespace UrlFilter

/-- Whether a filter has the option that a sub-index is about. -/
def Serves (filter : UrlFilter) : SubIndex → Prop
  | .url purpose category => category = filter.category ∧
      match purpose with
      | .subresource => filter.subresource = true
      | .popup => filter.popup = true
      | .csp => filter.csp.isSome = true
      | .substitute => filter.substitute.isSome = true
      | .header => filter.header.isSome = true
  | .special type => type ∈ filter.specialTypes
  | .content _ => False
  | .snippet => False

/-- A filter that has none of the options that are listed for themselves, a condition on headers
apart. -/
structure ServesHeadersAlone (filter : UrlFilter) : Prop where
  popup : filter.popup = false
  csp : filter.csp = none
  substitute : filter.substitute = none
  specialTypes : filter.specialTypes = []

theorem ServesHeadersAlone.eq_header {filter : UrlFilter} (alone : filter.ServesHeadersAlone)
    {index : SubIndex} (isUrl : index.isUrl) (other : index ≠ .url .subresource filter.category)
    (serves : filter.Serves index) : index = .url .header filter.category := by
  cases index with
  | url purpose category =>
    obtain ⟨rfl, has⟩ := serves
    cases purpose with
    | subresource => exact absurd rfl other
    | popup => simp [alone.popup] at has
    | csp => simp [alone.csp] at has
    | substitute => simp [alone.substitute] at has
    | header => rfl
  | special type => simp [Serves, alone.specialTypes] at serves
  | content kind => cases isUrl
  | snippet => cases isUrl

/-- A filter is posted where it has the option, but a filter on headers nowhere else. -/
theorem mem_subIndexes_iff {filter : UrlFilter} {index : SubIndex} :
    index ∈ filter.subIndexes ↔
      filter.Serves index ∧ (filter.header = none ∨ index = .url .header filter.category) := by
  unfold subIndexes
  cases header : filter.header with
  | some condition =>
    rw [if_pos Option.isSome_some, List.mem_singleton]
    simp only [reduceCtorEq, false_or, iff_and_self]
    rintro rfl
    simp [Serves, header]
  | none =>
    rw [if_neg (by simp)]
    cases index with
    | url purpose category => cases purpose <;> simp [Serves, header, and_comm]
    | special type => simp [Serves]
    | content kind => simp [Serves]
    | snippet => simp [Serves]

end UrlFilter

theorem getElem?_concat_eq_some {α : Type} {as : List α} {a b : α} {i : Nat} :
    (as ++ [a])[i]? = some b ↔ as[i]? = some b ∨ i = as.length ∧ a = b := by
  rcases Nat.lt_trichotomy i as.length with inside | rfl | outside
  · simp [List.getElem?_append_left inside, Nat.ne_of_lt inside]
  · simp
  · have none : as.length + [a].length ≤ i := outside
    simp [List.getElem?_eq_none (Nat.le_of_lt outside), Nat.ne_of_gt outside,
      List.getElem?_eq_none (List.length_append ▸ none)]

namespace Builder

theorem ofFilters_concat (filters : List Filter) (filter : Filter) :
    ofFilters (filters ++ [filter]) = (ofFilters filters).add filter := by
  simp [ofFilters]

/-- Under a key of a sub-index about addresses stand the numbers of the filters that are filed
there. -/
theorem mem_postedIds_ofFilters {filters : List Filter}
    (wellFormed : ∀ filter ∈ filters, filter.WellFormed) {index : SubIndex} (isUrl : index.isUrl)
    {key : Text} {id : Nat} :
    id ∈ postedIds (ofFilters filters).postings.toList index key ↔
      ∃ filter, (filters.filterMap Filter.url?)[id]? = some filter ∧ filter.isFiled index key := by
  induction filters using List.reverseRecOn with
  | nil => simp [ofFilters, empty, postedIds]
  | append_singleton filters last ih =>
    have before : ∀ filter ∈ filters, filter.WellFormed := by
      intro filter member
      exact wellFormed filter (List.mem_append_left _ member)
    have here := wellFormed last (by simp)
    rw [ofFilters_concat, postings_add, Array.toList_appendList, postedIds_append, List.mem_append,
      ih before, Filter.postedIds_postings here, List.filterMap_append]
    cases last with
    | url filter =>
      -- its number is how many filters on addresses came before it
      have next : (ofFilters filters).nextId (.url filter) =
          (filters.filterMap Filter.url?).length := (routed_ofFilters before).size
      have same : (Filter.url filter).isFiled index key = filter.isFiled index key := rfl
      have pushed : [Filter.url filter].filterMap Filter.url? = [filter] := rfl
      rw [next, same, pushed]
      simp only [getElem?_concat_eq_some, or_and_right, exists_or]
      apply or_congr_right
      by_cases filed : filter.isFiled index key = true
      · simp [filed]
      · simp [filed]
    | content filter =>
      have elsewhere : (Filter.content filter).isFiled index key = false := by
        cases index <;> first | rfl | cases isUrl
      have pushed : [Filter.content filter].filterMap Filter.url? = [] := rfl
      simp [elsewhere, pushed]
    | snippet filter =>
      have elsewhere : (Filter.snippet filter).isFiled index key = false := by
        cases index <;> first | rfl | cases isUrl
      have pushed : [Filter.snippet filter].filterMap Filter.url? = [] := rfl
      simp [elsewhere, pushed]

end Builder

namespace Snapshot

/-- The numbers of filters under a key of a sub-index. -/
def idsUnder (s : Snapshot) (index : SubIndex) (key : Text) : List Nat :=
  (s.lookup index key).map UInt32.toNat

/-- The text that a filter on addresses keeps beside its conditions. -/
def payload? (s : Snapshot) (id : Nat) : Option Text := (s.url? id).map IndexedUrl.payload

/-- A filter is listed under its word exactly where it has the option, and wherever it is listed for
its policy or its condition on headers the index gives this text. -/
structure ListsByOption (s : Snapshot) (id : Nat) (filter : UrlFilter) : Prop where
  listed : ∀ index, index.isUrl → index ≠ .url .subresource filter.category →
    (id ∈ s.idsUnder index filter.keyword ↔ filter.Serves index)
  header : ∀ category key, id ∈ s.idsUnder (.url .header category) key →
    s.payload? id = filter.header
  csp : ∀ category key, id ∈ s.idsUnder (.url .csp category) key → s.payload? id = filter.csp

namespace Contains

variable {s : Snapshot} {filters : List Filter} {metadata : Metadata} {source : Text}

theorem mem_idsUnder (contains : s.Contains (Builder.ofFilters filters) metadata source)
    (wellFormed : ∀ filter ∈ filters, filter.WellFormed) {id : Nat} {filter : UrlFilter}
    (numbered : (filters.filterMap Filter.url?)[id]? = some filter) {index : SubIndex}
    (isUrl : index.isUrl) (key : Text) :
    id ∈ s.idsUnder index key ↔ index ∈ filter.subIndexes ∧ filter.keyword = key := by
  rw [idsUnder, contains.lookup (Builder.numbered_ofFilters wellFormed),
    Builder.mem_postedIds_ofFilters wellFormed isUrl]
  simp [numbered, UrlFilter.isFiled]

theorem payload?_eq (contains : s.Contains (Builder.ofFilters filters) metadata source)
    (wellFormed : ∀ filter ∈ filters, filter.WellFormed) {id : Nat} {filter : UrlFilter}
    (numbered : (filters.filterMap Filter.url?)[id]? = some filter) :
    s.payload? id = some ((filter.csp.or filter.header).getD []) := by
  rw [payload?, contains.url? (Builder.gathered_ofFilters filters) wellFormed, numbered]
  rfl

/-- A filter is listed for all of its options if it has no condition on headers, or no other option
to be listed for. -/
theorem listsByOption_iff (contains : s.Contains (Builder.ofFilters filters) metadata source)
    (wellFormed : ∀ filter ∈ filters, filter.WellFormed) {id : Nat} {filter : UrlFilter}
    (numbered : (filters.filterMap Filter.url?)[id]? = some filter) :
    s.ListsByOption id filter ↔ filter.header = none ∨ filter.ServesHeadersAlone := by
  have payload := contains.payload?_eq wellFormed numbered
  constructor
  · intro lists
    by_cases header : filter.header = none
    · exact .inl header
    -- with a condition on headers there is one sub-index only, so that every option is about it
    have alone : ∀ index, index.isUrl → index ≠ .url .subresource filter.category →
        filter.Serves index → index = .url .header filter.category := by
      intro index isUrl other serves
      have listed := (lists.listed index isUrl other).2 serves
      rw [contains.mem_idsUnder wellFormed numbered isUrl, UrlFilter.mem_subIndexes_iff] at listed
      exact listed.1.2.resolve_left header
    right
    constructor
    · by_contra popup
      cases alone (.url .popup filter.category) rfl (by simp) ⟨rfl, by simpa using popup⟩
    · by_contra csp
      cases alone (.url .csp filter.category) rfl (by simp) ⟨rfl, Option.isSome_iff_ne_none.2 csp⟩
    · by_contra substitute
      cases alone (.url .substitute filter.category) rfl (by simp)
        ⟨rfl, Option.isSome_iff_ne_none.2 substitute⟩
    · rw [List.eq_nil_iff_forall_not_mem]
      intro type member
      cases alone (.special type) rfl (by simp) member
  · intro fits
    constructor
    · intro index isUrl other
      rw [contains.mem_idsUnder wellFormed numbered isUrl, UrlFilter.mem_subIndexes_iff]
      simp only [and_true, and_iff_left_iff_imp]
      intro serves
      obtain none | alone := fits
      · exact .inl none
      · exact .inr (alone.eq_header isUrl other serves)
    · intro category key listed
      rw [contains.mem_idsUnder wellFormed numbered rfl, UrlFilter.mem_subIndexes_iff] at listed
      obtain ⟨⟨⟨-, some⟩, -⟩, -⟩ := listed
      obtain ⟨condition, header⟩ := Option.isSome_iff_exists.1 some
      obtain none | alone := fits
      · simp [header] at none
      · rw [payload, alone.csp, header]
        rfl
    · intro category key listed
      rw [contains.mem_idsUnder wellFormed numbered rfl, UrlFilter.mem_subIndexes_iff] at listed
      obtain ⟨⟨⟨-, some⟩, -⟩, -⟩ := listed
      obtain ⟨policy, csp⟩ := Option.isSome_iff_exists.1 some
      rw [payload, csp]
      rfl

end Contains

/-- In the index of filters that were read from lines a filter is listed under its word exactly
where it has the option, and the index gives its policy and its condition on headers where it is
listed for these, unless it has a condition on headers and another option to be listed for. -/
theorem listsByOption_buildIndex [RegexEngine] {filters : List Filter} {metadata : Metadata}
    {source : Text}
    (parsed : ∀ filter ∈ filters, ∃ privileged line, Filter.parse privileged line = .ok filter)
    (fits : (buildIndex filters metadata source).size < 2 ^ 32) :
    ∃ s, load (buildIndex filters metadata source) = .ok s ∧
      ∀ id filter, (filters.filterMap Filter.url?)[id]? = some filter →
        (s.ListsByOption id filter ↔ filter.header = none ∨ filter.ServesHeadersAlone) := by
  have wellFormed := Filter.wellFormed_of_parsed parsed
  obtain ⟨s, loaded, contains⟩ := Builder.load_ofFilters fits
  refine ⟨s, loaded, ?_⟩
  intro id filter numbered
  exact contains.listsByOption_iff wellFormed numbered

theorem listsByOption_buildIndex_three_filters :
    let filters := Filter.ofLines true ["||ads.example^$popup,csp=script-src 'none'",
      "||ads.example^$header=x-ad", "@@||ads.example^$document,popup"]
    ∃ s, load (buildIndex filters .absent []) = .ok s ∧ ∀ id < 3, ∃ filter,
      (filters.filterMap Filter.url?)[id]? = some filter ∧ s.ListsByOption id filter := by
  intro filters
  have fits : (buildIndex filters .absent []).size < 2 ^ 32 :=
    size_buildIndex_lt (by decide +kernel)
  obtain ⟨s, loaded, lists⟩ := listsByOption_buildIndex (Filter.parsed_ofLines true _) fits
  have three : (filters.filterMap Filter.url?).length = 3 := by decide +kernel
  have alone : ∀ filter ∈ filters.filterMap Filter.url?, filter.header = none ∨
      filter.popup = false ∧ filter.csp = none ∧ filter.substitute = none ∧
        filter.specialTypes = [] := by
    decide +kernel
  refine ⟨s, loaded, ?_⟩
  intro id small
  have numbered := List.getElem?_eq_getElem (three.symm ▸ small)
  refine ⟨_, numbered, (lists id _ numbered).2 ?_⟩
  obtain none | ⟨popup, csp, substitute, specialTypes⟩ := alone _ (List.mem_of_getElem? numbered)
  · exact .inl none
  · exact .inr ⟨popup, csp, substitute, specialTypes⟩

/-- A condition on headers keeps a filter from the sub-index about new windows. -/
theorem not_listsByOption_buildIndex :
    ¬ ∀ filters metadata source,
      (∀ filter ∈ filters, ∃ privileged line, Filter.parse privileged line = .ok filter) →
        (buildIndex filters metadata source).size < 2 ^ 32 →
          ∀ s, load (buildIndex filters metadata source) = .ok s →
            ∀ id filter, (filters.filterMap Filter.url?)[id]? = some filter →
              s.ListsByOption id filter := by
  intro claimed
  let filters := Filter.ofLines true ["||ads.example^$popup,header=x-ad"]
  have parsed := Filter.parsed_ofLines true ["||ads.example^$popup,header=x-ad"]
  have fits : (buildIndex filters .absent []).size < 2 ^ 32 :=
    size_buildIndex_lt (by decide +kernel)
  have numbered : (filters.filterMap Filter.url?)[0]? =
      some { UrlFilter.plain .blocking "||ads.example^" with
        popup := true, header := some "x-ad", subresource := false } := by
    decide +kernel
  obtain ⟨s, loaded, contains⟩ := Builder.load_ofFilters fits
  have lists := claimed filters .absent [] parsed fits s loaded 0 _ numbered
  have wellFormed := Filter.wellFormed_of_parsed parsed
  obtain header | alone := (contains.listsByOption_iff wellFormed numbered).1 lists
  · cases header
  · cases alone.popup

end Snapshot

end ContentBlocker
