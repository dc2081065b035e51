import ContentBlocker.Proofs.Filter.Parsed
import ContentBlocker.Proofs.Index.Loading
import ContentBlocker.Reference.Engine
/-!
# An index gives its filters back

Reading a filter by number from a loaded index gives what the filter with that number was compiled
from, with the domain lists, calls and arguments of just this filter. `load_buildIndex` puts the
three kinds together with the metadata.
-/

namespace ContentBlocker

open Bytes Snapshot

/-- What an index keeps of a filter on addresses. -/
def UrlFilter.indexed (filter : UrlFilter) : IndexedUrl where
  source := filter.source
  matchCase := filter.matchCase
  contentTypes := filter.contentTypes
  party := filter.party
  substitute := filter.substitute.getD .unlisted
  payload := filter.payload
  lists := filter.lists

/-- What an index keeps of a filter on elements. -/
def ContentFilter.indexed (filter : ContentFilter) : IndexedContent where
  selector := filter.selector
  css := filter.css
  lists := filter.domains.lists

/-- What an index keeps of a filter that runs calls. -/
def SnippetFilter.indexed (filter : SnippetFilter) : IndexedSnippet where
  calls := filter.calls
  lists := filter.domains.lists

/-- Of domains without an empty name, the lists are generic where there is no domain. -/
theorem DomainSet.WellFormed.isGeneric {domains : DomainSet} (h : domains.WellFormed)
    (sitekeys : List Text) :
    (DomainLists.mk domains.included domains.excluded sitekeys).isGeneric =
      (sitekeys.isEmpty && domains.isEmpty) := by
  have allEmpty : ∀ names : List Text, (∀ name ∈ names, name ≠ []) →
      names.all List.isEmpty = names.isEmpty := by
    intro names named
    cases names with
    | nil => rfl
    | cons name rest =>
      have first : name.isEmpty = false :=
        List.isEmpty_eq_false_iff.2 (named name List.mem_cons_self)
      rw [List.all_cons, first]
      rfl
  rw [DomainLists.isGeneric, allEmpty _ fun name there => h.named name (.inl there),
    allEmpty _ fun name there => h.named name (.inr there), Bool.and_assoc]
  rfl

theorem forall₂_getElem? {α β : Type} {R : α → β → Prop} {as : List α} {bs : List β}
    (h : List.Forall₂ R as bs) (i : Nat) :
    (as[i]? = none ∧ bs[i]? = none) ∨ ∃ a b, as[i]? = some a ∧ bs[i]? = some b ∧ R a b := by
  rcases Nat.lt_or_ge i as.length with inside | outside
  · have inside' : i < bs.length := h.length_eq ▸ inside
    exact .inr ⟨_, _, List.getElem?_eq_getElem inside, List.getElem?_eq_getElem inside',
      h.get inside inside'⟩
  · exact .inl ⟨List.getElem?_eq_none outside, List.getElem?_eq_none (h.length_eq ▸ outside)⟩

/-- In a section of records a number has either no record and no filter, or a record that reads back
and stands for the filter with that number. -/
theorem record_cases {α β : Type} {bytes : α → List UInt8} {width : Nat}
    {read? : ByteArray → Nat → Option α} {records : Array α} {R : α → β → Prop} {filters : List β}
    {data : ByteArray} (widths : ∀ a, (bytes a).length = width) (positive : 0 < width)
    (reads : ∀ {data i r}, StandsAt data i (bytes r) → read? data i = some r)
    (stores : List.Forall₂ R records.toList filters)
    (content : data = (Builder.recordSection bytes records).toByteArray)
    (fits : data.size < 2 ^ 32) (id : Nat) :
    (recordStart? data width id = none ∧ filters[id]? = none) ∨
      ∃ start record filter, recordStart? data width id = some start ∧
        read? data start = some record ∧ filters[id]? = some filter ∧ R record filter := by
  subst content
  rw [List.size_toByteArray] at fits
  rw [recordStart?, recordCount_recordSection widths positive fits]
  obtain ⟨noRecord, noFilter⟩ | ⟨record, filter, there, isFilter, holds⟩ :=
    forall₂_getElem? stores id
  · rw [List.getElem?_eq_none_iff, Array.length_toList] at noRecord
    exact .inl ⟨if_neg (Nat.not_lt.2 noRecord), noFilter⟩
  · have inside := (List.getElem?_eq_some_iff.1 there).1
    rw [Array.length_toList] at inside
    exact .inr ⟨_, record, filter, if_pos inside, reads (standsAt_recordSection widths there),
      isFilter, holds⟩

theorem wellFormed_of_url? {filters : List Filter} {id : Nat} {filter : UrlFilter}
    (wellFormed : ∀ filter ∈ filters, filter.WellFormed)
    (isFilter : (filters.filterMap Filter.url?)[id]? = some filter) : filter.WellFormed := by
  obtain ⟨original, member, isUrl⟩ := List.mem_filterMap.1 (List.mem_of_getElem? isFilter)
  cases original with
  | url original =>
    cases isUrl
    exact wellFormed _ member
  | content _ => cases isUrl
  | snippet _ => cases isUrl

section Contains

variable {s : Snapshot} {b : Builder} {filters : List Filter} {metadata : Metadata} {source : Text}

namespace Snapshot.Contains

theorem listsAt (contains : s.Contains b metadata source) {place : UInt32} {lists : DomainLists}
    (placed : lists.Placed b.strings.bytes b.lists.bytes place) : s.listsAt place = lists :=
  listsAt_of_placed (placed.mono contains.texts (contains.lists ▸ .refl _)) contains.textsFit
    (contains.sectionsFit .domainLists)

theorem resolve (contains : s.Contains b metadata source) {r : StringRef} {t : Text}
    (leads : r.LeadsTo b.strings.bytes t) : Snapshot.resolve s.textBytes r = t :=
  (leads.mono contains.texts).resolve contains.textsFit

theorem url? (contains : s.Contains b metadata source) (gathered : b.Gathered filters)
    (wellFormed : ∀ filter ∈ filters, filter.WellFormed) (id : Nat) :
    s.url? id = (filters.filterMap Filter.url?)[id]?.map UrlFilter.indexed := by
  obtain ⟨absent, none⟩ | ⟨start, record, filter, place, read, isFilter, stores⟩ :=
    record_cases UrlRecord.length_bytes (by decide) UrlRecord.read?_of_standsAt gathered.urls
      contains.urls (contains.sectionsFit _) id
  · rw [Snapshot.url?, absent, none]
    rfl
  · have known := (wellFormed_of_url? wellFormed isFilter).contentTypes
    have matchCase : decide (record.flags &&& 1 ≠ 0) = filter.matchCase := by
      rw [stores.flags]
      cases filter.matchCase <;> rfl
    have party : (PartyRule.ofNumber? record.party.toNat).getD .either = filter.party := by
      rw [stores.party]
      cases filter.party <;> rfl
    have substitute : (Substitute.ofNumber? record.substitute.toNat).getD .unlisted =
        filter.substitute.getD .unlisted := by
      rw [stores.substitute]
      rcases filter.substitute with _ | resource
      · rfl
      · cases resource <;> rfl
    rw [Snapshot.url?, place, isFilter]
    simp only [read, Option.bind_eq_bind, Option.bind_some, Option.pure_def, matchCase, party,
      substitute, stores.contentTypes, known.ofBits, contains.resolve stores.pattern,
      contains.resolve stores.payload, contains.listsAt stores.lists]
    rfl

theorem content? (contains : s.Contains b metadata source) (gathered : b.Gathered filters)
    (id : Nat) :
    s.content? id = (filters.filterMap Filter.content?)[id]?.map ContentFilter.indexed := by
  obtain ⟨absent, none⟩ | ⟨start, record, filter, place, read, isFilter, stores⟩ :=
    record_cases ContentRecord.length_bytes (by decide) ContentRecord.read?_of_standsAt
      gathered.contents contains.contents (contains.sectionsFit _) id
  · rw [Snapshot.content?, absent, none]
    rfl
  · rw [Snapshot.content?, place, isFilter]
    simp only [read, Option.bind_eq_bind, Option.bind_some, Option.pure_def,
      contains.resolve stores.selector, contains.resolve stores.css,
      contains.listsAt stores.lists]
    rfl

theorem call? (contains : s.Contains b metadata source) {id : Nat} {record : CallRecord}
    {call : SnippetCall} (there : b.calls.toList[id]? = some record)
    (stores : record.Stores b.strings.bytes b.arguments.toList call) : s.call? id = some call := by
  obtain ⟨command, first, refs, place, count, leads, inPlace⟩ := stores
  have same : List.Forall₂ Eq b.calls.toList b.calls.toList := by
    rw [List.forall₂_eq_eq_eq]
  obtain ⟨-, none⟩ | ⟨start, found, _, startAt, read, isRecord, rfl⟩ :=
    record_cases CallRecord.length_bytes (by decide) CallRecord.read?_of_standsAt same
      contains.calls (contains.sectionsFit _) id
  · rw [none] at there
    cases there
  · rw [isRecord] at there
    cases there
    have stands := inPlace.standsAt_flatMap StringRef.length_bytes
    rw [← contains.arguments] at stands
    have bound := stands.end_le
    have fits := contains.sectionsFit .snippetArguments
    rw [length_flatMap_of_width StringRef.length_bytes, leads.length_eq] at bound
    have inside : first * 8 + call.arguments.length * 8 ≤ (s.sectionBytes .snippetArguments).size :=
      bound
    have firstValue : record.firstArgument.toNat = first := by
      rw [place, toNat_ofNat_of_lt (by omega)]
    have countValue : record.argumentCount.toNat = call.arguments.length := by
      rw [count, toNat_ofNat_of_lt (by omega)]
    have arguments := resolveList_of_standsAt
      (leads.imp fun _ _ lead => lead.mono contains.texts) stands contains.textsFit
    rw [Snapshot.call?, startAt]
    simp only [read, Option.bind_eq_bind, Option.bind_some, firstValue, countValue,
      if_neg (Nat.not_lt.2 bound), arguments, contains.resolve command]
    rfl

theorem snippet? (contains : s.Contains b metadata source) (gathered : b.Gathered filters)
    (id : Nat) :
    s.snippet? id = (filters.filterMap Filter.snippet?)[id]?.map SnippetFilter.indexed := by
  obtain ⟨absent, none⟩ | ⟨start, record, filter, place, read, isFilter, stores⟩ :=
    record_cases SnippetRecord.length_bytes (by decide) SnippetRecord.read?_of_standsAt
      gathered.snippets contains.snippets (contains.sectionsFit _) id
  · rw [Snapshot.snippet?, absent, none]
    rfl
  · obtain ⟨lists, first, records, firstCall, callCount, callsStore, inPlace⟩ := stores
    have callsFit := contains.sectionsFit .snippetCalls
    rw [contains.calls, List.size_toByteArray] at callsFit
    have count := recordCount_recordSection CallRecord.length_bytes (by decide) callsFit
    rw [← contains.calls] at count
    rw [length_recordSection CallRecord.length_bytes, Layout.snippetCallSize] at callsFit
    have bound := inPlace.end_le
    rw [callsStore.length_eq, Array.length_toList] at bound
    have firstValue : record.firstCall.toNat = first := by
      rw [firstCall, toNat_ofNat_of_lt (by omega)]
    have countValue : record.callCount.toNat = filter.calls.length := by
      rw [callCount, toNat_ofNat_of_lt (by omega)]
    have all : min record.callCount.toNat (b.calls.size - record.firstCall.toNat) =
        filter.calls.length := by
      rw [firstValue, countValue]
      omega
    have calls : (List.range filter.calls.length).filterMap
        (fun i => s.call? (record.firstCall.toNat + i)) = filter.calls := by
      refine Eq.trans (List.filterMap_congr fun i inside => ?_) (filterMap_getElem?_range _)
      have inside := List.mem_range.1 inside
      have inside' : i < records.length := callsStore.length_eq ▸ inside
      rw [firstValue, List.getElem?_eq_getElem inside]
      exact contains.call? ((inPlace.getElem? inside').trans (List.getElem?_eq_getElem inside'))
        (callsStore.get inside' inside)
    rw [Snapshot.snippet?, place, isFilter]
    simp only [read, Option.bind_eq_bind, Option.bind_some, Option.pure_def, count, all, calls,
      contains.listsAt lists]
    rfl

theorem info (contains : s.Contains b metadata source) (expires : metadata.expires < 2 ^ 32) :
    s.info = ⟨source, metadata.title, metadata.version, metadata.homepage, metadata.expires⟩ := by
  obtain ⟨refs, leads, content⟩ := contains.metadata
  have stands := StandsAt.self (refs.flatMap StringRef.bytes ++
    le32 (UInt32.ofNat (min metadata.expires 0xffffffff)))
  rw [← content] at stands
  cases leads with
  | cons first leads =>
  cases leads with
  | cons second leads =>
  cases leads with
  | cons third leads =>
  cases leads with
  | cons fourth leads =>
  cases leads
  simp only [List.flatMap_cons, List.flatMap_nil, List.append_nil, List.append_assoc] at stands
  have expiry := natAt_of_standsAt stands.right.right.right.right
  simp only [StringRef.length_bytes, Layout.stringRefSize, Nat.zero_add, Nat.reduceAdd] at expiry
  rw [toNat_ofNat_of_lt (by omega), Nat.min_eq_left (by omega)] at expiry
  have sourceRead : resolveAt s.textBytes (s.sectionBytes .metadata) 0 = source :=
    StringRef.resolveAt_of_standsAt stands.left first contains.textsFit
  have title : resolveAt s.textBytes (s.sectionBytes .metadata) 8 = metadata.title :=
    StringRef.resolveAt_of_standsAt stands.right.left second contains.textsFit
  have version : resolveAt s.textBytes (s.sectionBytes .metadata) 16 = metadata.version :=
    StringRef.resolveAt_of_standsAt stands.right.right.left third contains.textsFit
  have homepage : resolveAt s.textBytes (s.sectionBytes .metadata) 24 = metadata.homepage :=
    StringRef.resolveAt_of_standsAt stands.right.right.right.left fourth contains.textsFit
  simp only [Snapshot.info, sourceRead, title, version, homepage, expiry]

/-- There is a record for every filter, and none beyond. -/
theorem counts (contains : s.Contains b metadata source) (gathered : b.Gathered filters) :
    s.urlCount = (filters.filterMap Filter.url?).length ∧
      s.contentCount = (filters.filterMap Filter.content?).length ∧
      s.snippetCount = (filters.filterMap Filter.snippet?).length := by
  have urlsFit := contains.sectionsFit .urlFilters
  have contentsFit := contains.sectionsFit .contentFilters
  have snippetsFit := contains.sectionsFit .snippetFilters
  rw [contains.urls, List.size_toByteArray] at urlsFit
  rw [contains.contents, List.size_toByteArray] at contentsFit
  rw [contains.snippets, List.size_toByteArray] at snippetsFit
  refine ⟨?_, ?_, ?_⟩
  · rw [urlCount, contains.urls, ← gathered.urls.length_eq, Array.length_toList]
    exact recordCount_recordSection UrlRecord.length_bytes (by decide) urlsFit
  · rw [contentCount, contains.contents, ← gathered.contents.length_eq, Array.length_toList]
    exact recordCount_recordSection ContentRecord.length_bytes (by decide) contentsFit
  · rw [snippetCount, contains.snippets, ← gathered.snippets.length_eq, Array.length_toList]
    exact recordCount_recordSection SnippetRecord.length_bytes (by decide) snippetsFit

end Snapshot.Contains

end Contains

end ContentBlocker
