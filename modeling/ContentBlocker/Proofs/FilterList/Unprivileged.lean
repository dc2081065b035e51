import ContentBlocker.FilterList.Compile
import ContentBlocker.Proofs.Filter.Privilege
import ContentBlocker.Proofs.Index.Filed
import ContentBlocker.Proofs.Index.RoundTrip
import ContentBlocker.Reference.Engine
/-!
# What an unprivileged list compiles to

All filters of a compiled list were read from its lines with the privilege of the list. Therefore
the index of an unprivileged list has no filter that runs calls, and nothing in the sub-indexes of
filters that remove or style elements or look at headers.
-/

namespace ContentBlocker

/-- The sub-indexes in which nothing but filters that need privilege is posted. -/
def SubIndex.privileged : List SubIndex :=
  [snippet, content .remove, content .inlineCss, url .header .blocking, url .header .allowing]

theorem UrlFilter.needsPrivilege_of_mem_subIndexes {filter : UrlFilter} {category : Category}
    (member : .url .header category ∈ filter.subIndexes) : filter.needsPrivilege := by
  unfold subIndexes at member
  by_cases header : filter.header.isSome
  · exact header
  · simp [header] at member

/-- What is posted in one of these sub-indexes needs privilege. -/
theorem Filter.needsPrivilege_of_mem_postings {filter : Filter} {id : Nat} {posting : Posting}
    (member : posting ∈ filter.postings id) (place : posting.index ∈ SubIndex.privileged) :
    filter.needsPrivilege := by
  cases filter with
  | url filter =>
    obtain ⟨index, there, rfl⟩ := List.mem_map.1 member
    have about := UrlFilter.isAbout_of_mem_subIndexes there
    simp only [SubIndex.privileged, List.mem_cons, List.not_mem_nil, or_false] at place
    rcases place with rfl | rfl | rfl | rfl | rfl
    · cases about
    · cases about
    · cases about
    · exact UrlFilter.needsPrivilege_of_mem_subIndexes there
    · exact UrlFilter.needsPrivilege_of_mem_subIndexes there
  | content filter =>
    obtain ⟨key, -, rfl⟩ := List.mem_map.1 member
    simpa [SubIndex.privileged, Filter.needsPrivilege, ContentFilter.needsPrivilege] using place
  | snippet filter => rfl

namespace ListReading

variable [RegexEngine] {config : CompileConfig} {r : ListReading}

/-- All filters were read from lines with the privilege of the list. -/
def ReadsFilters (config : CompileConfig) (r : ListReading) : Prop :=
  ∀ filter ∈ r.filters.toList, ∃ line, Filter.parse config.privileged line = .ok filter

theorem readsFilters_addFilterLine (h : r.ReadsFilters config) (line : Text) :
    (addFilterLine config r line).ReadsFilters config := by
  unfold addFilterLine ReadsFilters
  cases read : Filter.parse config.privileged line with
  | error fault => exact h
  | ok filter =>
    intro other member
    rw [Array.toList_push, List.mem_append, List.mem_singleton] at member
    rcases member with old | rfl
    · exact h other old
    · exact ⟨line, read⟩

theorem readsFilters_addText (h : r.ReadsFilters config) (line : Text) :
    (addText config r line).ReadsFilters config := by
  unfold addText
  by_cases blank : line = []
  · rw [if_pos blank]
    exact h
  rw [if_neg blank]
  by_cases header : !r.sawContent ∧ !config.requireHeader ∧ isMarkedHeader line
  · rw [if_pos header]
    exact h
  rw [if_neg header]
  by_cases comment : line.head? = some '!'
  · rw [if_pos comment]
    cases r.inPreamble <;> exact h
  · rw [if_neg comment]
    exact readsFilters_addFilterLine h line

theorem readsFilters_addLine (h : r.ReadsFilters config) (line : List UInt8) :
    (addLine config r line).ReadsFilters config := by
  unfold addLine
  cases lineText? line with
  | none => exact h
  | some text => exact readsFilters_addText (r := { r with lineCount := r.lineCount + 1 }) h _

theorem readsFilters_addLines (h : r.ReadsFilters config) (lines : List (List UInt8)) :
    (addLines config r lines).ReadsFilters config := by
  induction lines generalizing r with
  | nil => exact h
  | cons line rest ih =>
    have one := readsFilters_addLine h line
    unfold addLines
    by_cases moved : (addLine config r line).metadata.redirect.isSome
    · simp only [moved, if_true]
      exact one
    · simp only [moved]
      exact ih one

end ListReading

namespace ListSource

section

variable [RegexEngine]

theorem readsFilters_read {source : ListSource} {config : CompileConfig} {r : ListReading}
    (read : source.read config = .ok r) : r.ReadsFilters config := by
  have none : ∀ count, { ListReading.start with lineCount := count }.ReadsFilters config := by
    intro count filter member
    cases member
  unfold ListSource.read at read
  split at read
  · split at read
    · cases read
    · cases read
    · split at read
      · cases read
        exact ListReading.readsFilters_addLines (none 1) _
      · cases read
  · cases read
    exact ListReading.readsFilters_addLines (none 0) _

/-- The index of a list is built from filters that were read with the privilege of the list. -/
theorem of_compile_eq_index {source : ListSource} {config : CompileConfig} {bytes : ByteArray}
    (compiled : source.compile config = .index bytes) :
    ∃ filters metadata, bytes = buildIndex filters metadata config.source ∧
      ∀ filter ∈ filters, ∃ line, Filter.parse config.privileged line = .ok filter := by
  unfold compile compileReporting at compiled
  cases read : source.read config with
  | error fault =>
    rw [read] at compiled
    cases compiled
  | ok r =>
    rw [read] at compiled
    dsimp only at compiled
    split at compiled
    · cases compiled
    · cases compiled
    · cases compiled
      exact ⟨_, _, rfl, readsFilters_read read⟩

/-- An unprivileged list compiles to filters that need no privilege, and posts none of them where
privilege is needed. -/
theorem of_compile_unprivileged {source : ListSource} {config : CompileConfig} {bytes : ByteArray}
    (unprivileged : config.privileged = false) (compiled : source.compile config = .index bytes) :
    ∃ filters metadata, bytes = buildIndex filters metadata config.source ∧
      (∀ filter ∈ filters, filter.needsPrivilege = false) ∧
      ∀ posting ∈ (Builder.ofFilters filters).postings.toList,
        posting.index ∉ SubIndex.privileged := by
  obtain ⟨filters, metadata, same, parsed⟩ := of_compile_eq_index compiled
  rw [unprivileged] at parsed
  have harmless : ∀ filter ∈ filters, filter.needsPrivilege = false := by
    intro filter member
    obtain ⟨line, read⟩ := parsed filter member
    exact Filter.needsPrivilege_of_parse_false read
  refine ⟨filters, metadata, same, harmless, ?_⟩
  intro posting member privileged
  obtain ⟨filter, there, id, posted⟩ := Builder.exists_of_mem_postings member
  have needs := Filter.needsPrivilege_of_mem_postings posted privileged
  rw [harmless filter there] at needs
  cases needs

/-- Without privilege a line holds the filter that it holds with privilege, unless that filter needs
it, and then none. Hence an unprivileged list compiles to filters that need no privilege, none of
them posted where it is needed. The loaded index, if it is small enough for its positions, has no
filter that runs calls, and nothing in the sub-indexes of filters that need privilege. -/
theorem load_compile_unprivileged :
    (∀ line, (Filter.parse false line).toOption =
      (Filter.parse true line).toOption.filter fun filter => !filter.needsPrivilege) ∧
    ∀ (source : ListSource) (config : CompileConfig) (bytes : ByteArray),
      config.privileged = false → source.compile config = .index bytes →
      (∃ filters metadata, bytes = buildIndex filters metadata config.source ∧
        (∀ filter ∈ filters, filter.needsPrivilege = false) ∧
        ∀ posting ∈ (Builder.ofFilters filters).postings.toList,
          posting.index ∉ SubIndex.privileged) ∧
      (bytes.size < 2 ^ 32 →
        ∃ s, Snapshot.load bytes = .ok s ∧ s.snippetCount = 0 ∧ (∀ id, s.snippet? id = none) ∧
          ∀ index ∈ SubIndex.privileged,
            s.keyCount index = 0 ∧ (∀ key, s.lookup index key = []) ∧ s.entries index = []) := by
  refine ⟨Filter.toOption_parse, ?_⟩
  intro source config bytes unprivileged compiled
  have built := of_compile_unprivileged unprivileged compiled
  refine ⟨built, fun fits => ?_⟩
  obtain ⟨filters, metadata, rfl, harmless, unposted⟩ := built
  have noSnippets : filters.filterMap Filter.snippet? = [] := by
    rw [List.filterMap_eq_nil_iff]
    intro filter member
    cases filter with
    | url filter => rfl
    | content filter => rfl
    | snippet filter => cases harmless _ member
  have gathered := Builder.gathered_ofFilters filters
  obtain ⟨s, loaded, contains⟩ := Builder.load_ofFilters fits
  obtain ⟨-, -, count⟩ := contains.counts gathered
  refine ⟨s, loaded, ?_, fun id => ?_, fun index privileged => ?_⟩
  · rw [count, noSnippets]
    rfl
  · rw [contains.snippet? gathered, noSnippets]
    rfl
  · refine contains.nothing_of_unposted ?_
    rintro posting member rfl
    exact unposted posting member privileged

end

/-- An unprivileged list with a call and a condition on headers, which are left out. -/
theorem load_compile_two_left_out :
    let text : Text := "[Adblock Plus]\n||ads.example^\na.example#$#log hi\n||b^$header=x"
    let source : ListSource := ⟨text.encode, none⟩
    ∃ bytes s, source.compile .standard = .index bytes ∧ Snapshot.load bytes = .ok s ∧
      s.snippetCount = 0 ∧ s.lookup (.url .header .blocking) [] = [] := by
  intro text source
  have small : (match source.read .standard with
      | .ok r => decide (r.metadata.redirect = none ∧ (Layout.assemble
          ((Builder.ofFilters r.filters.toList).sections r.metadata [])).length < 2 ^ 32)
      | .error _ => false) = true := by
    decide +kernel
  cases read : source.read .standard with
  | error fault =>
    rw [read] at small
    cases small
  | ok r =>
    rw [read, decide_eq_true_eq] at small
    obtain ⟨stays, fits⟩ := small
    have compiled : source.compile .standard =
        .index (buildIndex r.filters.toList r.metadata []) := by
      unfold compile compileReporting
      rw [read]
      dsimp only
      rw [stays]
      rfl
    have size : (buildIndex r.filters.toList r.metadata []).size < 2 ^ 32 :=
      size_buildIndex_lt fits
    obtain ⟨-, loads⟩ := load_compile_unprivileged.2 source .standard _ rfl compiled
    obtain ⟨s, loaded, count, -, nothing⟩ := loads size
    exact ⟨_, s, compiled, loaded, count, (nothing _ (by decide)).2.1 []⟩

end ListSource

end ContentBlocker
