import ContentBlocker.Proofs.Filter.Parsed
import ContentBlocker.Proofs.Index.Tables
/-!
# The numbers that a builder posts

Filters of each kind are numbered in the order in which they come, every sub-index is about filters
of one kind, and a filter is posted at most once under a key of a sub-index. Therefore the numbers
posted there ascend, and all of them are numbers of filters.
-/

namespace ContentBlocker

theorem postedIds_append (a b : List Posting) (index : SubIndex) (key : Text) :
    postedIds (a ++ b) index key = postedIds a index key ++ postedIds b index key := by
  rw [postedIds, List.filter_append, List.map_append]
  rfl

/-- Two postings are in different places: in different sub-indexes or under different keys. -/
def Posting.Apart (p q : Posting) : Prop := (p.index, p.key) ≠ (q.index, q.key)

theorem pairwise_postedIds_of_apart {postings : List Posting} (h : postings.Pairwise Posting.Apart)
    (index : SubIndex) (key : Text) : (postedIds postings index key).Pairwise (· < ·) := by
  rw [postedIds, List.pairwise_map]
  refine (List.Pairwise.and_mem.1 (h.filter _)).imp ?_
  rintro p q ⟨memberP, memberQ, apart⟩
  simp only [List.mem_filter, decide_eq_true_eq] at memberP memberQ
  obtain ⟨-, rfl, rfl⟩ := memberP
  obtain ⟨-, index, key⟩ := memberQ
  exact absurd (by rw [index, key]) apart

/-- Whether a sub-index is about filters of the kind of this one. -/
def SubIndex.isAbout : SubIndex → Filter → Bool
  | url _ _, .url _ => true
  | special _, .url _ => true
  | content _, .content _ => true
  | snippet, .snippet _ => true
  | _, _ => false

namespace UrlFilter

theorem isAbout_of_mem_subIndexes {filter : UrlFilter} {index : SubIndex}
    (member : index ∈ filter.subIndexes) : index.isAbout (.url filter) := by
  cases index with
  | url | special => rfl
  | content | snippet =>
    rw [subIndexes] at member
    split at member <;> simp at member

theorem nodup_subIndexes {filter : UrlFilter} (h : filter.specialTypes.Nodup) :
    filter.subIndexes.Nodup := by
  rw [subIndexes]
  split
  · exact List.nodup_cons.2 ⟨List.not_mem_nil, .nil⟩
  · have specials : (filter.specialTypes.map SubIndex.special).Nodup :=
      List.Pairwise.map _ (fun _ _ different same => different (SubIndex.special.inj same)) h
    have other : ∀ purpose category, SubIndex.url purpose category ∉
        filter.specialTypes.map SubIndex.special := by
      intro purpose category there
      obtain ⟨_, _, same⟩ := List.mem_map.1 there
      cases same
    cases filter.popup <;> cases filter.csp.isSome <;> cases filter.substitute.isSome <;>
      cases filter.subresource <;> simp [specials, other]

theorem pairwise_postings {filter : UrlFilter} (h : filter.WellFormed) (id : Nat) :
    (filter.postings id).Pairwise Posting.Apart := by
  rw [postings, List.pairwise_map]
  exact (nodup_subIndexes h.specialTypes).imp fun different same =>
    different (congrArg Prod.fst same)

end UrlFilter

theorem DomainSet.pairwise_postings {domains : DomainSet} (h : domains.WellFormed)
    (index : SubIndex) (id : Nat) : (domains.postings index id).Pairwise Posting.Apart := by
  have nodup : domains.keys.Nodup := by
    rw [keys]
    split
    · exact List.nodup_cons.2 ⟨List.not_mem_nil, .nil⟩
    · exact h.included.nodup
  rw [postings, List.pairwise_map]
  exact nodup.imp fun different same => different (congrArg Prod.snd same)

namespace Filter

/-- What a filter posts under its number. -/
def postings (id : Nat) : Filter → List Posting
  | url filter => filter.postings id
  | content filter => filter.domains.postings (.content filter.kind) id
  | snippet filter => filter.domains.postings .snippet id

/-- A filter posts nothing but its number, and only in sub-indexes that are about its kind. -/
theorem of_mem_postings {filter : Filter} {id : Nat} {posting : Posting}
    (member : posting ∈ filter.postings id) :
    posting.id = id ∧ posting.index.isAbout filter := by
  cases filter with
  | url filter =>
    obtain ⟨index, there, rfl⟩ := List.mem_map.1 member
    exact ⟨rfl, UrlFilter.isAbout_of_mem_subIndexes there⟩
  | content filter =>
    obtain ⟨key, -, rfl⟩ := List.mem_map.1 member
    exact ⟨rfl, rfl⟩
  | snippet filter =>
    obtain ⟨key, -, rfl⟩ := List.mem_map.1 member
    exact ⟨rfl, rfl⟩

theorem pairwise_postings {filter : Filter} (wellFormed : filter.WellFormed) (id : Nat) :
    (filter.postings id).Pairwise Posting.Apart := by
  cases filter with
  | url filter => exact UrlFilter.pairwise_postings wellFormed id
  | content filter => exact DomainSet.pairwise_postings wellFormed _ id
  | snippet filter => exact DomainSet.pairwise_postings wellFormed _ id

end Filter

namespace Builder

/-- How many filters have been taken of the kind that a sub-index is about. -/
def count (b : Builder) : SubIndex → Nat
  | .url _ _ => b.urls.size
  | .special _ => b.urls.size
  | .content _ => b.contents.size
  | .snippet => b.snippets.size

/-- The number that the next filter of the kind of this one gets. -/
def nextId (b : Builder) : Filter → Nat
  | .url _ => b.urls.size
  | .content _ => b.contents.size
  | .snippet _ => b.snippets.size

theorem count_of_isAbout {index : SubIndex} {filter : Filter} (about : index.isAbout filter)
    (b : Builder) : b.count index = b.nextId filter := by
  cases index <;> cases filter <;> first | rfl | cases about

theorem calls_preserve (calls : List SnippetCall) (b : Builder) :
    (calls.foldl addCall b).urls = b.urls ∧ (calls.foldl addCall b).contents = b.contents ∧
      (calls.foldl addCall b).snippets = b.snippets ∧
      (calls.foldl addCall b).postings = b.postings := by
  induction calls generalizing b with
  | nil => exact ⟨rfl, rfl, rfl, rfl⟩
  | cons call rest ih => exact ih (b.addCall call)

theorem addSnippet_preserve (b : Builder) (filter : SnippetFilter) :
    (b.addSnippet filter).urls = b.urls ∧ (b.addSnippet filter).contents = b.contents ∧
      (b.addSnippet filter).snippets.size = b.snippets.size + 1 ∧
      (b.addSnippet filter).postings =
        b.postings ++ filter.domains.postings .snippet b.snippets.size := by
  obtain ⟨urls, contents, snippets, postings⟩ := calls_preserve filter.calls
    { b with
      strings := (b.lists.intern b.strings filter.domains.lists).2.2
      lists := (b.lists.intern b.strings filter.domains.lists).2.1 }
  refine ⟨urls, contents, ?_, ?_⟩
  · rw [show (b.addSnippet filter).snippets = Array.push _ _ from rfl, Array.size_push]
    exact congrArg (Array.size · + 1) snippets
  · exact congrArg₂
      (fun (posted : Array Posting) n => posted ++ filter.domains.postings .snippet n)
      postings (congrArg Array.size snippets)

theorem postings_add (b : Builder) (filter : Filter) :
    (b.add filter).postings = b.postings ++ filter.postings (b.nextId filter) := by
  cases filter with
  | url filter => rfl
  | content filter => rfl
  | snippet filter => exact (addSnippet_preserve b filter).2.2.2

theorem count_add (b : Builder) (filter : Filter) (index : SubIndex) :
    (b.add filter).count index =
      if index.isAbout filter then b.count index + 1 else b.count index := by
  cases filter with
  | url filter =>
    have urls : (b.addUrl filter).urls.size = b.urls.size + 1 := by
      rw [show (b.addUrl filter).urls = b.urls.push _ from rfl, Array.size_push]
    cases index with
    | url | special => exact urls
    | content | snippet => rfl
  | content filter =>
    have contents : (b.addContent filter).contents.size = b.contents.size + 1 := by
      rw [show (b.addContent filter).contents = b.contents.push _ from rfl, Array.size_push]
    cases index with
    | content => exact contents
    | url | special | snippet => rfl
  | snippet filter =>
    obtain ⟨urls, contents, snippets, -⟩ := addSnippet_preserve b filter
    cases index with
    | url | special => exact congrArg Array.size urls
    | content => exact congrArg Array.size contents
    | snippet => exact snippets

/-- The posted numbers are numbers of filters that were taken, and ascend. -/
structure Numbered (b : Builder) : Prop where
  below : ∀ posting ∈ b.postings.toList, posting.id < b.count posting.index
  ascending : ∀ index key, (postedIds b.postings.toList index key).Pairwise (· < ·)

theorem numbered_empty : empty.Numbered := ⟨by simp [empty], fun _ _ => .nil⟩

/-- A filter is posted under the next number of its kind, which is above all before it. -/
theorem numbered_add {b : Builder} (h : b.Numbered) {filter : Filter}
    (wellFormed : filter.WellFormed) : (b.add filter).Numbered := by
  have all : (b.add filter).postings.toList =
      b.postings.toList ++ filter.postings (b.nextId filter) := by
    rw [postings_add, Array.toList_appendList]
  refine ⟨fun posting there => ?_, fun index key => ?_⟩
  · rw [all, List.mem_append] at there
    rw [count_add]
    rcases there with old | new
    · have := h.below posting old
      split <;> omega
    · obtain ⟨next, about⟩ := Filter.of_mem_postings new
      rw [if_pos about, next, count_of_isAbout about]
      exact Nat.lt_succ_self _
  · rw [all, postedIds_append]
    refine List.pairwise_append.2 ⟨h.ascending index key,
      pairwise_postedIds_of_apart (Filter.pairwise_postings wellFormed _) _ _, ?_⟩
    intro old oldThere new newThere
    simp only [postedIds, List.mem_map, List.mem_filter, decide_eq_true_eq] at oldThere newThere
    obtain ⟨p, ⟨memberP, indexP, -⟩, rfl⟩ := oldThere
    obtain ⟨q, ⟨memberQ, indexQ, -⟩, rfl⟩ := newThere
    obtain ⟨next, about⟩ := Filter.of_mem_postings memberQ
    rw [next, ← count_of_isAbout about, indexQ, ← indexP]
    exact h.below p memberP

/-- Whatever is posted for filters that were read from lines is numbered in order. -/
theorem numbered_ofFilters {filters : List Filter}
    (wellFormed : ∀ filter ∈ filters, filter.WellFormed) : (ofFilters filters).Numbered := by
  have step : ∀ (b : Builder), b.Numbered → (filters.foldl add b).Numbered := by
    induction filters with
    | nil => exact fun b h => h
    | cons filter rest ih =>
      intro b h
      exact ih (fun other there => wellFormed other (List.mem_cons_of_mem _ there)) _
        (numbered_add h (wellFormed filter List.mem_cons_self))
  exact step empty numbered_empty

end Builder

end ContentBlocker
