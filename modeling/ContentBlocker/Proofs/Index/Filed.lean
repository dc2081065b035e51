import ContentBlocker.Proofs.Index.Lookup
/-!
# What a sub-index files

The numbers under a key of a sub-index stand for the filters that posted there, in the order in
which they came. `Builder.files_ofFilters` states this for every sub-index and every way of telling
under which keys a filter of its kind is filed; `Files.add` is the step for one more filter.
-/

namespace ContentBlocker

theorem DomainSet.exists_mem_postings {domains : DomainSet} {place index : SubIndex} {key : Text}
    (id : Nat) :
    (∃ posting ∈ domains.postings place id, posting.index = index ∧ posting.key = key) ↔
      index = place ∧ key ∈ domains.keys := by
  constructor
  · rintro ⟨_, member, rfl, rfl⟩
    obtain ⟨key, there, rfl⟩ := List.mem_map.1 member
    exact ⟨rfl, there⟩
  · rintro ⟨rfl, there⟩
    exact ⟨_, List.mem_map.2 ⟨key, there, rfl⟩, rfl, rfl⟩

namespace Filter

/-- Whether a filter is filed under a key of a sub-index. -/
def isFiled (index : SubIndex) (key : Text) : Filter → Bool
  | url filter => index ∈ filter.subIndexes ∧ filter.keyword = key
  | content filter => index = .content filter.kind ∧ key ∈ filter.domains.keys
  | snippet filter => index = .snippet ∧ key ∈ filter.domains.keys

theorem isFiled_iff {filter : Filter} {index : SubIndex} {key : Text} (id : Nat) :
    filter.isFiled index key ↔
      ∃ posting ∈ filter.postings id, posting.index = index ∧ posting.key = key := by
  cases filter with
  | url filter => simp [isFiled, postings, UrlFilter.postings]
  | content filter =>
    simp only [isFiled, postings, DomainSet.exists_mem_postings, decide_eq_true_eq]
  | snippet filter =>
    simp only [isFiled, postings, DomainSet.exists_mem_postings, decide_eq_true_eq]

/-- What a filter posts under one key of a sub-index: its number, once. -/
theorem postedIds_postings {filter : Filter} (wellFormed : filter.WellFormed) (id : Nat)
    (index : SubIndex) (key : Text) :
    postedIds (filter.postings id) index key = if filter.isFiled index key then [id] else [] := by
  have ascending := pairwise_postedIds_of_apart (pairwise_postings wellFormed id) index key
  have mem : ∀ n, n ∈ postedIds (filter.postings id) index key ↔
      n = id ∧ filter.isFiled index key := by
    intro n
    rw [isFiled_iff id]
    simp only [postedIds, List.mem_map, List.mem_filter, decide_eq_true_eq]
    constructor
    · rintro ⟨posting, ⟨member, place⟩, rfl⟩
      exact ⟨(of_mem_postings member).1, posting, member, place⟩
    · rintro ⟨rfl, posting, member, place⟩
      exact ⟨posting, ⟨member, place⟩, (of_mem_postings member).1⟩
  by_cases filed : filter.isFiled index key
  · rw [if_pos filed]
    cases posted : postedIds (filter.postings id) index key with
    | nil =>
      have there := (mem id).2 ⟨rfl, filed⟩
      rw [posted] at there
      cases there
    | cons first rest =>
      rw [posted] at ascending mem
      have isFirst : first = id := ((mem first).1 List.mem_cons_self).1
      cases rest with
      | nil => rw [isFirst]
      | cons second rest =>
        -- a second number would be the same, but also greater
        have isSecond := ((mem second).1 (List.mem_cons_of_mem _ List.mem_cons_self)).1
        have less := List.rel_of_pairwise_cons ascending List.mem_cons_self
        omega
  · rw [if_neg filed, List.eq_nil_iff_forall_not_mem]
    intro n member
    exact filed ((mem n).1 member).2

end Filter

namespace Builder

/-- Every posting was made for one of the filters. -/
theorem exists_of_mem_postings {filters : List Filter} {posting : Posting}
    (member : posting ∈ (ofFilters filters).postings.toList) :
    ∃ filter ∈ filters, ∃ id, posting ∈ filter.postings id := by
  have step : ∀ (rest : List Filter) (b : Builder),
      posting ∈ (rest.foldl add b).postings.toList →
      posting ∈ b.postings.toList ∨ ∃ filter ∈ rest, ∃ id, posting ∈ filter.postings id := by
    intro rest
    induction rest with
    | nil =>
      intro b there
      exact .inl there
    | cons filter rest ih =>
      intro b there
      rcases ih (b.add filter) there with early | ⟨other, later, id, made⟩
      · rw [postings_add, Array.toList_appendList, List.mem_append] at early
        rcases early with old | new
        · exact .inl old
        · exact .inr ⟨filter, List.mem_cons_self, _, new⟩
      · exact .inr ⟨other, List.mem_cons_of_mem _ later, id, made⟩
  rcases step filters empty member with nothing | made
  · cases nothing
  · exact made

/-- Of the filters that the sub-index is about, `members` have been taken, and each is posted under
the keys under which it is filed. -/
structure Files {α : Type} (b : Builder) (index : SubIndex) (members : List α)
    (isFiled : Text → α → Bool) : Prop where
  numbered : b.Numbered
  count : b.count index = members.length
  filed : ∀ key, (postedIds b.postings.toList index key).filterMap (fun id => members[id]?) =
    members.filter (isFiled key)

section Files

variable {α : Type} {index : SubIndex} {pick : Filter → Option α} {isFiled : Text → α → Bool}

theorem Files.add {b : Builder} {members : List α} (h : b.Files index members isFiled)
    {filter : Filter} (wellFormed : filter.WellFormed)
    (about : (pick filter).isSome = index.isAbout filter)
    (same : ∀ a ∈ pick filter, ∀ key, isFiled key a = filter.isFiled index key) :
    (b.add filter).Files index (members ++ (pick filter).toList) isFiled := by
  have numbered := numbered_add h.numbered wellFormed
  have posted : ∀ key, postedIds (b.add filter).postings.toList index key =
      postedIds b.postings.toList index key ++
        postedIds (filter.postings (b.nextId filter)) index key := by
    intro key
    rw [postings_add, Array.toList_appendList, postedIds_append]
  cases picked : pick filter with
  | none =>
    have elsewhere : index.isAbout filter = false := by rw [← about, picked]; rfl
    rw [Option.toList_none, List.append_nil]
    refine ⟨numbered, ?_, fun key => ?_⟩
    · rw [count_add, elsewhere, ← h.count]
      rfl
    · have nothing : postedIds (filter.postings (b.nextId filter)) index key = [] := by
        rw [postedIds_eq_nil]
        rintro posting member rfl
        rw [(Filter.of_mem_postings member).2] at elsewhere
        cases elsewhere
      rw [posted, nothing, List.append_nil, h.filed]
  | some a =>
    have here : index.isAbout filter = true := by rw [← about, picked]; rfl
    rw [Option.toList_some]
    refine ⟨numbered, ?_, fun key => ?_⟩
    · rw [count_add, if_pos here, h.count, List.length_append, List.length_singleton]
    · have old : (postedIds b.postings.toList index key).filterMap
          (fun id => (members ++ [a])[id]?) = members.filter (isFiled key) := by
        rw [← h.filed key]
        refine List.filterMap_congr fun id member => ?_
        simp only [postedIds, List.mem_map, List.mem_filter, decide_eq_true_eq] at member
        obtain ⟨posting, ⟨there, place, -⟩, rfl⟩ := member
        have below := h.numbered.below posting there
        rw [place, h.count] at below
        exact List.getElem?_append_left below
      have new : (postedIds (filter.postings (b.nextId filter)) index key).filterMap
          (fun id => (members ++ [a])[id]?) = [a].filter (isFiled key) := by
        rw [Filter.postedIds_postings wellFormed, ← same a picked, ← count_of_isAbout here,
          h.count]
        by_cases filed : isFiled key a = true
        · simp [filed]
        · simp [filed]
      rw [posted, List.filterMap_append, old, new, List.filter_append]

/-- Under each key of a sub-index stand the filters that are filed under it. -/
theorem files_ofFilters {filters : List Filter}
    (wellFormed : ∀ filter ∈ filters, filter.WellFormed)
    (about : ∀ filter, (pick filter).isSome = index.isAbout filter)
    (same : ∀ filter, ∀ a ∈ pick filter, ∀ key, isFiled key a = filter.isFiled index key) :
    (ofFilters filters).Files index (filters.filterMap pick) isFiled := by
  have step : ∀ (rest : List Filter) (taken : List α) (b : Builder),
      (∀ filter ∈ rest, filter ∈ filters) → b.Files index taken isFiled →
      (rest.foldl Builder.add b).Files index (taken ++ rest.filterMap pick) isFiled := by
    intro rest
    induction rest with
    | nil =>
      intro taken b _ h
      rwa [List.filterMap_nil, List.append_nil]
    | cons filter rest ih =>
      intro taken b among h
      have member := among filter List.mem_cons_self
      have one := h.add (wellFormed filter member) (about filter) (same filter)
      have all := ih _ _ (fun other there => among other (List.mem_cons_of_mem _ there)) one
      rw [List.append_assoc] at all
      rw [List.foldl_cons, List.filterMap_cons]
      cases picked : pick filter with
      | none => rwa [picked] at all
      | some a => rwa [picked] at all
  have none : empty.count index = 0 := by
    cases index <;> rfl
  exact step filters [] empty (fun _ there => there) ⟨numbered_empty, none, fun _ => rfl⟩

end Files

end Builder

/-- What a lookup finds are the filters that are filed under the key, as they are read by number. -/
theorem Snapshot.Contains.filterMap_lookup {s : Snapshot} {b : Builder} {metadata : Metadata}
    {source : Text} {α β : Type} {index : SubIndex} {members : List α}
    {isFiled : Text → α → Bool} {read : Nat → Option β} {indexed : α → β}
    (contains : s.Contains b metadata source) (files : b.Files index members isFiled)
    (reads : ∀ id, read id = members[id]?.map indexed) (key : Text) :
    (s.lookup index key).filterMap (fun id => read id.toNat) =
      (members.filter (isFiled key)).map indexed := by
  have looked := contains.lookup files.numbered index key
  rw [← files.filed key, ← looked, List.map_filterMap, List.filterMap_map]
  exact List.filterMap_congr fun id _ => reads id.toNat

end ContentBlocker
