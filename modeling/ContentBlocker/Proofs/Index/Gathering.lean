import ContentBlocker.Proofs.Index.Pools
/-!
# What a builder has gathered

The records of a builder stand for the filters that it has taken, one for one and in order, by
references into pools that are still growing. `Builder.gathered_ofFilters` states this of every list
of filters; `gathered_add` is the step for one more filter.
-/

namespace ContentBlocker

open Bytes

namespace Filter

/-- The filter on addresses that a filter is, if it is one. -/
def url? : Filter → Option UrlFilter
  | url filter => some filter
  | _ => none

/-- The filter on elements that a filter is, if it is one. -/
def content? : Filter → Option ContentFilter
  | content filter => some filter
  | _ => none

/-- The filter that runs calls that a filter is, if it is one. -/
def snippet? : Filter → Option SnippetFilter
  | snippet filter => some filter
  | _ => none

end Filter

/-- The record stands for the filter. -/
structure UrlRecord.Stores (texts blocks : ByteArray) (r : UrlRecord) (filter : UrlFilter) :
    Prop where
  pattern : r.pattern.LeadsTo texts filter.source
  payload : r.payload.LeadsTo texts filter.payload
  lists : filter.lists.Placed texts blocks r.lists
  contentTypes : r.contentTypes = filter.contentTypes.bits
  flags : r.flags = if filter.matchCase then 1 else 0
  party : r.party = UInt8.ofNat filter.party.number
  substitute : r.substitute = UInt8.ofNat ((filter.substitute.map Substitute.number).getD 0)

@[inherit_doc UrlRecord.Stores]
structure ContentRecord.Stores (texts blocks : ByteArray) (r : ContentRecord)
    (filter : ContentFilter) : Prop where
  selector : r.selector.LeadsTo texts filter.selector
  css : r.css.LeadsTo texts filter.css
  lists : filter.domains.lists.Placed texts blocks r.lists

/-- The record stands for the call. -/
def CallRecord.Stores (texts : ByteArray) (arguments : List StringRef) (r : CallRecord)
    (call : SnippetCall) : Prop :=
  r.command.LeadsTo texts call.command ∧
    ∃ first refs, r.firstArgument = UInt32.ofNat first ∧
      r.argumentCount = UInt32.ofNat call.arguments.length ∧
      List.Forall₂ (StringRef.LeadsTo texts) refs call.arguments ∧ InPlace arguments first refs

@[inherit_doc UrlRecord.Stores]
def SnippetRecord.Stores (texts blocks : ByteArray) (calls : List CallRecord)
    (arguments : List StringRef) (r : SnippetRecord) (filter : SnippetFilter) : Prop :=
  filter.domains.lists.Placed texts blocks r.lists ∧
    ∃ first records, r.firstCall = UInt32.ofNat first ∧
      r.callCount = UInt32.ofNat filter.calls.length ∧
      List.Forall₂ (CallRecord.Stores texts arguments) records filter.calls ∧
      InPlace calls first records

section Mono

variable {texts texts' blocks blocks' : ByteArray} {arguments : List StringRef}

theorem UrlRecord.Stores.mono {r : UrlRecord} {filter : UrlFilter}
    (h : r.Stores texts blocks filter) (more : Extends texts' texts)
    (more' : Extends blocks' blocks) : r.Stores texts' blocks' filter :=
  { h with
    pattern := h.pattern.mono more
    payload := h.payload.mono more
    lists := h.lists.mono more more' }

theorem ContentRecord.Stores.mono {r : ContentRecord} {filter : ContentFilter}
    (h : r.Stores texts blocks filter) (more : Extends texts' texts)
    (more' : Extends blocks' blocks) : r.Stores texts' blocks' filter :=
  ⟨h.selector.mono more, h.css.mono more, h.lists.mono more more'⟩

theorem CallRecord.Stores.mono {r : CallRecord} {call : SnippetCall}
    (h : r.Stores texts arguments call) (more : Extends texts' texts) (added : List StringRef) :
    r.Stores texts' (arguments ++ added) call := by
  obtain ⟨command, first, refs, place, count, leads, inPlace⟩ := h
  exact ⟨command.mono more, first, refs, place, count, leads.imp fun _ _ h => h.mono more,
    inPlace.mono added⟩

theorem SnippetRecord.Stores.mono {calls : List CallRecord} {r : SnippetRecord}
    {filter : SnippetFilter} (h : r.Stores texts blocks calls arguments filter)
    (more : Extends texts' texts) (more' : Extends blocks' blocks) (addedCalls : List CallRecord)
    (added : List StringRef) :
    r.Stores texts' blocks' (calls ++ addedCalls) (arguments ++ added) filter := by
  obtain ⟨lists, first, records, place, count, stores, inPlace⟩ := h
  exact ⟨lists.mono more more', first, records, place, count,
    stores.imp fun _ _ h => h.mono more added, inPlace.mono addedCalls⟩

end Mono

namespace Builder

/-- The builder has taken `filters` and nothing else. -/
structure Gathered (b : Builder) (filters : List Filter) : Prop where
  strings : b.strings.Sound
  lists : b.lists.Sound b.strings.bytes
  urls : List.Forall₂ (UrlRecord.Stores b.strings.bytes b.lists.bytes) b.urls.toList
    (filters.filterMap Filter.url?)
  contents : List.Forall₂ (ContentRecord.Stores b.strings.bytes b.lists.bytes) b.contents.toList
    (filters.filterMap Filter.content?)
  snippets : List.Forall₂
    (SnippetRecord.Stores b.strings.bytes b.lists.bytes b.calls.toList b.arguments.toList)
    b.snippets.toList (filters.filterMap Filter.snippet?)

theorem gathered_empty : empty.Gathered [] :=
  ⟨StringPool.sound_empty, ListPool.sound_empty _, .nil, .nil, .nil⟩

/-- A builder whose pools have grown, and to which calls and arguments were added, holds what it
held. -/
theorem Gathered.grow {b : Builder} {filters : List Filter} (h : b.Gathered filters) (b' : Builder)
    (strings : b'.strings.Sound) (lists : b'.lists.Sound b'.strings.bytes)
    (more : Extends b'.strings.bytes b.strings.bytes)
    (more' : Extends b'.lists.bytes b.lists.bytes)
    (urls : b'.urls = b.urls) (contents : b'.contents = b.contents)
    (snippets : b'.snippets = b.snippets)
    (calls : ∃ added, b'.calls.toList = b.calls.toList ++ added)
    (arguments : ∃ added, b'.arguments.toList = b.arguments.toList ++ added) :
    b'.Gathered filters := by
  obtain ⟨addedCalls, calls⟩ := calls
  obtain ⟨added, arguments⟩ := arguments
  refine ⟨strings, lists, ?_, ?_, ?_⟩
  · rw [urls]
    exact h.urls.imp fun _ _ h => h.mono more more'
  · rw [contents]
    exact h.contents.imp fun _ _ h => h.mono more more'
  · rw [snippets, calls, arguments]
    exact h.snippets.imp fun _ _ h => h.mono more more' addedCalls added

/-- One more record for one more filter. -/
theorem forall₂_push {α β : Type} {R : α → β → Prop} {records : Array α} {filters : List β} {r : α}
    {filter : β} (h : List.Forall₂ R records.toList filters) (last : R r filter) :
    List.Forall₂ R (records.push r).toList (filters ++ [filter]) := by
  rw [Array.toList_push]
  exact List.rel_append h (.cons last .nil)

theorem gathered_addUrl {b : Builder} {filters : List Filter} (h : b.Gathered filters)
    (filter : UrlFilter) : (b.addUrl filter).Gathered (filters ++ [.url filter]) := by
  obtain ⟨sound₁, more₁, pattern⟩ := StringPool.intern_spec h.strings filter.source
  obtain ⟨sound₂, more₂, payload⟩ := StringPool.intern_spec sound₁ filter.payload
  obtain ⟨soundLists, sound₃, moreLists, more₃, placed⟩ :=
    ListPool.intern_spec (h.lists.mono (more₂.trans more₁)) sound₂ filter.lists
  have grown := h.grow { b.addUrl filter with urls := b.urls } sound₃ soundLists
    (more₃.trans (more₂.trans more₁)) moreLists rfl rfl rfl ⟨[], (List.append_nil _).symm⟩
    ⟨[], (List.append_nil _).symm⟩
  obtain ⟨r, pushed, stores⟩ : ∃ r, (b.addUrl filter).urls = b.urls.push r ∧
      r.Stores (b.addUrl filter).strings.bytes (b.addUrl filter).lists.bytes filter :=
    ⟨_, rfl, (pattern.mono more₂).mono more₃, payload.mono more₃, placed, rfl, rfl, rfl, rfl⟩
  refine ⟨sound₃, soundLists, ?_, ?_, ?_⟩
  · rw [List.filterMap_append, pushed]
    exact forall₂_push grown.urls stores
  · rw [List.filterMap_append]
    exact (List.append_nil _).symm ▸ grown.contents
  · rw [List.filterMap_append]
    exact (List.append_nil _).symm ▸ grown.snippets

theorem gathered_addContent {b : Builder} {filters : List Filter} (h : b.Gathered filters)
    (filter : ContentFilter) : (b.addContent filter).Gathered (filters ++ [.content filter]) := by
  obtain ⟨sound₁, more₁, selector⟩ := StringPool.intern_spec h.strings filter.selector
  obtain ⟨sound₂, more₂, css⟩ := StringPool.intern_spec sound₁ filter.css
  obtain ⟨soundLists, sound₃, moreLists, more₃, placed⟩ :=
    ListPool.intern_spec (h.lists.mono (more₂.trans more₁)) sound₂ filter.domains.lists
  have grown := h.grow { b.addContent filter with contents := b.contents } sound₃ soundLists
    (more₃.trans (more₂.trans more₁)) moreLists rfl rfl rfl ⟨[], (List.append_nil _).symm⟩
    ⟨[], (List.append_nil _).symm⟩
  obtain ⟨r, pushed, stores⟩ : ∃ r, (b.addContent filter).contents = b.contents.push r ∧
      r.Stores (b.addContent filter).strings.bytes (b.addContent filter).lists.bytes filter :=
    ⟨_, rfl, (selector.mono more₂).mono more₃, css.mono more₃, placed⟩
  refine ⟨sound₃, soundLists, ?_, ?_, ?_⟩
  · rw [List.filterMap_append]
    exact (List.append_nil _).symm ▸ grown.urls
  · rw [List.filterMap_append, pushed]
    exact forall₂_push grown.contents stores
  · rw [List.filterMap_append]
    exact (List.append_nil _).symm ▸ grown.snippets

/-- What a builder has after taking a call: the call and its arguments behind the others. -/
theorem addCall_spec {b : Builder} {filters : List Filter} (h : b.Gathered filters)
    (call : SnippetCall) :
    (b.addCall call).Gathered filters ∧
      Extends (b.addCall call).strings.bytes b.strings.bytes ∧
      (b.addCall call).lists = b.lists ∧ (b.addCall call).snippets = b.snippets ∧
      ∃ r added, (b.addCall call).calls.toList = b.calls.toList ++ [r] ∧
        (b.addCall call).arguments.toList = b.arguments.toList ++ added ∧
        r.Stores (b.addCall call).strings.bytes (b.addCall call).arguments.toList call := by
  obtain ⟨sound₁, more₁, command⟩ := StringPool.intern_spec h.strings call.command
  obtain ⟨sound₂, more₂, arguments⟩ := StringPool.internAll_spec sound₁ call.arguments
  have behind : ∃ r added, (b.addCall call).calls.toList = b.calls.toList ++ [r] ∧
      (b.addCall call).arguments.toList = b.arguments.toList ++ added ∧
      r.Stores (b.addCall call).strings.bytes (b.addCall call).arguments.toList call := by
    refine ⟨_, _, Array.toList_push, Array.toList_appendList, command.mono more₂, b.arguments.size,
      _, rfl, rfl, arguments, ?_⟩
    rw [show (b.addCall call).arguments.toList = _ from Array.toList_appendList,
      ← Array.length_toList]
    exact InPlace.append _ _
  obtain ⟨r, added, calls, refs, stores⟩ := behind
  exact ⟨h.grow (b.addCall call) sound₂ (h.lists.mono (more₂.trans more₁)) (more₂.trans more₁)
    (.refl _) rfl rfl rfl ⟨_, calls⟩ ⟨_, refs⟩, more₂.trans more₁, rfl, rfl, r, added, calls, refs,
    stores⟩

theorem addCalls_spec {b : Builder} {filters : List Filter} (h : b.Gathered filters)
    (calls : List SnippetCall) :
    (calls.foldl addCall b).Gathered filters ∧
      Extends (calls.foldl addCall b).strings.bytes b.strings.bytes ∧
      (calls.foldl addCall b).lists = b.lists ∧ (calls.foldl addCall b).snippets = b.snippets ∧
      ∃ records added, (calls.foldl addCall b).calls.toList = b.calls.toList ++ records ∧
        (calls.foldl addCall b).arguments.toList = b.arguments.toList ++ added ∧
        List.Forall₂ (CallRecord.Stores (calls.foldl addCall b).strings.bytes
          (calls.foldl addCall b).arguments.toList) records calls := by
  induction calls generalizing b with
  | nil =>
    exact ⟨h, .refl _, rfl, rfl, [], [], (List.append_nil _).symm, (List.append_nil _).symm, .nil⟩
  | cons call rest ih =>
    obtain ⟨h₁, more, lists, snippets, r, added, calls, refs, stores⟩ := addCall_spec h call
    obtain ⟨h₂, more', lists', snippets', records, added', calls', refs', allStore⟩ := ih h₁
    rw [List.foldl_cons]
    refine ⟨h₂, more'.trans more, lists'.trans lists, snippets'.trans snippets, r :: records,
      added ++ added', ?_, ?_, .cons ?_ allStore⟩
    · rw [calls', calls, List.append_assoc, List.singleton_append]
    · rw [refs', refs, List.append_assoc]
    · rw [refs']
      exact stores.mono more' added'

theorem gathered_addSnippet {b : Builder} {filters : List Filter} (h : b.Gathered filters)
    (filter : SnippetFilter) : (b.addSnippet filter).Gathered (filters ++ [.snippet filter]) := by
  obtain ⟨soundLists, sound, moreLists, more, placed⟩ :=
    ListPool.intern_spec h.lists h.strings filter.domains.lists
  have placedLists := h.grow
    { b with
      strings := (b.lists.intern b.strings filter.domains.lists).2.2
      lists := (b.lists.intern b.strings filter.domains.lists).2.1 }
    sound soundLists more moreLists rfl rfl rfl ⟨[], (List.append_nil _).symm⟩
    ⟨[], (List.append_nil _).symm⟩
  obtain ⟨grown, more', lists, snippets, records, added, calls, -, allStore⟩ :=
    addCalls_spec placedLists filter.calls
  obtain ⟨r, pushed, stores⟩ : ∃ r, (b.addSnippet filter).snippets = b.snippets.push r ∧
      r.Stores (b.addSnippet filter).strings.bytes (b.addSnippet filter).lists.bytes
        (b.addSnippet filter).calls.toList (b.addSnippet filter).arguments.toList filter := by
    refine ⟨_, congrArg (Array.push · _) snippets, ?_, b.calls.size, records, rfl, rfl, allStore,
      ?_⟩
    · refine placed.mono more' ?_
      rw [show (b.addSnippet filter).lists = _ from lists]
      exact .refl _
    · rw [show (b.addSnippet filter).calls.toList = _ from calls, ← Array.length_toList]
      exact InPlace.append _ _
  refine ⟨grown.strings, grown.lists, ?_, ?_, ?_⟩
  · rw [List.filterMap_append]
    exact (List.append_nil _).symm ▸ grown.urls
  · rw [List.filterMap_append]
    exact (List.append_nil _).symm ▸ grown.contents
  · rw [List.filterMap_append, pushed]
    have kept := grown.snippets
    rw [snippets] at kept
    exact forall₂_push kept stores

theorem gathered_add {b : Builder} {filters : List Filter} (h : b.Gathered filters)
    (filter : Filter) : (b.add filter).Gathered (filters ++ [filter]) := by
  cases filter with
  | url filter => exact gathered_addUrl h filter
  | content filter => exact gathered_addContent h filter
  | snippet filter => exact gathered_addSnippet h filter

/-- A builder has a record for each filter that it has taken. -/
theorem gathered_ofFilters (filters : List Filter) : (ofFilters filters).Gathered filters := by
  have step : ∀ (rest taken : List Filter) (b : Builder), b.Gathered taken →
      (rest.foldl add b).Gathered (taken ++ rest) := by
    intro rest
    induction rest with
    | nil =>
      intro taken b h
      rwa [List.append_nil]
    | cons filter rest ih =>
      intro taken b h
      have := ih _ _ (gathered_add h filter)
      rwa [List.append_assoc, List.singleton_append] at this
  exact step filters [] empty gathered_empty

end Builder

end ContentBlocker
