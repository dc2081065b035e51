import ContentBlocker.Filter.Line
/-!
# What reading a line guarantees

A filter that was read from a line names only known content types, repeats neither special types nor
domains, and names no empty domain. Compiling an index relies on this.
-/

namespace ContentBlocker

theorem foldlM_invariant {α β ε : Type} {P : β → Prop} {f : β → α → Except ε β}
    (step : ∀ b a b', P b → f b a = .ok b' → P b') {as : List α} {b b' : β} (start : P b)
    (h : as.foldlM f b = .ok b') : P b' := by
  induction as generalizing b with
  | nil =>
    cases h
    exact start
  | cons a rest ih =>
    rw [List.foldlM_cons] at h
    cases first : f b a with
    | error e =>
      rw [first] at h
      cases h
    | ok next =>
      rw [first] at h
      exact ih (step b a next start first) h

theorem mem_of_lookup_eq_some {α β : Type} [BEq α] [LawfulBEq α] {entries : List (α × β)} {a : α}
    {b : β} (found : entries.lookup a = some b) : (a, b) ∈ entries := by
  obtain ⟨before, after, split, -⟩ := List.lookup_eq_some_iff.1 found
  rw [split]
  exact List.mem_append_right before List.mem_cons_self

theorem of_map_eq_ok {α β ε : Type} {f : α → β} {x : Except ε α} {b : β}
    (h : x.map f = .ok b) : ∃ a, x = .ok a ∧ f a = b := by
  cases x with
  | error e => cases h
  | ok a => exact ⟨a, rfl, Except.ok.inj h⟩

theorem of_mapError_eq_ok {α ε ε' : Type} {f : ε → ε'} {x : Except ε α} {a : α}
    (h : x.mapError f = .ok a) : x = .ok a := by
  cases x with
  | error e => cases h
  | ok b => exact congrArg _ (Except.ok.inj h)

/-- A list of texts that is in order, without repetition. -/
abbrev InOrder (texts : List Text) : Prop := texts.Pairwise (· < ·)

theorem InOrder.nodup {texts : List Text} (h : InOrder texts) : texts.Nodup := by
  refine h.imp ?_
  rintro a _ less rfl
  exact List.lt_irrefl a less

theorem inOrder_insertOrdered {t : Text} {texts : List Text} (h : InOrder texts) :
    InOrder (insertOrdered t texts) := by
  induction texts with
  | nil => exact List.pairwise_singleton _ t
  | cons first rest ih =>
    obtain ⟨before, ordered⟩ := List.pairwise_cons.1 h
    rw [insertOrdered]
    split
    · rename_i less
      refine List.pairwise_cons.2 ⟨fun other there => ?_, h⟩
      rcases List.mem_cons.1 there with rfl | there
      · exact less
      · exact List.lt_trans less (before other there)
    · split
      · exact h
      · rename_i notLess different
        refine List.pairwise_cons.2 ⟨fun other there => ?_, ih ordered⟩
        rcases mem_insertOrdered.1 there with rfl | there
        · exact Std.lt_of_le_of_ne (Std.not_lt.1 notLess) (Ne.symm different)
        · exact before other there

theorem inOrder_orderedSet (texts : List Text) : InOrder (orderedSet texts) := by
  induction texts with
  | nil => exact .nil
  | cons t rest ih => exact inOrder_insertOrdered ih

namespace DomainSet

/-- Both lists are in order, without repetition and without an empty name. -/
structure WellFormed (domains : DomainSet) : Prop where
  included : InOrder domains.included
  excluded : InOrder domains.excluded
  named : ∀ name, name ∈ domains.included ∨ name ∈ domains.excluded → name ≠ []

theorem wellFormed_empty : empty.WellFormed := ⟨.nil, .nil, by simp [empty]⟩

theorem wellFormed_ofEntries (entries : List Text) : (ofEntries entries).WellFormed where
  included := inOrder_orderedSet _
  excluded := inOrder_orderedSet _
  named := by
    intro name there
    simp only [ofEntries, mem_orderedSet, List.mem_map, List.mem_filter, decide_eq_true_eq] at there
    obtain ⟨entry, ⟨⟨-, named⟩, -⟩, rfl⟩ | ⟨entry, ⟨⟨-, named⟩, -⟩, rfl⟩ := there
    · exact named
    · exact named

theorem WellFormed.sites {domains : DomainSet} (h : domains.WellFormed) :
    domains.sites.WellFormed where
  included := h.included.filter _
  excluded := h.excluded.filter _
  named := by
    intro name there
    exact h.named name (there.imp (fun there => (List.mem_filter.1 there).1)
      fun there => (List.mem_filter.1 there).1)

end DomainSet

namespace ContentTypes

/-- All kinds of the set have a name. -/
def Known (types : ContentTypes) : Prop := types.bits &&& all.bits = types.bits

instance (types : ContentTypes) : Decidable types.Known := inferInstanceAs (Decidable (_ = _))

theorem Known.ofBits {types : ContentTypes} (h : types.Known) : ofBits types.bits = types :=
  congrArg mk h

/-- What two sets have in common with a third one. -/
theorem inter_union (a b c : ContentTypes) :
    (a.union b).inter c = (a.inter c).union (b.inter c) := by
  have distributes : (a.bits ||| b.bits) &&& c.bits =
      (a.bits &&& c.bits) ||| (b.bits &&& c.bits) := by
    apply UInt32.toBitVec_inj.1
    apply BitVec.eq_of_getLsbD_eq
    intro i _
    simp only [UInt32.toBitVec_and, UInt32.toBitVec_or, BitVec.getLsbD_and, BitVec.getLsbD_or,
      Bool.and_or_distrib_right]
  exact congrArg mk distributes

theorem known_union {a b : ContentTypes} (ha : a.Known) (hb : b.Known) : (a.union b).Known := by
  have common := congrArg bits (inter_union a b all)
  rw [Known]
  exact common.trans (by rw [union, inter, inter, ha, hb]; rfl)

theorem known_without {a : ContentTypes} (ha : a.Known) (b : ContentTypes) :
    (a.without b).Known := by
  rw [Known, without, UInt32.and_assoc, UInt32.and_comm (~~~b.bits), ← UInt32.and_assoc, ha]

theorem known_of_ofName? {name : Text} {types : ContentTypes} (h : ofName? name = some types) :
    types.Known := by
  have all : ∀ entry ∈ named, entry.2.bits &&& all.bits = entry.2.bits := by decide
  exact all (name, types) (mem_of_lookup_eq_some h)

end ContentTypes

namespace Options

/-- What options may say. -/
structure WellFormed (options : Options) : Prop where
  types : options.types.Known
  domains : options.domains.WellFormed
  specialTypes : options.specialTypes.Nodup

theorem wellFormed_absent : absent.WellFormed :=
  ⟨by decide, DomainSet.wellFormed_empty, .nil⟩

theorem WellFormed.contentTypes {options : Options} (h : options.WellFormed) :
    options.contentTypes.Known := by
  rw [Options.contentTypes]
  split
  · exact (by decide : ContentTypes.all.Known)
  · exact h.types

theorem WellFormed.setNamed {options options' : Options} (h : options.WellFormed) {name : Name}
    {entry : Entry} (set : options.setNamed name entry = .ok options') : options'.WellFormed := by
  cases name with
  | matchCase | popup | thirdParty | header =>
    cases set
    exact ⟨h.types, h.domains, h.specialTypes⟩
  | substitute | sitekey | csp =>
    simp only [Options.setNamed] at set
    split at set
    all_goals
      cases set
      try exact ⟨h.types, h.domains, h.specialTypes⟩
  | domain =>
    simp only [Options.setNamed] at set
    split at set
    · cases set
    · cases set
      exact ⟨h.types, DomainSet.wellFormed_ofEntries _, h.specialTypes⟩

theorem WellFormed.add {options options' : Options} (h : options.WellFormed) {entry : Entry}
    (added : options.add entry = .ok options') : options'.WellFormed := by
  rw [Options.add] at added
  split at added
  · exact h.setNamed added
  · split at added
    · rename_i types named
      have known := ContentTypes.known_of_ofName? named
      cases added
      split
      · refine ⟨?_, h.domains, h.specialTypes⟩
        rw [removeType]
        dsimp only
        split
        · exact ContentTypes.known_without (by decide) types
        · exact ContentTypes.known_without h.types types
      · exact ⟨ContentTypes.known_union h.types known, h.domains, h.specialTypes⟩
    · split at added
      · rename_i special _
        cases added
        rw [addSpecial]
        split
        · exact h
        · rename_i new
          rw [List.contains_iff_mem] at new
          refine ⟨h.types, h.domains, ?_⟩
          exact List.nodup_append.2 ⟨h.specialTypes, List.nodup_cons.2 ⟨List.not_mem_nil, .nil⟩, by
            rintro a there b same rfl
            exact new (List.mem_singleton.1 same ▸ there)⟩
      · cases added

theorem wellFormed_of_read {entries : List Entry} {options : Options}
    (read : entries.foldlM Options.add .absent = .ok options) : options.WellFormed :=
  foldlM_invariant (fun _ _ _ wellFormed added => wellFormed.add added) wellFormed_absent read

theorem wellFormed_parse {text : Text} {options : Options} (h : parse text = .ok options) :
    options.WellFormed :=
  wellFormed_of_read h

end Options

/-- What reading guarantees of a filter on addresses. -/
structure UrlFilter.WellFormed (filter : UrlFilter) : Prop where
  contentTypes : filter.contentTypes.Known
  domains : filter.domains.WellFormed
  specialTypes : filter.specialTypes.Nodup

namespace UrlFilter

variable [RegexEngine]

/-- What a filter is made of, if a pattern and options make one. -/
theorem of_ofParts_eq_ok {privileged : Bool} {category : Category} {text : Text}
    {hasOptions : Bool} {options : Options} {filter : UrlFilter}
    (h : ofParts privileged category text hasOptions options = .ok filter) :
    filter =
      { category
        pattern := normalizePattern options.matchCase text
        matchCase := options.matchCase
        contentTypes := options.contentTypes
        party := options.party
        domains := options.domains
        sitekeys := options.sitekeys
        popup := options.popup
        subresource := options.subresource
        csp := options.csp
        header := options.header
        substitute := options.substitute
        specialTypes := options.specialTypes } := by
  rw [ofParts] at h
  -- each guard that refuses the filter ends in an error
  iterate 9 (split at h; · cases h)
  exact (Except.ok.inj h).symm

/-- A line that holds a filter cuts into a category, a pattern, and options that can be read. -/
theorem of_parse_eq_ok {privileged : Bool} {line : Text} {filter : UrlFilter}
    (h : parse privileged line = .ok filter) :
    ∃ hasOptions options, (options = .absent ∨ ∃ text, Options.parse text = .ok options) ∧
      ofParts privileged (splitCategory line).1 (splitOptions (splitCategory line).2).1 hasOptions
        options = .ok filter := by
  rw [parse] at h
  dsimp only at h
  split at h
  · rename_i split
    rw [split]
    exact ⟨false, .absent, .inl rfl, h⟩
  · rename_i text split
    rw [split]
    split at h
    · rename_i options read
      exact ⟨true, options, .inr ⟨text, read⟩, h⟩
    · cases h

theorem wellFormed_parse {privileged : Bool} {line : Text} {filter : UrlFilter}
    (h : parse privileged line = .ok filter) : filter.WellFormed := by
  obtain ⟨hasOptions, options, read, made⟩ := of_parse_eq_ok h
  have wellFormed : options.WellFormed := by
    rcases read with rfl | ⟨text, read⟩
    · exact Options.wellFormed_absent
    · exact Options.wellFormed_parse read
  obtain rfl := of_ofParts_eq_ok made
  exact ⟨wellFormed.contentTypes, wellFormed.domains, wellFormed.specialTypes⟩

end UrlFilter

theorem ContentFilter.domains_ofSelector {kind : ContentKind} {domains : DomainSet}
    {selector : Text} {filter : ContentFilter} (h : ofSelector kind domains selector = .ok filter) :
    filter.domains = domains := by
  rw [ofSelector] at h
  split at h <;> cases h
  rfl

theorem ContentFilter.domains_ofEmulation {privileged : Bool} {domains : DomainSet} {body : Text}
    {filter : ContentFilter} (h : ofEmulation privileged domains body = .ok filter) :
    filter.domains = domains := by
  rw [ofEmulation] at h
  split at h
  · cases h
    rfl
  · split at h
    · cases h
    · dsimp only at h
      repeat' split at h
      all_goals
        cases h
        try rfl

theorem SnippetFilter.domains_ofScript {privileged : Bool} {domains : DomainSet} {script : Text}
    {filter : SnippetFilter} (h : ofScript privileged domains script = .ok filter) :
    filter.domains = domains := by
  rw [ofScript] at h
  split at h
  · cases h
  · dsimp only at h
    split at h <;> cases h
    rfl

theorem SnippetFilter.calls_ofScript {privileged : Bool} {domains : DomainSet} {script : Text}
    {filter : SnippetFilter} (made : ofScript privileged domains script = .ok filter) :
    filter.calls ≠ [] := by
  unfold ofScript at made
  split at made
  · cases made
  · dsimp only at made
    split at made
    · cases made
    · cases made
      assumption

namespace Filter

/-- What reading guarantees of a filter. -/
def WellFormed : Filter → Prop
  | url filter => filter.WellFormed
  | content filter => filter.domains.WellFormed
  | snippet filter => filter.domains.WellFormed

theorem wellFormed_domainsBefore (separator : Separator) (before : Text) :
    (domainsBefore separator before).WellFormed := by
  rw [domainsBefore]
  split
  · exact (DomainSet.wellFormed_ofEntries _).sites
  · exact DomainSet.wellFormed_ofEntries _

/-- What a separator makes of the domains in front of it and of the text behind it. -/
inductive Separated (privileged : Bool) (domains : DomainSet) (body : Text) :
    Separator → Filter → Prop
  | hide {made : ContentFilter}
    (selected : ContentFilter.ofSelector .hide domains body = .ok made) :
    Separated privileged domains body .hide (.content made)
  | hideException {made : ContentFilter}
    (selected : ContentFilter.ofSelector .hideException domains body = .ok made) :
    Separated privileged domains body .hideException (.content made)
  | emulation {made : ContentFilter} (named : domains.included ≠ [])
    (emulated : ContentFilter.ofEmulation privileged domains body = .ok made) :
    Separated privileged domains body .emulation (.content made)
  | snippet {made : SnippetFilter} (named : domains.included ≠ [])
    (scripted : SnippetFilter.ofScript privileged domains body = .ok made) :
    Separated privileged domains body .snippet (.snippet made)

theorem separated_of_ofSeparated {privileged : Bool} {before : Text} {separator : Separator}
    {after : Text} {filter : Filter}
    (h : ofSeparated privileged before separator after = .ok filter) :
    Separated privileged (domainsBefore separator before) after.trim separator filter := by
  unfold ofSeparated at h
  dsimp only at h
  split at h
  · cases h
  split at h
  · cases h
  rename_i named
  split at h
  · obtain ⟨made, selected, rfl⟩ := of_map_eq_ok h
    exact .hide selected
  · obtain ⟨made, selected, rfl⟩ := of_map_eq_ok h
    exact .hideException selected
  · obtain ⟨made, emulated, rfl⟩ := of_map_eq_ok h
    exact .emulation (fun none => named ⟨rfl, none⟩) emulated
  · obtain ⟨made, scripted, rfl⟩ := of_map_eq_ok h
    exact .snippet (fun none => named ⟨rfl, none⟩) scripted

theorem Separated.wellFormed {privileged : Bool} {domains : DomainSet} {body : Text}
    {separator : Separator} {filter : Filter} (ordered : domains.WellFormed)
    (made : Separated privileged domains body separator filter) : filter.WellFormed := by
  cases made with
  | hide selected | hideException selected =>
    rw [← ContentFilter.domains_ofSelector selected] at ordered
    exact ordered
  | emulation _ emulated =>
    rw [← ContentFilter.domains_ofEmulation emulated] at ordered
    exact ordered
  | snippet _ scripted =>
    rw [← SnippetFilter.domains_ofScript scripted] at ordered
    exact ordered

section

variable [RegexEngine]

/-- A line that holds a filter has a separator, or is read as a filter on addresses. -/
theorem cases_of_parse {privileged : Bool} {line : Text} {filter : Filter}
    (h : parse privileged line = .ok filter) :
    (∃ before separator after, Separator.find? line.trim = some (before, separator, after) ∧
        Separated privileged (domainsBefore separator before) after.trim separator filter) ∨
      Separator.find? line.trim = none ∧
        ∃ made, UrlFilter.parse privileged line.trim = .ok made ∧ filter = .url made := by
  unfold parse at h
  dsimp only at h
  split at h
  · cases h
  split at h
  · cases h
  split at h
  · rename_i before separator after found
    exact .inl ⟨before, separator, after, found, separated_of_ofSeparated (of_mapError_eq_ok h)⟩
  · rename_i found
    obtain ⟨made, read, rfl⟩ := of_map_eq_ok (of_mapError_eq_ok h)
    exact .inr ⟨found, made, read, rfl⟩

/-- Whatever is read from a line is well formed. -/
theorem wellFormed_parse {privileged : Bool} {line : Text} {filter : Filter}
    (h : parse privileged line = .ok filter) : filter.WellFormed := by
  rcases cases_of_parse h with ⟨before, separator, after, -, made⟩ | ⟨-, made, read, rfl⟩
  · exact made.wellFormed (wellFormed_domainsBefore separator before)
  · exact UrlFilter.wellFormed_parse read

/-- The filters that lines hold; a line without a filter is passed over. -/
def ofLines (privileged : Bool) (lines : List Text) : List Filter :=
  lines.filterMap fun line => (parse privileged line).toOption

theorem ofLines_append (privileged : Bool) (lines lines' : List Text) :
    ofLines privileged (lines ++ lines') = ofLines privileged lines ++ ofLines privileged lines' :=
  List.filterMap_append

theorem ofLines_cons (privileged : Bool) (line : Text) (lines : List Text) :
    ofLines privileged (line :: lines) = ofLines privileged [line] ++ ofLines privileged lines :=
  ofLines_append privileged [line] lines

theorem ofLines_of_error {privileged : Bool} {line : Text} {fault : LineFault}
    (refused : parse privileged line = .error fault) : ofLines privileged [line] = [] := by
  rw [ofLines, List.filterMap_cons, refused]
  rfl

theorem mem_ofLines {privileged : Bool} {lines : List Text} {filter : Filter} :
    filter ∈ ofLines privileged lines ↔ ∃ line ∈ lines, parse privileged line = .ok filter := by
  rw [ofLines, List.mem_filterMap]
  refine exists_congr fun line => and_congr_right fun _ => ?_
  cases parse privileged line with
  | error fault => simp [Except.toOption]
  | ok read => simp [Except.toOption]

theorem parsed_ofLines (privileged : Bool) (lines : List Text) :
    ∀ filter ∈ ofLines privileged lines, ∃ privileged line, parse privileged line = .ok filter := by
  intro filter member
  obtain ⟨line, -, read⟩ := mem_ofLines.1 member
  exact ⟨privileged, line, read⟩

theorem wellFormed_of_parsed {filters : List Filter}
    (parsed : ∀ filter ∈ filters, ∃ privileged line, parse privileged line = .ok filter) :
    ∀ filter ∈ filters, filter.WellFormed := by
  intro filter member
  obtain ⟨privileged, line, read⟩ := parsed filter member
  exact wellFormed_parse read

theorem wellFormed_ofLines (privileged : Bool) (lines : List Text) :
    ∀ filter ∈ ofLines privileged lines, filter.WellFormed :=
  wellFormed_of_parsed (parsed_ofLines privileged lines)

end

end Filter

end ContentBlocker
