import ContentBlocker.Proofs.Filter.Parsed
/-!
# What privilege changes

An unprivileged list reads from a line what a privileged one does, unless that could act on
documents in a dangerous way: a script, a removal, declarations of style, or a condition on headers.
From such a line it reads nothing. The three ways of reading a line are treated one by one, and each
is shown to lose just these filters.
-/

namespace ContentBlocker

section ToOption

variable {α β ε ε' : Type}

theorem toOption_map (f : α → β) (x : Except ε α) : (x.map f).toOption = x.toOption.map f := by
  cases x <;> rfl

theorem toOption_mapError (f : ε → ε') (x : Except ε α) : (x.mapError f).toOption = x.toOption := by
  cases x <;> rfl

/-- Whether a test holds can be asked before or after a result is wrapped. -/
theorem toOption_map_filter {f : α → β} {p : α → Bool} {q : β → Bool} {x y : Except ε α}
    (same : ∀ a, q (f a) = p a) (h : x.toOption = y.toOption.filter p) :
    (x.map f).toOption = (y.map f).toOption.filter q := by
  rw [toOption_map, toOption_map, h]
  cases y with
  | error fault => rfl
  | ok a => by_cases holds : p a <;> simp [Except.toOption, Option.filter, same, holds]

end ToOption

/-- Whether only a privileged list may hold a filter on addresses: if it looks at headers. -/
def UrlFilter.needsPrivilege (filter : UrlFilter) : Bool := filter.header.isSome

/-- Whether only a privileged list may hold a filter on elements: if it removes or styles them. -/
def ContentFilter.needsPrivilege (filter : ContentFilter) : Bool :=
  filter.kind = .remove ∨ filter.kind = .inlineCss

/-- Whether only a privileged list may hold a filter. All filters that run calls are such. -/
def Filter.needsPrivilege : Filter → Bool
  | url filter => filter.needsPrivilege
  | content filter => filter.needsPrivilege
  | snippet _ => true

namespace UrlFilter

variable [RegexEngine]

/-- The guard against conditions on headers stands among others; where it lets a filter pass, they
decide the same with and without privilege. -/
theorem toOption_ofParts (category : Category) (text : Text) (hasOptions : Bool)
    (options : Options) :
    (ofParts false category text hasOptions options).toOption =
      (ofParts true category text hasOptions options).toOption.filter
        fun filter => !filter.needsPrivilege := by
  have kept : ∀ filter, ofParts true category text hasOptions options = .ok filter →
      filter.needsPrivilege = options.header.isSome := by
    intro filter made
    rw [of_ofParts_eq_ok made]
    rfl
  by_cases header : options.header.isSome
  · have refused : ∀ filter, ofParts false category text hasOptions options ≠ .ok filter := by
      intro filter made
      unfold ofParts at made
      dsimp only at made
      -- the guards in front of the one on headers end in an error, too
      iterate 3 (split at made; · cases made)
      rw [if_pos ⟨header, rfl⟩] at made
      cases made
    cases withheld : ofParts false category text hasOptions options with
    | ok filter => exact absurd withheld (refused filter)
    | error fault =>
      cases made : ofParts true category text hasOptions options with
      | error fault => rfl
      | ok filter => simp [Except.toOption, Option.filter, kept filter made, header]
  · have same : ofParts false category text hasOptions options =
        ofParts true category text hasOptions options := by
      unfold ofParts
      simp [header]
    rw [same]
    cases made : ofParts true category text hasOptions options with
    | error fault => rfl
    | ok filter => simp [Except.toOption, Option.filter, kept filter made, header]

theorem toOption_parse (line : Text) :
    (parse false line).toOption =
      (parse true line).toOption.filter fun filter => !filter.needsPrivilege := by
  unfold parse
  dsimp only
  rcases splitOptions (splitCategory line).2 with ⟨pattern, _ | options⟩
  · exact toOption_ofParts _ pattern false .absent
  · dsimp only
    cases Options.parse options with
    | error fault => rfl
    | ok options => exact toOption_ofParts _ pattern true options

end UrlFilter

theorem ContentFilter.toOption_ofSelector {kind : ContentKind} (domains : DomainSet)
    (selector : Text) (plain : kind = .hide ∨ kind = .hideException) :
    (ofSelector kind domains selector).toOption =
      (ofSelector kind domains selector).toOption.filter
        fun filter => !filter.needsPrivilege := by
  unfold ofSelector
  split
  · rfl
  · rcases plain with rfl | rfl <;> rfl

/-- A block of declarations needs privilege, and so does nothing else. -/
theorem ContentFilter.toOption_ofEmulation (domains : DomainSet) (body : Text) :
    (ofEmulation false domains body).toOption =
      (ofEmulation true domains body).toOption.filter fun filter => !filter.needsPrivilege := by
  unfold ofEmulation
  cases Text.dropLast? '\x7d' body with
  | none => rfl
  | some block =>
    dsimp only
    cases Text.splitLast? '\x7b' block with
    | none => rfl
    | some parts =>
      by_cases blank : parts.1.trim = []
      · simp [blank, Except.toOption]
      · by_cases removes : ContentFilter.removes parts.2.trim <;>
          simp [blank, removes, Except.toOption, Option.filter, needsPrivilege]

theorem SnippetFilter.toOption_ofScript (domains : DomainSet) (script : Text) :
    (ofScript false domains script).toOption =
      (ofScript true domains script).toOption.filter fun _ => false := by
  have refused : ofScript false domains script = .error .snippetNotAllowed := by
    simp [ofScript]
  rw [refused]
  cases ofScript true domains script <;> rfl

namespace Filter

theorem toOption_ofSeparated (before : Text) (separator : Separator) (after : Text) :
    (ofSeparated false before separator after).toOption =
      (ofSeparated true before separator after).toOption.filter
        fun filter => !filter.needsPrivilege := by
  unfold ofSeparated
  dsimp only
  split
  · rfl
  · split
    · rfl
    · cases separator with
      | hide =>
        exact toOption_map_filter (fun _ => rfl)
          (ContentFilter.toOption_ofSelector _ _ (.inl rfl))
      | hideException =>
        exact toOption_map_filter (fun _ => rfl)
          (ContentFilter.toOption_ofSelector _ _ (.inr rfl))
      | emulation =>
        exact toOption_map_filter (fun _ => rfl) (ContentFilter.toOption_ofEmulation _ _)
      | snippet =>
        exact toOption_map_filter (fun _ => rfl) (SnippetFilter.toOption_ofScript _ _)

/-- Without privilege a line holds the filter that it holds with privilege, if that filter does not
need it, and no filter otherwise. -/
theorem toOption_parse [RegexEngine] (line : Text) :
    (parse false line).toOption =
      (parse true line).toOption.filter fun filter => !filter.needsPrivilege := by
  unfold parse
  dsimp only
  split
  · rfl
  · split
    · rfl
    · rcases Separator.find? line.trim with _ | ⟨before, separator, after⟩
      · rw [toOption_mapError, toOption_mapError]
        exact toOption_map_filter (fun _ => rfl) (UrlFilter.toOption_parse _)
      · rw [toOption_mapError, toOption_mapError]
        exact toOption_ofSeparated before separator after

/-- What an unprivileged list reads needs no privilege. -/
theorem needsPrivilege_of_parse_false [RegexEngine] {line : Text} {filter : Filter}
    (read : parse false line = .ok filter) : filter.needsPrivilege = false := by
  have same := (toOption_parse line).symm
  rw [read] at same
  have kept := (Option.filter_eq_some_iff.1 same).2
  simpa using kept

end Filter

end ContentBlocker
