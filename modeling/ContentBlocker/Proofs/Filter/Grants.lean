import ContentBlocker.Proofs.Filter.Entries
import ContentBlocker.Proofs.Filter.Options
import ContentBlocker.Proofs.Filter.Patterns
import ContentBlocker.Proofs.Index.Purposes
import Mathlib.Data.List.Induction
/-!
# What options grant

The option about new windows and those about special types grant by being named. No option takes a
grant back, and whether the option stands behind a `~` makes no difference: a filter has exactly the
grants that its options name, and is posted for them unless an option names headers.
-/

namespace ContentBlocker

/-- Of a mark that steps put on and never take off, a run puts on what one of its steps does. -/
theorem foldlM_marks {α β ε : Type} {f : β → α → Except ε β} (marked : β → Prop) (marks : α → Prop)
    (step : ∀ b a b', f b a = .ok b' → (marked b' ↔ marked b ∨ marks a)) {as : List α} {b b' : β}
    (run : as.foldlM f b = .ok b') : marked b' ↔ marked b ∨ ∃ a ∈ as, marks a := by
  rw [foldlM_field marked (g := fun c a => c ∨ marks a) (fun b a b' h => propext (step b a b' h))
    run]
  clear run
  induction as using List.reverseRec with
  | nil => simp
  | append_singleton as a ih => simp [ih, or_assoc, or_and_right, exists_or]

/-- What an option can grant. -/
inductive Grant where
  | popup
  | special (type : SpecialType)
  deriving DecidableEq, Repr

namespace Grant

/-- The name of the option that grants it. -/
def name : Grant → Text
  | popup => "popup"
  | special type => type.name.toList

/-- The sub-index of the filters of a category that have it. -/
def index (category : Category) : Grant → SubIndex
  | popup => .url .popup category
  | special type => .special type

end Grant

theorem SpecialType.ofName?_eq_some {name : Text} {type : SpecialType} :
    ofName? name = some type ↔ name = type.name.toList := by
  constructor
  · intro known
    have same := List.find?_some known
    simpa [eq_comm] using same
  · rintro rfl
    cases type <;> rfl

namespace Options

/-- What options grant. -/
def Grants (options : Options) : Grant → Prop
  | .popup => options.popup = true
  | .special type => type ∈ options.specialTypes

/-- What an option does to the grants and to the condition on headers. -/
structure Marks (entry : Entry) (options options' : Options) : Prop where
  grants : ∀ grant, options'.Grants grant ↔ options.Grants grant ∨ entry.name = grant.name
  header : options'.header.isSome ↔ options.header.isSome ∨ entry.name = ("header" : Text)

variable {options options' : Options} {entry : Entry}

/-- The names of the other options are told apart from those of special types by their spelling. -/
theorem marks_of_setNamed {name : Name} (known : named.lookup entry.name = some name)
    (set : options.setNamed name entry = .ok options') : Marks entry options options' := by
  have spelled : ∀ spelling ∈ named, SpecialType.ofName? spelling.1 = none ∧
      (spelling.1 = ("popup" : Text) ↔ spelling.2 = .popup) ∧
      (spelling.1 = ("header" : Text) ↔ spelling.2 = .header) := by decide
  obtain ⟨noSpecial, isPopup, isHeader⟩ := spelled _ (mem_of_lookup_eq_some known)
  obtain ⟨specials, popup, header⟩ : options'.specialTypes = options.specialTypes ∧
      (options'.popup = true ↔ options.popup = true ∨ name = .popup) ∧
      (options'.header.isSome ↔ options.header.isSome ∨ name = .header) := by
    cases name with
    | matchCase | popup | thirdParty | header =>
      cases set
      simp
    | substitute | csp | domain | sitekey =>
      simp only [setNamed] at set
      split at set <;> cases set
      simp
  constructor
  · intro grant
    cases grant with
    | popup => exact popup.trans (or_congr_right isPopup.symm)
    | special type =>
      rw [Grants, Grants, specials, Grant.name, ← SpecialType.ofName?_eq_some, noSpecial]
      simp
  · exact header.trans (or_congr_right isHeader.symm)

theorem mem_addSpecial {special type : SpecialType} :
    type ∈ (options.addSpecial special).specialTypes ↔
      type ∈ options.specialTypes ∨ special = type := by
  rw [addSpecial]
  split
  · rename_i present
    rw [iff_self_or]
    rintro rfl
    simpa using present
  · simp [eq_comm]

theorem marks_of_add (added : options.add entry = .ok options') : Marks entry options options' := by
  obtain ⟨name, known, set⟩ | ⟨unnamed, other⟩ := add_cases added
  · exact marks_of_setNamed known set
  have notPopup : entry.name ≠ ("popup" : Text) := ne_of_unnamed unnamed rfl
  have notHeader : entry.name ≠ ("header" : Text) := ne_of_unnamed unnamed rfl
  obtain ⟨popup, header⟩ : options'.popup = options.popup ∧ options'.header = options.header := by
    obtain ⟨types, -, rfl⟩ | ⟨-, special, -, rfl⟩ := other
    · split <;> exact ⟨rfl, rfl⟩
    · rw [addSpecial]
      split <;> exact ⟨rfl, rfl⟩
  have specials : ∀ type, type ∈ options'.specialTypes ↔
      type ∈ options.specialTypes ∨ SpecialType.ofName? entry.name = some type := by
    intro type
    obtain ⟨types, isType, rfl⟩ | ⟨-, special, isSpecial, rfl⟩ := other
    · have notSpecial : SpecialType.ofName? entry.name ≠ some type := by
        intro isSpecial
        rw [SpecialType.ofName?_eq_some.1 isSpecial] at isType
        cases type <;> cases isType
      split <;> exact (or_iff_left notSpecial).symm
    · rw [mem_addSpecial, isSpecial, Option.some_inj]
  constructor
  · intro grant
    cases grant with
    | popup =>
      rw [Grants, Grants, popup]
      exact (or_iff_left notPopup).symm
    | special type => rw [Grants, Grants, specials, SpecialType.ofName?_eq_some, Grant.name]
  · rw [header, or_iff_left notHeader]

/-- Options that were read grant what they name. -/
theorem grants_of_read {entries : List Entry} (read : entries.foldlM add .absent = .ok options)
    (grant : Grant) : options.Grants grant ↔ ∃ entry ∈ entries, entry.name = grant.name := by
  have step : ∀ options entry options', add options entry = .ok options' →
      (options'.Grants grant ↔ options.Grants grant ∨ entry.name = grant.name) := by
    intro options entry options' added
    exact (marks_of_add added).grants grant
  have none : ¬ absent.Grants grant := by
    cases grant <;> simp [Grants, absent]
  rw [foldlM_marks (fun options => options.Grants grant) _ step read, or_iff_right none]

/-- Options that were read have a condition on headers if they name one. -/
theorem header_of_read {entries : List Entry} (read : entries.foldlM add .absent = .ok options) :
    options.header.isSome ↔ ∃ entry ∈ entries, entry.name = ("header" : Text) := by
  have step : ∀ options entry options', add options entry = .ok options' →
      (options'.header.isSome ↔ options.header.isSome ∨ entry.name = ("header" : Text)) := by
    intro options entry options' added
    exact (marks_of_add added).header
  have none : ¬ absent.header.isSome := by simp [absent]
  rw [foldlM_marks (fun options => options.header.isSome) _ step read, or_iff_right none]

end Options

namespace UrlFilter

/-- A filter is posted for a grant that it has, if it has no condition on headers. -/
theorem posted_iff {filter : UrlFilter} {grant : Grant} {id : Nat} :
    (∃ posting ∈ filter.postings id, posting.index = grant.index filter.category) ↔
      filter.Serves (grant.index filter.category) ∧ ¬ filter.header.isSome := by
  have notHeader : grant.index filter.category ≠ .url .header filter.category := by
    cases grant <;> simp [Grant.index]
  have listed : grant.index filter.category ∈ filter.subIndexes ↔ _ := mem_subIndexes_iff
  rw [or_iff_left notHeader] at listed
  rw [Option.not_isSome_iff_eq_none, ← listed]
  simp [postings]

/-- A filter that was read from a line has the grants that the options of the line name. It is
posted for them if no option names headers. -/
theorem grants_iff [RegexEngine] {privileged : Bool} {line : Text} {filter : UrlFilter}
    (read : Filter.parse privileged line = .ok (.url filter)) (grant : Grant) :
    (filter.Serves (grant.index filter.category) ↔
        ∃ entry ∈ entriesOf line, entry.name = grant.name) ∧
      ∀ id, (∃ posting ∈ filter.postings id, posting.index = grant.index filter.category) ↔
        (∃ entry ∈ entriesOf line, entry.name = grant.name) ∧
          ∀ entry ∈ entriesOf line, entry.name ≠ ("header" : Text) := by
  obtain ⟨hasOptions, options, folded, made⟩ := made_of_parse read
  have parts := of_ofParts_eq_ok made
  have serves : filter.Serves (grant.index filter.category) ↔ options.Grants grant := by
    rw [parts]
    cases grant <;> simp [Serves, Grant.index, Options.Grants]
  have header : filter.header.isSome ↔ options.header.isSome := by rw [parts]
  constructor
  · rw [serves, Options.grants_of_read folded]
  · intro id
    rw [posted_iff, serves, header, Options.grants_of_read folded, Options.header_of_read folded]
    simp

theorem grants_iff_special_type :
    let filter := { plain .allowing "||shop.example^" with
      party := .firstParty, subresource := false, specialTypes := [.document] }
    Filter.parse false "@@||shop.example^$document,~third-party" = .ok (.url filter) ∧
      (∃ posting ∈ filter.postings 0, posting.index = .special .document) ∧
        ¬ filter.Serves (.url .popup .allowing) := by
  intro filter
  have read : Filter.parse false "@@||shop.example^$document,~third-party" = .ok (.url filter) := by
    decide +kernel
  refine ⟨read, ((grants_iff read (.special .document)).2 0).2 ?_, ?_⟩
  · decide
  · rw [show SubIndex.url .popup .allowing = Grant.popup.index filter.category from rfl,
      (grants_iff read .popup).1]
    decide

/-- A special type is granted behind a `~` as well. -/
theorem not_grants_of_negated :
    ¬ ∀ privileged line filter, Filter.parse privileged line = .ok (.url filter) →
      ∀ grant : Grant, (∀ entry ∈ entriesOf line, entry.name = grant.name → entry.negated = true) →
        ¬ filter.Serves (grant.index filter.category) ∧
          ∀ id, ∀ posting ∈ filter.postings id, posting.index ≠ grant.index filter.category := by
  intro claimed
  have read : Filter.parse false "@@||shop.example^$~document" =
      .ok (.url { plain .allowing "||shop.example^" with
        subresource := false, specialTypes := [.document] }) := by
    decide +kernel
  have never := (claimed _ _ _ read (.special .document) (by decide)).1
  exact never (by simp [Serves, Grant.index])

end UrlFilter

end ContentBlocker
