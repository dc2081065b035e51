import ContentBlocker.Proofs.Filter.Privilege
import ContentBlocker.Proofs.Text.Trimming
import ContentBlocker.Reference.Engine
/-!
# Braces in selectors

A selector that is kept without braces cannot open a block of declarations. Of the filters that an
unprivileged list may hold, those that hide, or keep others from it, are kept in this form, whatever
their lines say. The selector of an extended filter is kept as it is written; only a line that ends
in a closing brace is refused. The main statement says exactly when a brace is left.
-/

namespace ContentBlocker

/-- Whether a brace stands in a text. -/
def Text.HasBrace (t : Text) : Prop := '\x7b' ∈ t ∨ '\x7d' ∈ t

instance (t : Text) : Decidable t.HasBrace := inferInstanceAs (Decidable (_ ∨ _))

/-- Cutting white space off leaves every brace. -/
theorem Text.hasBrace_trim {t : Text} : t.trim.HasBrace ↔ t.HasBrace := by
  have kept : ∀ c, isBlank c = false → (c ∈ t.trim ↔ c ∈ t) := fun c other => mem_trim other
  rw [HasBrace, HasBrace, kept _ (by decide), kept _ (by decide)]

namespace ContentFilter

theorem not_hasBrace_escapeBraces (selector : Text) : ¬ (escapeBraces selector).HasBrace := by
  have escaped : ∀ b, b = '\x7b' ∨ b = '\x7d' → b ∉ escapeBraces selector := by
    intro b brace member
    obtain ⟨c, -, here⟩ := List.mem_flatMap.1 member
    by_cases opens : c = '\x7b'
    · rw [if_pos opens] at here
      rcases brace with rfl | rfl <;> revert here <;> decide
    · by_cases closes : c = '\x7d'
      · rw [if_neg opens, if_pos closes] at here
        rcases brace with rfl | rfl <;> revert here <;> decide
      · rw [if_neg opens, if_neg closes, List.mem_singleton] at here
        subst here
        exact brace.elim opens closes
  rintro (opening | closing)
  · exact escaped _ (.inl rfl) opening
  · exact escaped _ (.inr rfl) closing

theorem selector_ofSelector {kind : ContentKind} {domains : DomainSet} {selector : Text}
    {filter : ContentFilter} (made : ofSelector kind domains selector = .ok filter) :
    filter.kind = kind ∧ filter.selector = escapeBraces selector := by
  unfold ofSelector at made
  split at made
  · cases made
  · cases made
    exact ⟨rfl, rfl⟩

/-- Without privilege there are no blocks of declarations, and the text is the selector. -/
theorem selector_ofEmulation_false {domains : DomainSet} {body : Text} {filter : ContentFilter}
    (made : ofEmulation false domains body = .ok filter) :
    filter.kind = .emulation ∧ filter.selector = body := by
  unfold ofEmulation at made
  split at made
  · cases made
    exact ⟨rfl, rfl⟩
  · split at made
    · cases made
    · dsimp only at made
      split at made
      · cases made
      · rw [if_pos (by decide)] at made
        cases made

end ContentFilter

namespace Filter

theorem selector_ofSeparated_false {before after : Text} {separator : Separator}
    {filter : ContentFilter}
    (made : ofSeparated false before separator after = .ok (.content filter)) :
    (separator ≠ .emulation ∧ ¬ filter.selector.HasBrace) ∨
      (separator = .emulation ∧ filter.kind = .emulation ∧ filter.selector = after.trim) := by
  cases separated_of_ofSeparated made with
  | hide selected | hideException selected =>
    rw [(ContentFilter.selector_ofSelector selected).2]
    exact .inl ⟨nofun, ContentFilter.not_hasBrace_escapeBraces _⟩
  | emulation _ emulated => exact .inr ⟨rfl, ContentFilter.selector_ofEmulation_false emulated⟩

/-- A brace is left in the selector that an unprivileged list reads from a line exactly if the line
is an extended filter with a brace behind its separator. -/
theorem hasBrace_selector_iff [RegexEngine] {line : Text} {filter : ContentFilter}
    (read : parse false line = .ok (.content filter)) :
    filter.selector.HasBrace ↔ filter.kind = .emulation ∧ ∃ before after,
      Separator.find? line.trim = some (before, .emulation, after) ∧ after.HasBrace := by
  unfold parse at read
  dsimp only at read
  split at read
  · cases read
  split at read
  · cases read
  cases found : Separator.find? line.trim with
  | none =>
    rw [found] at read
    obtain ⟨made, addressed, same⟩ := of_map_eq_ok (of_mapError_eq_ok read)
    cases same
  | some parts =>
    obtain ⟨before, separator, after⟩ := parts
    rw [found] at read
    rcases selector_ofSeparated_false (of_mapError_eq_ok read) with
      ⟨plain, none⟩ | ⟨rfl, kind, selector⟩
    · refine iff_of_false none ?_
      rintro ⟨-, before', after', same, -⟩
      cases same
      exact plain rfl
    · rw [selector, Text.hasBrace_trim]
      constructor
      · exact fun brace => ⟨kind, before, after, rfl, brace⟩
      · rintro ⟨-, before', after', same, brace⟩
        cases same
        exact brace

theorem hasBrace_selector_iff_escaped :
    let line : Text := "a.example##.x \x7b color: red \x7d"
    ∃ filter, parse false line = .ok (.content filter) ∧ ¬ filter.selector.HasBrace ∧
      (filter.selector.HasBrace ↔ filter.kind = .emulation ∧ ∃ before after,
        Separator.find? line.trim = some (before, .emulation, after) ∧ after.HasBrace) := by
  intro line
  exact ⟨⟨.hide, ".x \\7b  color: red \\7d ", [], ⟨["a.example"], []⟩⟩, by rfl, by decide,
    hasBrace_selector_iff (by rfl)⟩

/-- An unprivileged list can hold an extended filter that opens a block of declarations. -/
theorem not_hasBrace_selector :
    ¬ ∀ line filter, parse false line = .ok (.content filter) → ¬ filter.selector.HasBrace := by
  intro claimed
  have read : parse false "a.example#?#.x\x7bcolor:red\x7d .y" = .ok (.content
      ⟨.emulation, ".x\x7bcolor:red\x7d .y", [], ⟨["a.example"], []⟩⟩) := by
    rfl
  exact claimed _ _ read (by decide)

end Filter

end ContentBlocker
