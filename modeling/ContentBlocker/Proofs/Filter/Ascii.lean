import ContentBlocker.Proofs.Filter.Parsed
import ContentBlocker.Proofs.Pattern.Words
import ContentBlocker.Proofs.Text.Ascii
/-!
# ASCII lines have ASCII patterns

Reading a line cuts its pattern out, drops white space, and writes bars as escapes and letters in
small form. All of this stays within ASCII.
-/

namespace ContentBlocker

namespace UrlFilter

theorem splitCategory_sublist (line : Text) : (splitCategory line).2.Sublist line := by
  rw [splitCategory.eq_def]
  split
  · exact (List.sublist_cons_self _ _).trans (List.sublist_cons_self _ _)
  · exact .refl line

theorem splitOptions_sublist (text : Text) : (splitOptions text).1.Sublist text := by
  rw [splitOptions]
  split
  · exact .refl text
  · cases last : Text.splitLast? '$' text with
    | none => exact .refl text
    | some parts => exact Text.of_splitLast?_eq_some last ▸ List.sublist_append_left _ _

/-- Nothing but the escape is new in a text whose bars are written as escapes. -/
theorem escapeBars_subset (t : Text) : escapeBars t ⊆ t ++ "%7C" := by
  intro c there
  obtain ⟨d, member, isPart⟩ := List.mem_flatMap.1 there
  split at isPart
  · exact List.mem_append_right t isPart
  · rw [List.mem_singleton.1 isPart]
    exact List.mem_append_left _ member

theorem sanitizeBars_subset (t : Text) : sanitizeBars t ⊆ t ++ "%7C" := by
  intro c there
  have first := (List.takeWhile_sublist (· = '|')).trans (List.take_sublist 2 t)
  have start : ∀ c ∈ (t.take 2).takeWhile (· = '|'), c ∈ t ++ "%7C" := fun c member =>
    List.mem_append_left _ (first.subset member)
  have kept : t.drop ((t.take 2).takeWhile (· = '|')).length ⊆ t := List.drop_subset _ t
  have escaped {u : Text} (within : u ⊆ t) : ∀ c ∈ escapeBars u, c ∈ t ++ "%7C" := fun c member =>
    (List.mem_append.1 (escapeBars_subset u member)).elim
      (fun member => List.mem_append_left _ (within member)) (List.mem_append_right t)
  rw [sanitizeBars] at there
  split at there
  · rename_i body dropped
    rw [Text.dropLast?_eq_some] at dropped
    rw [dropped, List.append_subset] at kept
    rcases List.mem_append.1 there with there | last
    · exact (List.mem_append.1 there).elim (start c) (escaped kept.1 c)
    · exact List.mem_append_left _ (kept.2 last)
  · exact (List.mem_append.1 there).elim (start c) (escaped kept c)

theorem isAscii_normalizePattern {text : Text} (ascii : text.IsAscii) (matchCase : Bool) :
    (normalizePattern matchCase text).IsAscii := by
  have compact : text.withoutBlanks.IsAscii := ascii.of_subset List.filter_sublist.subset
  rw [normalizePattern]
  split
  · exact compact
  · have sanitized := (compact.append (by decide)).of_subset (sanitizeBars_subset _)
    split
    · exact sanitized
    · exact sanitized.lower

theorem isAscii_pattern_parse [RegexEngine] {privileged : Bool} {line : Text} {filter : UrlFilter}
    (ascii : line.IsAscii) (h : parse privileged line = .ok filter) : filter.pattern.IsAscii := by
  have text : (splitOptions (splitCategory line).2).1.IsAscii :=
    ascii.of_subset ((splitOptions_sublist _).trans (splitCategory_sublist line)).subset
  obtain ⟨hasOptions, options, -, made⟩ := of_parse_eq_ok h
  obtain rfl := of_ofParts_eq_ok made
  exact isAscii_normalizePattern text options.matchCase

end UrlFilter

namespace Filter

/-- A filter on addresses is read from its line without the white space around it. -/
theorem url_of_parse [RegexEngine] {privileged : Bool} {line : Text} {filter : UrlFilter}
    (h : parse privileged line = .ok (.url filter)) :
    UrlFilter.parse privileged line.trim = .ok filter := by
  rcases cases_of_parse h with ⟨before, separator, after, -, made⟩ | ⟨-, made, read, same⟩
  · cases made
  · cases same
    exact read

/-- The filters on addresses that ASCII lines hold have ASCII patterns. -/
theorem isAscii_pattern_parse [RegexEngine] {privileged : Bool} {line : Text} {filter : UrlFilter}
    (ascii : line.IsAscii) (h : parse privileged line = .ok (.url filter)) :
    filter.pattern.IsAscii :=
  UrlFilter.isAscii_pattern_parse (ascii.of_subset (Text.trim_sublist line).subset)
    (url_of_parse h)

end Filter

end ContentBlocker
