import ContentBlocker.Proofs.Filter.Ascii
/-!
# The options of a line

A filter on addresses is made of the category, the pattern and the options that its line writes. The
options are read one after the other, so that what is true of the filter follows from what a single
option does to those read before it.
-/

namespace ContentBlocker.UrlFilter

/-- The options that a line writes. -/
def entriesOf (line : Text) : List Options.Entry :=
  match (splitOptions (splitCategory line.trim).2).2 with
  | some text => Options.entries text
  | none => []

/-- A filter on addresses is made of the parts of its line. -/
theorem made_of_parse [RegexEngine] {privileged : Bool} {line : Text} {filter : UrlFilter}
    (h : Filter.parse privileged line = .ok (.url filter)) :
    ∃ hasOptions options, (entriesOf line).foldlM Options.add .absent = .ok options ∧
      ofParts privileged (splitCategory line.trim).1
        (splitOptions (splitCategory line.trim).2).1 hasOptions options = .ok filter := by
  have parsed := Filter.url_of_parse h
  rw [parse] at parsed
  dsimp only at parsed
  unfold entriesOf
  split at parsed
  · rename_i split
    rw [split]
    exact ⟨false, .absent, rfl, parsed⟩
  · rename_i split
    rw [split]
    split at parsed
    · rename_i options read
      exact ⟨true, options, read, parsed⟩
    · cases parsed

/-- A line is read by its parts. -/
theorem parse_of_ofParts [RegexEngine] {privileged : Bool} {line pattern text : Text}
    {options : Options} {filter : UrlFilter} (written : line.trim ≠ [])
    (notComment : Filter.isComment line.trim = false)
    (noSeparator : Separator.find? line.trim = none)
    (cut : splitOptions (splitCategory line.trim).2 = (pattern, some text))
    (read : Options.parse text = .ok options)
    (made : ofParts privileged (splitCategory line.trim).1 pattern true options = .ok filter) :
    Filter.parse privileged line = .ok (.url filter) := by
  have parsed : parse privileged line.trim = .ok filter := by
    rw [parse]
    dsimp only
    rw [cut]
    dsimp only
    rw [read]
    exact made
  rw [Filter.parse]
  simp only [if_neg written, notComment, noSeparator, parsed]
  rfl

end ContentBlocker.UrlFilter
