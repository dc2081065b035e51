import ContentBlocker.FilterList.Compile
import ContentBlocker.Proofs.Text.Trimming
/-!
# What an index owes to the reading of its list

Of what has been read of a list only the metadata and the filters go into the index, and what the
next line adds to them depends only on two questions: whether comments still carry metadata, and
whether a header would be passed over. `Agrees` relates two readings that are alike in all of this,
each under settings of its own. Reading the same lines keeps it, and the outcomes are the same.
-/

namespace ContentBlocker

namespace Filter

theorem parse_trim [RegexEngine] (privileged : Bool) (line : Text) :
    parse privileged line.trim = parse privileged line := by
  rw [parse, parse, Text.trim_trim]

end Filter

theorem isHeader_congr {line line' : Text} (same : line'.trim = line.trim) :
    isHeader line' = isHeader line := by
  rw [isHeader, isHeader, same]

namespace ListReading

variable {config config' : CompileConfig} {r r' r'' : ListReading}

/-- Whether the next line of text is passed over if it is a header. -/
def awaitsHeader (config : CompileConfig) (r : ListReading) : Bool :=
  !r.sawContent && !config.requireHeader

/-- What is read from here on comes to the same. -/
structure Agrees (config config' : CompileConfig) (r r' : ListReading) : Prop where
  privileged : config.privileged = config'.privileged
  metadata : r.metadata = r'.metadata
  filters : r.filters = r'.filters
  inPreamble : r.inPreamble = r'.inPreamble
  awaitsHeader : r.awaitsHeader config = r'.awaitsHeader config'

theorem Agrees.refl (config : CompileConfig) (r : ListReading) : Agrees config config r r :=
  ⟨rfl, rfl, rfl, rfl, rfl⟩

theorem Agrees.trans (h : Agrees config config r r') (h' : Agrees config config r' r'') :
    Agrees config config r r'' :=
  ⟨rfl, h.metadata.trans h'.metadata, h.filters.trans h'.filters,
    h.inPreamble.trans h'.inPreamble, h.awaitsHeader.trans h'.awaitsHeader⟩

/-- Once a line of text has been read, headers are filter lines like others. -/
theorem awaitsHeader_of_sawContent (saw : r.sawContent = true) :
    r.awaitsHeader config = false := by
  rw [awaitsHeader, saw, Bool.not_true, Bool.false_and]

variable [RegexEngine]

theorem addText_header {line : Text} (content : line ≠ []) (awaits : r.awaitsHeader config)
    (header : isMarkedHeader line) : addText config r line = { r with sawContent := true } := by
  rw [awaitsHeader, Bool.and_eq_true] at awaits
  rw [addText, if_neg content, if_pos ⟨awaits.1, awaits.2, header⟩]

theorem addText_comment {line : Text} (comment : line.head? = some '!')
    (noHeader : ¬ (r.awaitsHeader config ∧ isMarkedHeader line)) :
    addText config r line = { r with
      sawContent := true
      metadata := if r.inPreamble then r.metadata.add line else r.metadata } := by
  have content : line ≠ [] := by
    rintro rfl
    cases comment
  rw [awaitsHeader, Bool.and_eq_true, and_assoc] at noHeader
  rw [addText, if_neg content, if_neg noHeader, if_pos comment]
  cases r.inPreamble <;> rfl

theorem addText_filter {line : Text} (content : line ≠ []) (noComment : line.head? ≠ some '!')
    (noHeader : ¬ (r.awaitsHeader config ∧ isMarkedHeader line)) :
    addText config r line = addFilterLine config r line := by
  rw [awaitsHeader, Bool.and_eq_true, and_assoc] at noHeader
  rw [addText, if_neg content, if_neg noHeader, if_neg noComment]

theorem Agrees.addText (h : Agrees config config' r r') (line : Text) :
    Agrees config config' (addText config r line) (addText config' r' line) := by
  have saw : ∀ s s' : ListReading, s.sawContent = true → s'.sawContent = true →
      s.awaitsHeader config = s'.awaitsHeader config' := fun s s' saw saw' => by
    rw [awaitsHeader_of_sawContent saw, awaitsHeader_of_sawContent saw']
  by_cases blank : line = []
  · subst blank
    exact h
  by_cases header : r.awaitsHeader config ∧ isMarkedHeader line
  · have header' := header
    rw [h.awaitsHeader] at header'
    rw [addText_header blank header.1 header.2, addText_header blank header'.1 header'.2]
    exact ⟨h.privileged, h.metadata, h.filters, h.inPreamble, saw _ _ rfl rfl⟩
  have header' := header
  rw [h.awaitsHeader] at header'
  by_cases comment : line.head? = some '!'
  · rw [addText_comment comment header, addText_comment comment header']
    refine ⟨h.privileged, ?_, h.filters, h.inPreamble, saw _ _ rfl rfl⟩
    rw [h.inPreamble, h.metadata]
  · rw [addText_filter blank comment header, addText_filter blank comment header']
    refine ⟨h.privileged, h.metadata, ?_, rfl, saw _ _ rfl rfl⟩
    unfold addFilterLine
    rw [h.privileged, h.filters]

theorem Agrees.addLine (h : Agrees config config' r r') (line : List UInt8) :
    Agrees config config' (addLine config r line) (addLine config' r' line) := by
  have counted : Agrees config config' { r with lineCount := r.lineCount + 1 }
      { r' with lineCount := r'.lineCount + 1 } :=
    ⟨h.privileged, h.metadata, h.filters, h.inPreamble, h.awaitsHeader⟩
  unfold ListReading.addLine
  cases lineText? line with
  | none => exact ⟨h.privileged, h.metadata, h.filters, h.inPreamble, h.awaitsHeader⟩
  | some text => exact counted.addText text.trim

theorem Agrees.addLines (h : Agrees config config' r r') (lines : List (List UInt8)) :
    Agrees config config' (addLines config r lines) (addLines config' r' lines) := by
  induction lines generalizing r r' with
  | nil => exact h
  | cons line rest ih =>
    have next := h.addLine line
    unfold ListReading.addLines
    simp only [next.metadata]
    split
    · exact next
    · exact ih next

/-- What comes of a list of which nothing is left to read. -/
def outcome (config : CompileConfig) (failure : Option Text) (r : ListReading) : CompileOutcome :=
  match r.metadata.redirect, failure with
  | some target, _ => .redirect target
  | none, some reason => .failed (.unreadable reason)
  | none, none => .index (buildIndex r.filters.toList r.metadata config.source)

end ListReading

namespace ListSource

variable [RegexEngine] {source source' : ListSource} {config config' : CompileConfig}
  {r r' : ListReading}

theorem compile_of_read_error {fault : CompileFault} (read : source.read config = .error fault) :
    source.compile config = .failed fault := by
  rw [compile, compileReporting, read]

theorem compile_of_read_ok (read : source.read config = .ok r) :
    source.compile config = r.outcome config source.failure := by
  rw [compile, compileReporting, read]
  unfold ListReading.outcome
  dsimp only
  cases r.metadata.redirect <;> cases source.failure <;> rfl

/-- Readings that agree have the same outcome. -/
theorem compile_eq_of_agrees (read : source.read config = .ok r)
    (read' : source'.read config' = .ok r') (agrees : ListReading.Agrees config config' r r')
    (failure : source.failure = source'.failure) (address : config.source = config'.source) :
    source.compile config = source'.compile config' := by
  rw [compile_of_read_ok read, compile_of_read_ok read']
  unfold ListReading.outcome
  rw [agrees.metadata, agrees.filters, failure, address]

end ListSource

end ContentBlocker
