import ContentBlocker.Proofs.FilterList.Reading
import ContentBlocker.Proofs.Text.Ascii
import ContentBlocker.Reference.Engine
/-!
# Requiring a header makes no other difference

Where a header is required, the first line is looked at as it stands. Where it is not, the first
line that is not blank may be a header, and is looked at without the white space around it. A list
that has the header it needs therefore compiles to the same with either setting.
-/

namespace ContentBlocker

/-- A header starts with a bracket. -/
theorem exists_of_isHeader {line : Text} (header : isHeader line) :
    ∃ rest, line.trim = '[' :: rest := by
  unfold isHeader at header
  cases trimmed : line.trim with
  | nil =>
    rw [trimmed] at header
    cases header
  | cons c rest =>
    rw [trimmed] at header
    have first := (List.cons_prefix_cons.1 (List.isPrefixOf_iff_prefix.1 header)).1
    have bracket : c = '[' := Text.eq_of_toLower_eq (by decide) first.symm
    exact ⟨rest, by rw [bracket]⟩

namespace ListReading

/-- White space at the end of a line does not count, nor does it where nothing but marks stand in
front of it. -/
theorem isMarkedHeader_rdropWhile (text : Text) :
    isMarkedHeader (text.rdropWhile Text.isBlank) = isMarkedHeader text := by
  unfold isMarkedHeader
  induction text with
  | nil => rfl
  | cons c text ih =>
    rw [Text.rdropWhile_cons]
    by_cases mark : isByteOrderMark c
    · have kept : ¬ Text.isBlank c := by
        rw [of_decide_eq_true mark]
        decide
      rw [if_neg fun both => kept both.2, List.dropWhile_cons_of_pos mark,
        List.dropWhile_cons_of_pos mark, ih]
    · rw [List.dropWhile_cons_of_neg mark, ← Text.rdropWhile_cons]
      have unmarked : ((c :: text).rdropWhile Text.isBlank).dropWhile isByteOrderMark =
          (c :: text).rdropWhile Text.isBlank := by
        rw [Text.rdropWhile_cons]
        split
        · rfl
        · exact List.dropWhile_cons_of_neg mark
      rw [unmarked]
      exact isHeader_congr (Text.trim_rdropWhile _)

/-- In front of a mark there is no white space to drop. -/
theorem trim_mark (text : Text) :
    Text.trim ('\ufeff' :: text) = List.rdropWhile Text.isBlank ('\ufeff' :: text) := by
  rw [Text.trim_eq, List.dropWhile_cons_of_neg (by decide)]

/-- A header is still one without the white space around it. Where byte order marks stand in front
of it, the white space behind them does not count either. -/
theorem isMarkedHeader_trim {text : Text} (header : isMarkedHeader text) :
    text.trim ≠ [] ∧ isMarkedHeader text.trim := by
  by_cases marked : text.head? = some '\ufeff'
  · obtain ⟨rest, rfl⟩ := List.head?_eq_some_iff.1 marked
    rw [trim_mark, isMarkedHeader_rdropWhile]
    refine ⟨?_, header⟩
    rw [Text.rdropWhile_cons, if_neg fun both => absurd both.2 (by decide)]
    exact List.cons_ne_nil _ _
  · have plain : text.dropWhile isByteOrderMark = text := by
      cases text with
      | nil => rfl
      | cons c rest => exact List.dropWhile_cons_of_neg (by simpa [isByteOrderMark] using marked)
    rw [isMarkedHeader, plain] at header
    obtain ⟨after, trimmed⟩ := exists_of_isHeader header
    have unmarked : text.trim.dropWhile isByteOrderMark = text.trim := by
      rw [trimmed]
      rfl
    rw [isMarkedHeader, unmarked, isHeader_congr (Text.trim_trim text)]
    exact ⟨by simp [trimmed], header⟩

end ListReading

namespace ListSource

section

variable [RegexEngine] {source : ListSource} {config : CompileConfig}

theorem read_required {line : List UInt8} {rest : List (List UInt8)} {text : Text}
    (required : config.requireHeader = true) (lines : source.lines = line :: rest)
    (isText : lineText? line = some text) (header : ListReading.isMarkedHeader text) :
    source.read config =
      .ok (ListReading.addLines config { ListReading.start with lineCount := 1 } rest) := by
  rw [read, if_pos required, lines]
  dsimp only
  rw [isText, Option.map_some, Option.getD_some, if_pos header]

theorem read_without_header {line : List UInt8} {rest : List (List UInt8)}
    (required : config.requireHeader = true) (lines : source.lines = line :: rest)
    (noHeader : ¬ ∃ text, lineText? line = some text ∧ ListReading.isMarkedHeader text) :
    source.read config = .error .headerMissing := by
  rw [read, if_pos required, lines]
  dsimp only
  cases isText : lineText? line with
  | none => rfl
  | some text => exact if_neg fun header => noHeader ⟨text, isText, header⟩

theorem read_optional {line : List UInt8} {rest : List (List UInt8)} {text : Text}
    (optional : config.requireHeader = false) (lines : source.lines = line :: rest)
    (isText : lineText? line = some text) (header : ListReading.isMarkedHeader text) :
    source.read config = .ok (ListReading.addLines config
      { ListReading.start with lineCount := 1, sawContent := true } rest) := by
  obtain ⟨content, header⟩ := ListReading.isMarkedHeader_trim header
  have passed : ListReading.addLine config .start line =
      { ListReading.start with lineCount := 1, sawContent := true } := by
    rw [ListReading.addLine, isText]
    dsimp only
    rw [ListReading.addText_header content _ header]
    · rfl
    · rw [ListReading.awaitsHeader, optional]
      rfl
  rw [read, if_neg (by simp [optional]), lines, ListReading.addLines, passed]
  rfl

/-- A list that compiles where a header is required, or fails for another reason than that it has
none, compiles to the same, or fails for the same reason, where none is required. -/
theorem compile_optional_of_required (source : ListSource) (config : CompileConfig)
    (hasHeader : source.compile { config with requireHeader := true } ≠ .failed .headerMissing) :
    source.compile { config with requireHeader := false } =
      source.compile { config with requireHeader := true } := by
  cases lines : source.lines with
  | nil =>
    cases broken : source.failure with
    | none =>
      refine absurd (compile_of_read_error ?_) hasHeader
      rw [read, if_pos rfl, lines, broken]
    | some reason =>
      have required : source.read { config with requireHeader := true } =
          .error (.unreadable reason) := by
        rw [read, if_pos rfl, lines, broken]
      have optional : source.read { config with requireHeader := false } = .ok .start := by
        rw [read, if_neg Bool.false_ne_true, lines, ListReading.addLines]
      rw [compile_of_read_error required, compile_of_read_ok optional, broken]
      rfl
  | cons line rest =>
    by_cases header : ∃ text, lineText? line = some text ∧ ListReading.isMarkedHeader text
    · obtain ⟨text, isText, header⟩ := header
      have start : ListReading.Agrees { config with requireHeader := false }
          { config with requireHeader := true }
          { ListReading.start with lineCount := 1, sawContent := true }
          { ListReading.start with lineCount := 1 } := ⟨rfl, rfl, rfl, rfl, rfl⟩
      exact compile_eq_of_agrees (read_optional rfl lines isText header)
        (read_required rfl lines isText header) (start.addLines rest) rfl rfl
    · exact absurd (compile_of_read_error (read_without_header rfl lines header)) hasHeader

end

/-- A header behind a byte order mark and a space, and a second one that is a line like others. -/
theorem compile_optional_of_required_marked :
    let text : Text := "\ufeff [Adblock Plus 2.0]\n[Adblock Plus 2.0]\n||ads.example^"
    let source : ListSource := ⟨text.encode, none⟩
    ∃ bytes, source.compile { CompileConfig.standard with requireHeader := true } = .index bytes ∧
      source.compile { CompileConfig.standard with requireHeader := false } = .index bytes := by
  intro text source
  have stays : (match source.read { CompileConfig.standard with requireHeader := true } with
      | .ok r => decide (r.metadata.redirect = none)
      | .error _ => false) = true := by
    decide +kernel
  cases read : source.read { CompileConfig.standard with requireHeader := true } with
  | error fault =>
    rw [read] at stays
    cases stays
  | ok r =>
    rw [read, decide_eq_true_eq] at stays
    have compiled := compile_of_read_ok read
    unfold ListReading.outcome at compiled
    rw [stays] at compiled
    refine ⟨_, compiled, ?_⟩
    rw [compile_optional_of_required source .standard (by rw [compiled]; exact nofun), compiled]

end ListSource

end ContentBlocker
