import ContentBlocker.Proofs.Filter.Parsed
import ContentBlocker.Proofs.FilterList.DroppedLines
import ContentBlocker.Proofs.FilterList.HeaderModes
import ContentBlocker.Reference.Engine
/-!
# A byte order mark in front of a list

A byte order mark in front of a header is passed over, and where a header is required but missing,
the list has no index with a mark or without. In front of any other first line the mark stays where
it is. It is no white space, so that the line is neither blank nor a comment: it is read as a filter
that begins with the mark, and it ends the preamble. No comment of such a list carries metadata, and
if the list has moved, nothing says so.
-/

namespace ContentBlocker

namespace Filter

variable [RegexEngine]

theorem ofLines_trim (privileged : Bool) (line : Text) :
    ofLines privileged [line.trim] = ofLines privileged [line] := by
  rw [ofLines, ofLines, List.filterMap_cons, List.filterMap_cons, parse_trim]

/-- Blank lines and comments hold no filter. -/
theorem ofLines_of_passed {privileged : Bool} {line : Text}
    (passed : line.trim = [] ∨ line.trim.head? = some '!') : ofLines privileged [line] = [] := by
  by_cases blank : line.trim = []
  · have refused : parse privileged line = .error .blank := by rw [parse, if_pos blank]
    exact ofLines_of_error refused
  · have refused : parse privileged line = .error .comment := by
      rw [parse, if_neg blank, isComment, passed.resolve_left blank]
      rfl
    exact ofLines_of_error refused

theorem ofLines_pieces (privileged : Bool) (text : Text) :
    ofLines privileged (Text.pieces '\n' text) = ofLines privileged text.lines := by
  rcases Text.pieces_eq_lines text with same | same
  · rw [same]
  · rw [same, ofLines_append, ofLines_of_passed (.inl rfl), List.append_nil]

end Filter

namespace ListReading

variable {config : CompileConfig} {r : ListReading}

/-- A list that was read to its end and has not moved has an index. -/
theorem outcome_of_stays (stays : r.metadata.redirect = none) :
    r.outcome config none = .index (buildIndex r.filters.toList r.metadata config.source) := by
  unfold outcome
  rw [stays]

variable [RegexEngine]

theorem toList_filters_addFilterLine (line : Text) :
    (addFilterLine config r line).filters.toList =
      r.filters.toList ++ Filter.ofLines config.privileged [line] := by
  unfold addFilterLine
  cases read : Filter.parse config.privileged line with
  | error fault => rw [Filter.ofLines_of_error read, List.append_nil]
  | ok filter =>
    rw [Array.toList_push, Filter.ofLines, List.filterMap_cons, read]
    rfl

/-- Behind the preamble a text adds the filter that it holds, and no metadata. -/
theorem addText_past (past : r.inPreamble = false) (noHeader : r.awaitsHeader config = false)
    (line : Text) :
    (addText config r line.trim).metadata = r.metadata ∧
      (addText config r line.trim).filters.toList =
        r.filters.toList ++ Filter.ofLines config.privileged [line] := by
  have plain : ¬ (r.awaitsHeader config ∧ isMarkedHeader line.trim) := by simp [noHeader]
  by_cases blank : line.trim = []
  · rw [addText, if_pos blank, Filter.ofLines_of_passed (.inl blank), List.append_nil]
    exact ⟨rfl, rfl⟩
  by_cases comment : line.trim.head? = some '!'
  · rw [addText_comment comment plain, Filter.ofLines_of_passed (.inr comment), List.append_nil]
    simp [past]
  · rw [addText_filter blank comment plain, toList_filters_addFilterLine, Filter.ofLines_trim]
    exact ⟨rfl, rfl⟩

/-- A line adds what its text does, since what is counted besides changes nothing. -/
theorem addLine_past (past : r.inPreamble = false) (noHeader : r.awaitsHeader config = false)
    (line : Text) :
    (addLine config r line.toBytes).metadata = r.metadata ∧
      (addLine config r line.toBytes).filters.toList =
        r.filters.toList ++ Filter.ofLines config.privileged [line] := by
  rw [addLine, lineText?_toBytes]
  exact addText_past (r := { r with lineCount := r.lineCount + 1 }) past noHeader line

/-- Behind the preamble lines add the filters that they hold, and no metadata. -/
theorem addLines_past (past : r.inPreamble = false) (noHeader : r.awaitsHeader config = false)
    (stays : r.metadata.redirect = none) (lines : List Text) :
    (addLines config r (lines.map Text.toBytes)).metadata = r.metadata ∧
      (addLines config r (lines.map Text.toBytes)).filters.toList =
        r.filters.toList ++ Filter.ofLines config.privileged lines := by
  induction lines generalizing r with
  | nil => exact ⟨rfl, (List.append_nil _).symm⟩
  | cons line rest ih =>
    obtain ⟨metadata, filters⟩ := addLine_past past noHeader line
    have goesOn : (addLine config r line.toBytes).metadata.redirect = none := by
      rw [metadata, stays]
    obtain ⟨metadata', filters'⟩ :=
      ih (inPreamble_addLine past _) (awaitsHeader_addLine noHeader _) goesOn
    rw [List.map_cons, addLines, if_neg (by simp [goesOn])]
    refine ⟨metadata'.trans metadata, ?_⟩
    rw [filters', filters, List.append_assoc, ← Filter.ofLines_cons]

/-- A line behind a mark that is no header is a filter line, with which the preamble is over. -/
theorem addLine_mark {line : Text} (plain : ¬ isMarkedHeader line) :
    addLine config .start (Text.toBytes ('\ufeff' :: line)) =
      addFilterLine config { ListReading.start with lineCount := 1 }
        (Text.trim ('\ufeff' :: line)) := by
  have noHeader : ¬ isMarkedHeader (Text.trim ('\ufeff' :: line)) := by
    rw [trim_mark, isMarkedHeader_rdropWhile, isMarkedHeader,
      List.dropWhile_cons_of_pos (by decide)]
    exact plain
  have starts : ∃ rest, Text.trim ('\ufeff' :: line) = '\ufeff' :: rest := by
    rw [trim_mark, Text.rdropWhile_cons, if_neg fun both => absurd both.2 (by decide)]
    exact ⟨_, rfl⟩
  obtain ⟨rest, trimmed⟩ := starts
  rw [addLine, lineText?_toBytes]
  apply addText_filter
  · simp [trimmed]
  · simp [trimmed]
  · exact fun both => noHeader both.2

end ListReading

/-- Where a list has moved. -/
def CompileOutcome.redirect? : CompileOutcome → Option Text
  | redirect target => some target
  | _ => none

namespace ListSource

/-- Whether the first line of a text is a header. -/
def startsWithHeader (text : Text) : Bool :=
  ListReading.isMarkedHeader (text.takeWhile (· != '\n'))

theorem lines_mark (text : Text) : Text.lines ('\ufeff' :: text) =
    ('\ufeff' :: text.lines.head?.getD []) :: text.lines.tail := by
  rw [Text.lines, if_neg (by decide)]
  cases text.lines <;> rfl

theorem isMarkedHeader_mark (line : Text) :
    ListReading.isMarkedHeader ('\ufeff' :: line) = ListReading.isMarkedHeader line := by
  rw [ListReading.isMarkedHeader, List.dropWhile_cons_of_pos (by decide)]
  rfl

section

variable [RegexEngine] {config : CompileConfig}

/-- Without a header that is required a list has no index. -/
theorem compile_encode_without_header {text : Text} (required : config.requireHeader = true)
    (plain : startsWithHeader text = false) :
    compile ⟨text.encode, none⟩ config = .failed .headerMissing := by
  rw [startsWithHeader, Text.takeWhile_eq_head_lines] at plain
  have lines := lines_encode text
  apply compile_of_read_error
  cases cut : text.lines with
  | nil =>
    rw [cut] at lines
    rw [read, if_pos required, lines]
    rfl
  | cons line rest =>
    rw [cut, List.map_cons] at lines
    rw [cut, List.head?_cons, Option.getD_some] at plain
    apply read_without_header required lines
    rintro ⟨text', isText, header⟩
    rw [lineText?_toBytes, Option.some.injEq] at isText
    rw [← isText, plain] at header
    cases header

/-- A mark in front of a header is passed over. -/
theorem compile_mark_header {text : Text} (header : startsWithHeader text = true) :
    compile ⟨Text.encode ('\ufeff' :: text), none⟩ config = compile ⟨text.encode, none⟩ config := by
  have lines := lines_encode text
  have lines' := lines_encode ('\ufeff' :: text)
  rw [startsWithHeader, Text.takeWhile_eq_head_lines] at header
  rw [lines_mark] at lines'
  cases cut : Text.lines text with
  | nil =>
    rw [cut] at header
    exact absurd header (by decide)
  | cons line rest =>
    rw [cut] at lines lines' header
    rw [List.head?_cons, Option.getD_some, List.tail_cons] at lines'
    have header' := (isMarkedHeader_mark line).trans header
    cases required : config.requireHeader with
    | true =>
      rw [compile_of_read_ok (read_required required lines (lineText?_toBytes _) header),
        compile_of_read_ok (read_required required lines' (lineText?_toBytes _) header')]
    | false =>
      rw [compile_of_read_ok (read_optional required lines (lineText?_toBytes _) header),
        compile_of_read_ok (read_optional required lines' (lineText?_toBytes _) header')]

/-- A mark in front of another line makes it a filter line, and the list one without comments. -/
theorem compile_mark_plain {text : Text} (optional : config.requireHeader = false)
    (plain : startsWithHeader text = false) :
    compile ⟨Text.encode ('\ufeff' :: text), none⟩ config =
      .index (buildIndex (Filter.ofLines config.privileged (Text.pieces '\n' ('\ufeff' :: text)))
        .absent config.source) := by
  have lines := lines_encode ('\ufeff' :: text)
  rw [startsWithHeader, Text.takeWhile_eq_head_lines] at plain
  rw [Filter.ofLines_pieces]
  rw [lines_mark] at lines ⊢
  generalize Text.lines text = rest at lines plain ⊢
  generalize first : rest.head?.getD [] = line at lines plain ⊢
  -- the marked line ends the preamble
  let r := ListReading.addFilterLine config { ListReading.start with lineCount := 1 }
    (Text.trim ('\ufeff' :: line))
  have read : read ⟨Text.encode ('\ufeff' :: text), none⟩ config =
      .ok (ListReading.addLines config r (rest.tail.map Text.toBytes)) := by
    rw [ListSource.read, if_neg (by simp [optional]), lines, List.map_cons, ListReading.addLines,
      ListReading.addLine_mark (by simp [plain])]
    rfl
  have noHeader : r.awaitsHeader config = false := ListReading.awaitsHeader_of_sawContent rfl
  obtain ⟨metadata, filters⟩ := ListReading.addLines_past rfl noHeader rfl rest.tail
  have start : r.filters.toList = Filter.ofLines config.privileged ['\ufeff' :: line] := by
    rw [ListReading.toList_filters_addFilterLine, Filter.ofLines_trim]
    exact List.nil_append _
  rw [start, ← Filter.ofLines_cons] at filters
  replace metadata := metadata.trans (show r.metadata = .absent from rfl)
  rw [compile_of_read_ok read, ListReading.outcome_of_stays (by rw [metadata]; rfl), metadata,
    filters]

/-- A byte order mark in front of a list makes no difference if the first line is a header or has to
be one. Otherwise all lines are filter lines, the first with the mark, and none carries metadata. -/
theorem compile_mark (text : Text) (config : CompileConfig) :
    compile ⟨Text.encode ('\ufeff' :: text), none⟩ config =
      if config.requireHeader = true ∨ startsWithHeader text = true then
        compile ⟨text.encode, none⟩ config
      else .index (buildIndex
        (Filter.ofLines config.privileged (Text.pieces '\n' ('\ufeff' :: text))) .absent
        config.source) := by
  by_cases header : startsWithHeader text = true
  · rw [if_pos (.inr header)]
    exact compile_mark_header header
  · rw [Bool.not_eq_true] at header
    cases required : config.requireHeader with
    | true =>
      have header' : startsWithHeader ('\ufeff' :: text) = false := by
        rw [startsWithHeader, List.takeWhile_cons_of_pos (by decide), isMarkedHeader_mark]
        exact header
      rw [if_pos (.inl rfl), compile_encode_without_header required header,
        compile_encode_without_header required header']
    | false =>
      rw [if_neg (by simp [header])]
      exact compile_mark_plain required header

/-- A list has moved if a comment in what was read of it says so. -/
theorem redirect?_compile (source : ListSource) (config : CompileConfig) :
    (source.compile config).redirect? =
      (source.read config).toOption.bind fun r => r.metadata.redirect := by
  cases read : source.read config with
  | error fault =>
    rw [compile_of_read_error read]
    rfl
  | ok r =>
    rw [compile_of_read_ok read]
    unfold ListReading.outcome
    cases moved : r.metadata.redirect with
    | some target => exact moved.symm
    | none => cases source.failure <;> exact moved.symm

end

/-- A list that has moved and needs no header does not say so behind a byte order mark. -/
theorem not_compile_mark :
    ¬ ∀ (text : Text) (config : CompileConfig), text.head? ≠ some '\ufeff' →
      compile ⟨Text.encode ('\ufeff' :: text), none⟩ config =
        compile ⟨text.encode, none⟩ config := by
  intro claimed
  have same := congrArg CompileOutcome.redirect? (claimed "! Redirect: https://lists.test/new.txt"
    { source := "https://lists.test/a.txt", privileged := false, requireHeader := false }
    (by decide))
  rw [redirect?_compile, redirect?_compile] at same
  revert same
  decide +kernel

end ListSource

end ContentBlocker
