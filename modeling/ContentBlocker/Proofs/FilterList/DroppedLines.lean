import ContentBlocker.Proofs.FilterList.Lines
import ContentBlocker.Proofs.FilterList.Reading
import ContentBlocker.Proofs.Text.Utf8
import ContentBlocker.Reference.Engine
/-!
# Dropped lines leave no trace

Behind the preamble of a list, a line that holds no filter is passed over: it changes neither the
metadata nor the filters, nor how the lines behind it are read. Such lines can be put in without any
effect on the index. Nor does it matter whether lines end in a carriage return and a line feed.
-/

namespace ContentBlocker

namespace ListReading

theorem lineText?_return (line : List UInt8) :
    lineText? (line ++ [ListSource.carriageReturn]) = (lineText? line).map (· ++ ['\r']) :=
  Text.decode?_concat line (c := '\r') (by decide)

theorem isMarkedHeader_return (text : Text) :
    isMarkedHeader (text ++ ['\r']) = isMarkedHeader text := by
  have trimmed := Text.trim_concat (c := '\r') (by decide)
  rw [isMarkedHeader, isMarkedHeader, List.dropWhile_append]
  by_cases nothing : text.dropWhile isByteOrderMark = []
  · rw [nothing]
    exact isHeader_congr (trimmed [])
  · rw [List.isEmpty_eq_false_iff.2 nothing, if_neg Bool.false_ne_true]
    exact isHeader_congr (trimmed _)

variable [RegexEngine] {config : CompileConfig} {r : ListReading}

/-- The line is a text that is not blank. -/
def HasText (line : List UInt8) : Prop := ∃ text, lineText? line = some text ∧ text.trim ≠ []

/-- The text, on the line behind the lines before it, is the header of the list: the first line of
all where a header is required, and the first with a text on it otherwise. -/
def IsListHeader (config : CompileConfig) (before : List (List UInt8)) (text : Text) : Prop :=
  if config.requireHeader then before = []
  else isMarkedHeader text.trim ∧ ∀ line ∈ before, ¬ HasText line

/-- The preamble of the list is over with this line, or was so with one before it: it holds a text
that is neither blank nor a comment nor the header. -/
structure EndsPreamble (config : CompileConfig) (before : List (List UInt8)) (line : List UInt8)
    (text : Text) : Prop where
  isText : lineText? line = some text
  content : text.trim ≠ []
  noComment : text.trim.head? ≠ some '!'
  noHeader : ¬ IsListHeader config before text

/-- The line holds no filter. -/
inductive IsDropped (privileged : Bool) (line : List UInt8) : Prop
  | notText (invalid : lineText? line = none)
  | blank {text : Text} (isText : lineText? line = some text) (blank : text.trim = [])
  | comment {text : Text} (isText : lineText? line = some text)
    (comment : text.trim.head? = some '!')
  | noFilter {text : Text} {fault : LineFault} (isText : lineText? line = some text)
    (refused : Filter.parse privileged text = .error fault)

/-- The second lines are the first with lines put in that hold no filter, wherever and however many
there are. -/
inductive Padded (privileged : Bool) : List (List UInt8) → List (List UInt8) → Prop
  | nil : Padded privileged [] []
  | keep {lines lines' : List (List UInt8)} (line : List UInt8)
    (rest : Padded privileged lines lines') : Padded privileged (line :: lines) (line :: lines')
  | insert {line : List UInt8} {lines lines' : List (List UInt8)}
    (dropped : IsDropped privileged line) (rest : Padded privileged lines lines') :
    Padded privileged lines (line :: lines')

theorem sawContent_addText {line : Text} (content : line ≠ []) :
    (addText config r line).sawContent = true := by
  rw [addText, if_neg content]
  split
  · rfl
  · split
    · split <;> rfl
    · rfl

/-- A text that is not blank has been read once there is one on the lines read. -/
theorem sawContent_addLine {line : List UInt8} (seen : r.sawContent = true ∨ HasText line) :
    (addLine config r line).sawContent = true := by
  unfold addLine
  cases isText : lineText? line with
  | none =>
    refine seen.resolve_right ?_
    rintro ⟨text, same, -⟩
    rw [isText] at same
    cases same
  | some text =>
    dsimp only
    by_cases blank : text.trim = []
    · rw [addText, if_pos blank]
      refine seen.resolve_right ?_
      rintro ⟨text', same, content⟩
      rw [isText] at same
      cases same
      exact content blank
    · exact sawContent_addText blank

/-- Behind the preamble, a text without filter changes nothing that counts. -/
theorem agrees_addText_of_dropped {line : Text} (past : r.inPreamble = false)
    (noHeader : r.awaitsHeader config = false)
    (dropped : line = [] ∨ line.head? = some '!' ∨
      ∃ fault, Filter.parse config.privileged line = .error fault) :
    Agrees config config r (addText config r line) := by
  have plain : ¬ (r.awaitsHeader config ∧ isMarkedHeader line) := by simp [noHeader]
  by_cases blank : line = []
  · rw [addText, if_pos blank]
    exact .refl config r
  by_cases comment : line.head? = some '!'
  · rw [addText_comment comment plain, past]
    exact ⟨rfl, rfl, rfl, past, noHeader.trans (awaitsHeader_of_sawContent rfl).symm⟩
  · obtain ⟨fault, refused⟩ := (dropped.resolve_left blank).resolve_left comment
    rw [addText_filter blank comment plain, addFilterLine, refused]
    exact ⟨rfl, rfl, rfl, past, noHeader.trans (awaitsHeader_of_sawContent rfl).symm⟩

theorem agrees_addLine_of_dropped {line : List UInt8} (past : r.inPreamble = false)
    (noHeader : r.awaitsHeader config = false) (dropped : IsDropped config.privileged line) :
    Agrees config config r (addLine config r line) := by
  have counted : Agrees config config r { r with lineCount := r.lineCount + 1 } :=
    ⟨rfl, rfl, rfl, rfl, rfl⟩
  unfold addLine
  cases dropped with
  | notText invalid =>
    rw [invalid]
    exact ⟨rfl, rfl, rfl, rfl, rfl⟩
  | blank isText blank =>
    rw [isText]
    exact counted.trans (agrees_addText_of_dropped past noHeader (.inl blank))
  | comment isText comment =>
    rw [isText]
    exact counted.trans (agrees_addText_of_dropped past noHeader (.inr (.inl comment)))
  | noFilter isText refused =>
    rw [isText]
    rw [← Filter.parse_trim] at refused
    exact counted.trans (agrees_addText_of_dropped past noHeader (.inr (.inr ⟨_, refused⟩)))

theorem inPreamble_addLine (past : r.inPreamble = false) (line : List UInt8) :
    (addLine config r line).inPreamble = false := by
  unfold addLine addText addFilterLine
  split
  · exact past
  · dsimp only
    repeat' split
    all_goals first | exact past | rfl

theorem awaitsHeader_addLine (noHeader : r.awaitsHeader config = false) (line : List UInt8) :
    (addLine config r line).awaitsHeader config = false := by
  unfold awaitsHeader at noHeader ⊢
  rw [Bool.and_eq_false_iff, Bool.not_eq_false'] at noHeader ⊢
  exact noHeader.imp_left fun seen => sawContent_addLine (.inl seen)

/-- Behind the preamble, lines that hold no filter may stand anywhere. The induction is on how they
are put in; readings of the lines so far agree, and none has met a comment that moves the list. -/
theorem agrees_addLines_of_padded {r' : ListReading} (agrees : Agrees config config r r')
    (stays : r.metadata.redirect = none) (past : r.inPreamble = false)
    (noHeader : r.awaitsHeader config = false) {lines lines' : List (List UInt8)}
    (padded : Padded config.privileged lines lines') :
    Agrees config config (addLines config r lines) (addLines config r' lines') := by
  induction padded generalizing r r' with
  | nil => exact agrees
  | keep line _ ih =>
    have next := agrees.addLine line
    rw [addLines, addLines, ← next.metadata]
    cases moved : (addLine config r line).metadata.redirect with
    | some target => exact next
    | none =>
      exact ih next moved (inPreamble_addLine past line) (awaitsHeader_addLine noHeader line)
  | @insert line _ _ dropped _ ih =>
    have step : Agrees config config r' (addLine config r' line) :=
      agrees_addLine_of_dropped (agrees.inPreamble ▸ past) (agrees.awaitsHeader ▸ noHeader) dropped
    have next := agrees.trans step
    have goesOn : ¬ (addLine config r' line).metadata.redirect.isSome := by
      rw [← next.metadata, stays]
      exact Bool.false_ne_true
    rw [addLines, if_neg goesOn]
    exact ih next stays past noHeader

section Insert

variable {line : List UInt8} {text : Text}

/-- With a line that ends it the preamble is over, and headers are lines like others. -/
theorem past_addLine (isText : lineText? line = some text) (content : text.trim ≠ [])
    (noComment : text.trim.head? ≠ some '!')
    (noHeader : ¬ (r.awaitsHeader config ∧ isMarkedHeader text.trim)) :
    (addLine config r line).inPreamble = false ∧
      (addLine config r line).awaitsHeader config = false := by
  have filter := addText_filter (r := { r with lineCount := r.lineCount + 1 }) content noComment
    noHeader
  rw [addLine, isText]
  dsimp only
  rw [filter]
  exact ⟨rfl, awaitsHeader_of_sawContent rfl⟩

/-- Lines that hold no filter may be put in behind a line that ends the preamble. The induction is
on the lines before it, among which a text must be found if the line looks like a header. -/
theorem agrees_addLines_of_endsPreamble (isText : lineText? line = some text)
    (content : text.trim ≠ []) (noComment : text.trim.head? ≠ some '!') {before : List (List UInt8)}
    (noHeader : r.awaitsHeader config → isMarkedHeader text.trim → ∃ line ∈ before, HasText line)
    {after after' : List (List UInt8)} (padded : Padded config.privileged after after') :
    Agrees config config (addLines config r (before ++ line :: after))
      (addLines config r (before ++ line :: after')) := by
  induction before generalizing r with
  | nil =>
    obtain ⟨past, lineLike⟩ := past_addLine (r := r) isText content noComment (by
      rintro ⟨awaits, header⟩
      obtain ⟨_, nowhere, -⟩ := noHeader awaits header
      cases nowhere)
    rw [List.nil_append, List.nil_append, addLines, addLines]
    cases moved : (addLine config r line).metadata.redirect with
    | some target => exact .refl config _
    | none => exact agrees_addLines_of_padded (.refl config _) moved past lineLike padded
  | cons first rest ih =>
    rw [List.cons_append, List.cons_append, addLines, addLines]
    by_cases moved : (addLine config r first).metadata.redirect.isSome
    · rw [if_pos moved, if_pos moved]
      exact .refl config _
    · rw [if_neg moved, if_neg moved]
      refine ih fun awaits header => ?_
      have unseen : ¬ (r.sawContent = true ∨ HasText first) := by
        intro seen
        rw [awaitsHeader_of_sawContent (sawContent_addLine seen)] at awaits
        cases awaits
      rw [not_or, Bool.not_eq_true] at unseen
      have awaited : r.awaitsHeader config := by
        rw [awaitsHeader, Bool.and_eq_true] at awaits ⊢
        exact ⟨by rw [unseen.1]; rfl, awaits.2⟩
      obtain ⟨other, member, hasText⟩ := noHeader awaited header
      rcases List.mem_cons.1 member with rfl | member
      · exact absurd hasText unseen.2
      · exact ⟨other, member, hasText⟩

end Insert

section Return

theorem addLine_of_sameButReturn {line line' : List UInt8}
    (same : ListSource.SameButReturn line line') :
    addLine config r line' = addLine config r line := by
  rcases same with rfl | rfl
  · rfl
  · rw [addLine, addLine, lineText?_return]
    cases lineText? line with
    | none => rfl
    | some text =>
      rw [Option.map_some]
      dsimp only
      rw [Text.trim_concat (by decide)]

theorem addLines_of_sameButReturn {lines lines' : List (List UInt8)}
    (same : List.Forall₂ ListSource.SameButReturn lines lines') :
    addLines config r lines' = addLines config r lines := by
  induction same generalizing r with
  | nil => rfl
  | cons first _ ih => rw [addLines, addLines, addLine_of_sameButReturn first, ih]

end Return

end ListReading

namespace ListSource

section

variable [RegexEngine] {source source' : ListSource} {config : CompileConfig} {r : ListReading}

theorem read_padded {before after after' : List (List UInt8)} {line : List UInt8} {text : Text}
    (ends : ListReading.EndsPreamble config before line text)
    (padded : ListReading.Padded config.privileged after after')
    (lines : source.lines = before ++ line :: after)
    (lines' : source'.lines = before ++ line :: after')
    (read : source.read config = .ok r) :
    ∃ r', source'.read config = .ok r' ∧ ListReading.Agrees config config r r' := by
  have noHeader := ends.noHeader
  unfold ListReading.IsListHeader at noHeader
  unfold ListSource.read at read ⊢
  by_cases required : config.requireHeader
  · rw [if_pos required] at read noHeader ⊢
    obtain ⟨first, rest, rfl⟩ := List.exists_cons_of_ne_nil noHeader
    rw [lines, List.cons_append] at read
    rw [lines', List.cons_append]
    dsimp only at read ⊢
    split at read
    · rename_i header
      cases read
      rw [if_pos header]
      refine ⟨_, rfl, ListReading.agrees_addLines_of_endsPreamble ends.isText ends.content
        ends.noComment (fun awaits => ?_) padded⟩
      rw [ListReading.awaitsHeader, required] at awaits
      simp at awaits
    · cases read
  · rw [if_neg required] at read noHeader ⊢
    cases read
    rw [lines, lines']
    refine ⟨_, rfl, ListReading.agrees_addLines_of_endsPreamble ends.isText ends.content
      ends.noComment (fun _ header => ?_) padded⟩
    by_contra none
    exact noHeader ⟨header, fun other member hasText => none ⟨other, member, hasText⟩⟩

theorem read_of_sameButReturn (failure : source.failure = source'.failure)
    (same : List.Forall₂ SameButReturn source.lines source'.lines) :
    source'.read config = source.read config := by
  have header : ∀ line line' : List UInt8, SameButReturn line line' →
      (lineText? line').map ListReading.isMarkedHeader =
        (lineText? line).map ListReading.isMarkedHeader := by
    rintro line _ (rfl | rfl)
    · rfl
    · rw [ListReading.lineText?_return, Option.map_map]
      exact congrArg (Option.map · _) (funext ListReading.isMarkedHeader_return)
  unfold read
  rw [ListReading.addLines_of_sameButReturn same, ← failure]
  generalize source.lines = lines at same ⊢
  generalize source'.lines = lines' at same ⊢
  cases same with
  | nil => rfl
  | cons first rest =>
    dsimp only
    rw [header _ _ first, ListReading.addLines_of_sameButReturn rest]

/-- If a list compiles to an index, lines that hold no filter can be put in anywhere behind a line
that ends the preamble, and every line feed can be made a carriage return and a line feed: the index
remains the same, byte for byte. -/
theorem compile_dropped_lines {bytes : List UInt8} {config : CompileConfig} {index : ByteArray}
    (compiled : compile ⟨bytes.toByteArray, none⟩ config = .index index) :
    (∀ before line text after after' bytes', Writes bytes (before ++ line :: after) →
      ListReading.EndsPreamble config before line text →
      ListReading.Padded config.privileged after after' → Writes bytes' (before ++ line :: after') →
      compile ⟨bytes'.toByteArray, none⟩ config = .index index) ∧
    compile ⟨(returnLines bytes).toByteArray, none⟩ config = .index index := by
  obtain ⟨r, read⟩ : ∃ r, read ⟨bytes.toByteArray, none⟩ config = .ok r := by
    cases read : ListSource.read ⟨bytes.toByteArray, none⟩ config with
    | error fault =>
      rw [compile_of_read_error read] at compiled
      cases compiled
    | ok r => exact ⟨r, rfl⟩
  constructor
  · intro before line text after after' bytes' writes ends padded writes'
    obtain ⟨r', read', agrees⟩ := read_padded ends padded writes.lines_eq writes'.lines_eq read
    rw [← compile_eq_of_agrees read read' agrees rfl rfl, compiled]
  · obtain ⟨lines', writes', same⟩ := (writes_splitLines bytes).returnLines
    have read' : ListSource.read ⟨(returnLines bytes).toByteArray, none⟩ config = .ok r := by
      rw [← read]
      refine read_of_sameButReturn rfl ?_
      rw [(writes_splitLines bytes).lines_eq, writes'.lines_eq]
      exact same
    rw [← compile_eq_of_agrees read read' (.refl config r) rfl rfl, compiled]

end

/-- A blank line, one that is not text and a comment that would move the list, put in behind the
first filter, and a filter with an unknown option put in behind the second. -/
theorem compile_dropped_lines_four_kinds :
    let line (text : String) : List UInt8 := (Text.encode text.toList).data.toList
    let write (lines : List (List UInt8)) := lines.flatMap (· ++ [lineFeed])
    let bytes := write [line "[Adblock Plus]", line "||ads.example^", line "##.ad"]
    let bytes' := write [line "[Adblock Plus]", line "||ads.example^", [], [0xff],
      line "! Redirect: https://lists.test/", line "##.ad", line "||x.example^$bogus"]
    ∃ index, compile ⟨bytes.toByteArray, none⟩ .standard = .index index ∧
      compile ⟨bytes'.toByteArray, none⟩ .standard = .index index ∧
      compile ⟨(returnLines bytes).toByteArray, none⟩ .standard = .index index := by
  intro line write bytes bytes'
  have stays : (match read ⟨bytes.toByteArray, none⟩ .standard with
      | .ok r => decide (r.metadata.redirect = none)
      | .error _ => false) = true := by
    decide +kernel
  cases read : ListSource.read ⟨bytes.toByteArray, none⟩ .standard with
  | error fault =>
    rw [read] at stays
    cases stays
  | ok r =>
    rw [read, decide_eq_true_eq] at stays
    have compiled := compile_of_read_ok read
    unfold ListReading.outcome at compiled
    rw [stays] at compiled
    obtain ⟨unchanged, returns⟩ := compile_dropped_lines compiled
    have comment : lineText? (line "! Redirect: https://lists.test/") =
        some "! Redirect: https://lists.test/".toList := by decide +kernel
    have unknown : lineText? (line "||x.example^$bogus") = some "||x.example^$bogus".toList := by
      decide +kernel
    have blank : lineText? [] = some [] := by decide +kernel
    have ends : ListReading.EndsPreamble .standard [line "[Adblock Plus]"] (line "||ads.example^")
        "||ads.example^".toList := ⟨by decide +kernel, by decide, by decide, nofun⟩
    refine ⟨_, compiled, ?_, returns⟩
    refine unchanged _ _ _ _ _ bytes' (writes_flatMap (by decide +kernel)) ends ?_
      (writes_flatMap (by decide +kernel))
    exact .insert (.blank blank rfl) (.insert (.notText (by decide +kernel))
      (.insert (.comment comment (by decide)) (.keep _ (.insert (.noFilter unknown rfl) .nil))))

end ListSource

end ContentBlocker
