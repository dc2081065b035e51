import ContentBlocker.Proofs.Pattern.Bars
import ContentBlocker.Proofs.Pattern.Members
import ContentBlocker.Proofs.Reference.Engine
import ContentBlocker.Proofs.Regex.Runs
/-!
# The source of a pattern matches what the pattern says

The parts of a pattern are compared with the expressions that stand for them, one by one, by the
stretch of an address that each covers. The text of a pattern is read into parts after its wildcards
have been thinned out; that what is left of the text says the same as the whole is known by then.
-/

namespace ContentBlocker

open Regex Text.Covers

namespace Pattern

variable {matchCase : Bool} {s text : Text} {i j : Nat}

section Openings

variable {mode : Mode} (isMode : mode = { ignoreCase := !matchCase })
include isMode

theorem spans_scheme :
    Spans s (.repeated (.set (mode.bracket (.unionAll [.word, .single '-']))) 1 none) i j ↔
      ∃ scheme, s.Covers i scheme j ∧ scheme ≠ [] ∧
        ∀ c ∈ scheme, Text.isWordChar c = true ∨ c = '-' := by
  subst isMode
  simp only [spans_many, mem_scheme, Nat.one_le_iff_ne_zero, ne_eq, List.length_eq_zero_iff]

theorem spans_slashes : Spans s (.repeated (.set (mode.literal '/')) 1 none) i j ↔
    ∃ slashes, s.Covers i slashes j ∧ slashes ≠ [] ∧ ∀ c ∈ slashes, c = '/' := by
  subst isMode
  simp only [spans_many, mem_literal_of_mark (b := '/') (by decide) (by decide),
    Nat.one_le_iff_ne_zero, ne_eq, List.length_eq_zero_iff]

theorem spans_labels :
    Spans s (.repeated (.cat
        (.repeated (.set (.compl (mode.bracket (.unionAll [.single '/'])))) 1 none)
        (.set (mode.literal '.'))) 0 (some 1)) i j ↔
      ∃ labels, s.Covers i labels j ∧
        (labels = [] ∨ ∃ name, name ≠ [] ∧ '/' ∉ name ∧ labels = name ++ ['.']) := by
  subst isMode
  rw [spans_optional]
  constructor
  · rintro (same | span)
    · exact ⟨[], covers_nil.2 same, .inl rfl⟩
    · cases span with
      | @cat _ _ _ m _ label dot =>
        obtain ⟨name, covers, long, plain⟩ := spans_many.1 label
        obtain ⟨c, last, member⟩ := spans_set_iff_covers.1 dot
        rw [mem_literal_of_mark (by decide) (by decide)] at member
        subst member
        refine ⟨name ++ ['.'], covers.append last, .inr ⟨name, ?_, ?_, rfl⟩⟩
        · exact List.ne_nil_of_length_pos long
        · intro slash
          exact mem_label.1 (plain _ slash) rfl
  · rintro ⟨labels, covers, rfl | ⟨name, nonempty, noSlash, rfl⟩⟩
    · exact .inl (covers_nil.1 covers)
    · obtain ⟨m, label, dot⟩ := covers.split
      refine .inr (.cat (spans_many.2 ⟨name, label, ?_, ?_⟩)
        (spans_set_iff_covers.2 ⟨'.', dot, ?_⟩))
      · exact List.length_pos_iff.2 nonempty
      · intro c there
        refine mem_label.2 ?_
        rintro rfl
        exact noSlash there
      · exact (mem_literal_of_mark (by decide) (by decide)).2 rfl

theorem spans_host : Spans s (catAll (Opening.host.regexes mode)) i j ↔
    i = 0 ∧ ∃ front, s.Covers 0 front j ∧ LeadsToHost front := by
  simp only [Opening.regexes, spans_catAll_cons, spans_scheme isMode, spans_slashes isMode,
    spans_labels isMode]
  subst isMode
  constructor
  · rintro ⟨_, atStart, _, ⟨scheme, first, named⟩, _, colon, _, ⟨slashes, third, some⟩, _,
      ⟨labels, fourth, below⟩, last⟩
    obtain ⟨rfl, rfl⟩ := spans_start.1 atStart
    obtain ⟨c, second, member⟩ := spans_set_iff_covers.1 colon
    rw [mem_literal_of_mark (by decide) (by decide)] at member
    obtain ⟨rfl, -⟩ := spans_empty.1 last
    subst member
    refine ⟨rfl, scheme ++ ':' :: (slashes ++ labels), ?_, scheme, slashes, labels, rfl, named,
      some, below⟩
    exact first.append (covers_cons.2 ⟨_, second, third.append fourth⟩)
  · rintro ⟨rfl, _, covers, scheme, slashes, labels, rfl, named, some, below⟩
    obtain ⟨a, first, rest⟩ := covers.split
    obtain ⟨b, second, rest⟩ := covers_cons.1 rest
    obtain ⟨d, third, fourth⟩ := rest.split
    refine ⟨0, spans_start.2 ⟨rfl, rfl⟩, a, ⟨scheme, first, named⟩, b, ?_, d,
      ⟨slashes, third, some⟩, j, ⟨labels, fourth, below⟩, spans_empty.2 ⟨rfl, fourth.inside⟩⟩
    exact spans_set_iff_covers.2 ⟨':', second, (mem_literal_of_mark (by decide) (by decide)).2 rfl⟩

end Openings

section Parts

theorem spans_wildcard : Spans s (PatternPart.wildcard.regex { ignoreCase := !matchCase }) i j ↔
    ∃ run, s.Covers i run j ∧ '\n' ∉ run := by
  have free : ∀ run : Text, (∀ c ∈ run, c ≠ '\n') ↔ '\n' ∉ run := by
    intro run
    exact ⟨fun all there => all _ there rfl, fun none c there same => none (same ▸ there)⟩
  simp only [PatternPart.regex, spans_many, mem_dot, free, Nat.zero_le, true_and]

theorem spans_separator : Spans s (PatternPart.separator.regex { ignoreCase := !matchCase }) i j ↔
    (∃ c, s.Covers i [c] j ∧ isSeparator c = true) ∨ (i = s.length ∧ j = s.length) := by
  constructor
  · intro span
    cases span with
    | left span =>
      obtain ⟨c, covers, member⟩ := spans_set_iff_covers.1 span
      exact .inl ⟨c, covers, mem_separators.1 member⟩
    | right span => exact .inr (spans_stop.1 span)
  · rintro (⟨c, covers, separator⟩ | atEnd)
    · exact .left (spans_set_iff_covers.2 ⟨c, covers, mem_separators.2 separator⟩)
    · exact .right (spans_stop.2 atEnd)

theorem spans_literal {c : Char} :
    Spans s ((PatternPart.literal c).regex { ignoreCase := !matchCase }) i j ↔
      ∃ d, s.Covers i [d] j ∧ standsFor matchCase c d = true := by
  simp only [PatternPart.regex, spans_set_iff_covers, mem_literal]

/-- A part and what follows it read an address as the character that writes the part does. -/
theorem exists_spans_iff_reads {c : Char} (bar : c ≠ '|') (more : c = '^' → text ≠ ['|'])
    (inside : i ≤ s.length) :
    (∃ j, Spans s ((PatternPart.ofChar c).regex { ignoreCase := !matchCase }) i j ∧
        Reads matchCase text (s.drop j)) ↔ Reads matchCase (c :: text) (s.drop i) := by
  rw [PatternPart.ofChar]
  by_cases star : c = '*'
  · subst star
    rw [if_pos rfl, reads_wildcard]
    simp only [spans_wildcard]
    constructor
    · rintro ⟨j, ⟨run, covers, free⟩, reads⟩
      exact ⟨run, _, covers.drop, free, reads⟩
    · rintro ⟨run, rest, split, free, reads⟩
      obtain ⟨covers, tail⟩ := of_drop inside split
      exact ⟨_, ⟨run, covers, free⟩, tail ▸ reads⟩
  rw [if_neg star]
  by_cases caret : c = '^'
  · subst caret
    rw [if_pos rfl, reads_separator (more rfl)]
    simp only [spans_separator]
    constructor
    · rintro ⟨j, ⟨d, covers, separator⟩ | ⟨rfl, rfl⟩, reads⟩
      · exact .inl ⟨d, _, covers.drop, separator, reads⟩
      · rw [List.drop_length] at reads ⊢
        exact .inr ⟨rfl, reads⟩
    · rintro (⟨d, rest, split, separator, reads⟩ | ⟨atEnd, reads⟩)
      · obtain ⟨covers, tail⟩ := of_drop (a := [d]) inside split
        exact ⟨_, .inl ⟨d, covers, separator⟩, tail ▸ reads⟩
      · have last : i = s.length := Nat.le_antisymm inside (List.drop_eq_nil_iff.1 atEnd)
        exact ⟨i, .inr ⟨last, last⟩, atEnd ▸ reads⟩
  · rw [if_neg caret, reads_literal star caret bar]
    simp only [spans_literal]
    constructor
    · rintro ⟨j, ⟨d, covers, same⟩, reads⟩
      exact ⟨d, _, covers.drop, same, reads⟩
    · rintro ⟨d, rest, split, same, reads⟩
      obtain ⟨covers, tail⟩ := of_drop (a := [d]) inside split
      exact ⟨_, ⟨d, covers, same⟩, tail ▸ reads⟩

/-- The expressions behind the opening of a pattern. -/
def regexesBehind (mode : Mode) (text : Text) (endsHere : Bool) : List Regex :=
  (text.map .ofChar).map (PatternPart.regex mode) ++
    if endsHere then [.anchor mode.lineStop] else []

theorem spans_regexesBehind_cons {mode : Mode} {c : Char} {endsHere : Bool} :
    (∃ k, Spans s (catAll (regexesBehind mode (c :: text) endsHere)) i k) ↔
      ∃ j, Spans s ((PatternPart.ofChar c).regex mode) i j ∧
        ∃ k, Spans s (catAll (regexesBehind mode text endsHere)) j k := by
  simp only [regexesBehind, List.map_cons, List.cons_append, spans_catAll_cons]
  rw [exists_comm]
  simp only [exists_and_left]

/-- A separator in front of the last bar reads as if the bar were not there. -/
theorem spans_separatorBar (inside : i ≤ s.length) :
    (∃ k, Spans s (catAll (regexesBehind { ignoreCase := !matchCase } ['^'] false)) i k) ↔
      Reads matchCase ['^', '|'] (s.drop i) := by
  rw [spans_regexesBehind_cons, PatternPart.ofChar, if_neg (by decide), if_pos rfl,
    reads_separatorBar]
  simp only [spans_separator]
  constructor
  · rintro ⟨j, ⟨d, covers, separator⟩ | ⟨rfl, -⟩, -⟩
    · exact .inl ⟨d, _, covers.drop, separator⟩
    · exact .inr List.drop_length
  · rintro (⟨d, rest, split, separator⟩ | atEnd)
    · have covers := (of_drop (a := [d]) inside split).1
      exact ⟨_, .inl ⟨d, covers, separator⟩, _, spans_empty.2 ⟨rfl, covers.inside⟩⟩
    · have last : i = s.length := Nat.le_antisymm inside (List.drop_eq_nil_iff.1 atEnd)
      exact ⟨i, .inr ⟨last, last⟩, i, spans_empty.2 ⟨rfl, inside⟩⟩

/-- Only the last character in front of a bar can be the separator that the bar is ignored behind. -/
theorem endsHere_cons {c : Char} {closed : Bool}
    (kept : ¬ (c = '^' ∧ text = [] ∧ closed = true)) :
    (closed && (c :: text).getLast? != some '^') = (closed && text.getLast? != some '^') := by
  rcases text with _ | ⟨d, text⟩
  · cases closed with
    | false => rfl
    | true =>
      have other : some c ≠ some '^' := by simpa using kept
      exact bne_iff_ne.2 other
  · rw [List.getLast?_cons_cons]

theorem spans_regexesBehind (noBar : '|' ∉ text) (closed : Bool) (inside : i ≤ s.length) :
    (∃ k, Spans s (catAll (regexesBehind { ignoreCase := !matchCase } text
        (closed && text.getLast? != some '^'))) i k) ↔
      Reads matchCase (text ++ closing closed) (s.drop i) := by
  induction text generalizing i with
  | nil =>
    cases closed with
    | false => exact iff_of_true ⟨i, spans_empty.2 ⟨rfl, inside⟩⟩ .done
    | true =>
      refine (exists_congr fun k => spans_stop).trans (Iff.trans ?_ reads_bar.symm)
      rw [List.drop_eq_nil_iff]
      constructor
      · rintro ⟨k, rfl, -⟩
        exact ⟨rfl, Nat.le_refl _⟩
      · rintro ⟨-, past⟩
        exact ⟨s.length, Nat.le_antisymm inside past, rfl⟩
  | cons c text ih =>
    rw [List.mem_cons, not_or] at noBar
    by_cases ignored : c = '^' ∧ text = [] ∧ closed = true
    · obtain ⟨rfl, rfl, rfl⟩ := ignored
      exact spans_separatorBar inside
    · have more : c = '^' → text ++ closing closed ≠ ['|'] := by
        rintro rfl same
        cases text with
        | nil =>
          apply ignored
          cases closed with
          | false => cases same
          | true => exact ⟨rfl, rfl, rfl⟩
        | cons d text =>
          obtain ⟨rfl, -⟩ := List.cons.inj same
          exact noBar.2 List.mem_cons_self
      rw [endsHere_cons ignored, spans_regexesBehind_cons, List.cons_append,
        ← exists_spans_iff_reads (Ne.symm noBar.1) more inside]
      refine exists_congr fun j => and_congr_right fun span => ?_
      exact ih noBar.2 span.bounds.2

end Parts

/-- The expressions of a pattern occur where the pattern is found. -/
theorem occurs_iff_found {opening : Opening} (noBar : '|' ∉ text) (closed : Bool) :
    Occurs s (AddressPattern.regex { ignoreCase := !matchCase }
        ⟨opening, text.map .ofChar, closed && text.getLast? != some '^'⟩) ↔
      Found matchCase opening (text ++ closing closed) s := by
  have behind : ∀ i j, Spans s (AddressPattern.regex { ignoreCase := !matchCase }
        ⟨opening, text.map .ofChar, closed && text.getLast? != some '^'⟩) i j ↔
      ∃ m, Spans s (catAll (opening.regexes { ignoreCase := !matchCase })) i m ∧
        Spans s (catAll (regexesBehind { ignoreCase := !matchCase } text
          (closed && text.getLast? != some '^'))) m j := by
    intro i j
    rw [AddressPattern.regex, AddressPattern.regexes, List.append_assoc, spans_catAll_append]
    exact Iff.rfl
  have reads : ∀ {m}, m ≤ s.length → ((∃ k, Spans s (catAll (regexesBehind
        { ignoreCase := !matchCase } text (closed && text.getLast? != some '^'))) m k) ↔
      Reads matchCase (text ++ closing closed) (s.drop m)) :=
    fun inside => spans_regexesBehind noBar closed inside
  constructor
  · rintro ⟨i, k, span⟩
    obtain ⟨m, opened, rest⟩ := (behind i k).1 span
    have read := (reads opened.bounds.2).1 ⟨k, rest⟩
    cases opening with
    | anywhere => exact ⟨s.take m, s.drop m, (List.take_append_drop m s).symm, trivial, read⟩
    | address =>
      obtain ⟨rfl, rfl⟩ := spans_start.1 opened
      exact ⟨[], s, rfl, rfl, read⟩
    | host =>
      obtain ⟨rfl, front, covers, leads⟩ := (spans_host rfl).1 opened
      exact ⟨front, s.drop m, covers.of_start, leads, read⟩
  · rintro ⟨front, back, split, begins, read⟩
    obtain ⟨covers, tail⟩ := of_drop (i := 0) (Nat.zero_le _) split
    rw [Nat.zero_add] at covers tail
    obtain ⟨k, rest⟩ := (reads covers.inside).2 (tail ▸ read)
    cases opening with
    | anywhere =>
      exact ⟨_, k, (behind _ k).2 ⟨_, spans_empty.2 ⟨rfl, covers.inside⟩, rest⟩⟩
    | address =>
      obtain rfl : front = [] := begins
      exact ⟨0, k, (behind 0 k).2 ⟨_, spans_start.2 ⟨rfl, rfl⟩, rest⟩⟩
    | host =>
      exact ⟨0, k, (behind 0 k).2 ⟨_, (spans_host rfl).2 ⟨rfl, front, covers, begins⟩, rest⟩⟩

/-- The expression of a pattern whose bars stand at its ends occurs in the addresses that the
pattern matches. -/
theorem occurs_iff_matches {pattern : Text} (ends : BarsAtEnds pattern) :
    Occurs s ((AddressPattern.parse pattern).regex { ignoreCase := !matchCase }) ↔
      Matches matchCase pattern s := by
  obtain ⟨opening, text, closed, noBar, parsed, meaning⟩ := parse_of_barsAtEnds ends
  rw [parsed, meaning, occurs_iff_found noBar]

/-- The source of a pattern is in the usual syntax, and the expression that it writes occurs where
the pattern matches. An engine with ordinary search semantics compiles the source, its size aside,
and then answers as the pattern says. -/
theorem compile_source_matches [RegexEngine] (ordinary : RegexEngine.OrdinarySearch)
    {pattern : Text} (plain : isExpression pattern = false) (ends : BarsAtEnds pattern)
    (matchCase : Bool) :
    (∃ r, Regex.read (!matchCase) (source pattern) = .ok r ∧
        ∀ url, r.Occurs url ↔ Matches matchCase pattern url) ∧
      (RegexEngine.tooLarge (!matchCase) (source pattern) = false →
        (∃ compiled, RegexEngine.compileStandard (!matchCase) (source pattern) = .ok compiled ∧
          ∀ url, RegexEngine.isFound compiled url = true ↔ Matches matchCase pattern url) ∧
        (CompiledPattern.compile (source pattern) matchCase).isValid = true ∧
        ∀ url, (CompiledPattern.compile (source pattern) matchCase).isMatch url = true ↔
          Matches matchCase pattern url) := by
  rw [source_of_not_isExpression plain]
  refine ⟨⟨_, AddressPattern.read_source _ _, fun url => occurs_iff_matches ends⟩, ?_⟩
  intro small
  have valid := AddressPattern.isValid_compile_source ordinary small
  refine ⟨?_, valid, ?_⟩
  · obtain ⟨compiled, made, finds⟩ := AddressPattern.exists_compiled ordinary small
    exact ⟨compiled, made, fun url => (finds url).trans (occurs_iff_matches ends)⟩
  · intro url
    rw [AddressPattern.isMatch_compile_source ordinary, and_iff_right valid,
      occurs_iff_matches ends]

/-- A wildcard between a separator and a bar keeps the bar from being ignored. -/
theorem compile_source_matches_separator_wildcard_bar :
    RegexEngine.OrdinarySearch ∧ isExpression "||ads.example^*|" = false ∧
      BarsAtEnds "||ads.example^*|" ∧
      (∃ r, Regex.read true (source "||ads.example^*|") = .ok r ∧
        ∀ url, r.Occurs url ↔ Matches false "||ads.example^*|" url) ∧
      (RegexEngine.tooLarge true (source "||ads.example^*|") = false →
        (∃ compiled,
          RegexEngine.compileStandard true (source "||ads.example^*|") = .ok compiled ∧
            ∀ url, RegexEngine.isFound compiled url = true ↔
              Matches false "||ads.example^*|" url) ∧
        (CompiledPattern.compile (source "||ads.example^*|") false).isValid = true ∧
        ∀ url, (CompiledPattern.compile (source "||ads.example^*|") false).isMatch url = true ↔
          Matches false "||ads.example^*|" url) :=
  have plain : isExpression "||ads.example^*|" = false := by decide
  have ends : BarsAtEnds "||ads.example^*|" := ⟨.host, "ads.example^*", true, rfl, by decide⟩
  ⟨referenceEngine_ordinarySearch, plain, ends,
    compile_source_matches referenceEngine_ordinarySearch plain ends false⟩

end Pattern

end ContentBlocker
