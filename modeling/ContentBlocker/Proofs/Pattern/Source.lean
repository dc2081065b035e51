import ContentBlocker.Pattern.Compiled
import ContentBlocker.Proofs.Pattern.OrdinarySearch
import ContentBlocker.Proofs.Regex.Reading
import ContentBlocker.Proofs.Regex.Spans
import Mathlib.Tactic.Common
/-!
# What the source of an address pattern means

The source that is written for an address pattern is read back as its parts, one expression each, in
order. Characters that mean something in an expression are escaped, so no part changes how another
is read; in particular no source starts with a question mark, which would belong to a repetition in
front of it. An engine with ordinary search semantics therefore finds the source where these
expressions occur one after the other.
-/

namespace ContentBlocker

open Regex

/-- The characters of a separator. -/
def PatternPart.separators : CharSet :=
  .unionAll [.range '\x00' '\x24', .range '\x26' '\x2c', .single '/', .range ':' '@',
    .range '[' '^', .single '\x60', .range '\x7b' '\x7f']

/-- The expression of a part. -/
def PatternPart.regex (mode : Mode) : PatternPart → Regex
  | wildcard => .repeated (.set mode.dot) 0 none
  | separator => .alt (.set (mode.bracket separators)) (.anchor mode.lineStop)
  | literal c => .set (mode.literal c)

/-- The expressions of an opening. -/
def Opening.regexes (mode : Mode) : Opening → List Regex
  | anywhere => []
  | address => [.anchor mode.lineStart]
  | host =>
    [.anchor mode.lineStart,
      .repeated (.set (mode.bracket (.unionAll [.word, .single '-']))) 1 none,
      .set (mode.literal ':'), .repeated (.set (mode.literal '/')) 1 none,
      .repeated (.cat (.repeated (.set (.compl (mode.bracket (.unionAll [.single '/'])))) 1 none)
        (.set (mode.literal '.'))) 0 (some 1)]

namespace AddressPattern

/-- The expressions that make up a pattern, in order. -/
def regexes (mode : Mode) (p : AddressPattern) : List Regex :=
  p.opening.regexes mode ++ p.parts.map (PatternPart.regex mode) ++
    if p.endsHere then [.anchor mode.lineStop] else []

/-- The expression of a pattern. -/
def regex (mode : Mode) (p : AddressPattern) : Regex := catAll (p.regexes mode)

end AddressPattern

section Reading

variable {p : Reader} {ignoreCase : Bool}

/-- Behind a backslash, a character that means something stands for itself. -/
theorem readEscape_isMeta {c : Char} (isMeta : PatternPart.isMeta c = true) (rest : Text) :
    readEscape (c :: rest) = .ok (.char c, rest) := by
  have all : ("\\.+*?()|[]\x7b\x7d^$#&-~" : Text).all fun c =>
      (c ≠ 'x' ∧ c ≠ 'u' ∧ c ≠ 'U') ∧ (namedEscapes.lookup c).isNone ∧
        (controlLetters.lookup c).isNone ∧ c.toNat < 0x80 ∧ c.isAlphanum = false := by
    decide +kernel
  obtain ⟨⟨notX, notSmall, notCapital⟩, named, control, ascii, mark⟩ :=
    of_decide_eq_true (List.all_eq_true.1 all c (List.contains_iff_mem.1 isMeta))
  rw [Option.isNone_iff_eq_none] at named control
  rw [readEscape, named, control]
  · simp [ascii, mark]
  · rintro rfl
    exact notX rfl
  · rintro rfl
    exact notSmall rfl
  · rintro rfl
    exact notCapital rfl

theorem PatternPart.run_literal_meta (mode : p.mode = { ignoreCase }) {c : Char}
    (isMeta : isMeta c = true) (rest : Text) :
    run p ('\\' :: c :: rest) = run (p.push (.set (p.mode.literal c))) rest := by
  refine run_step (mode ▸ rfl) ?_ (Nat.le_succ _)
  show (readEscape (c :: rest) >>= _) = _
  rw [readEscape_isMeta isMeta]
  rfl

theorem PatternPart.run_literal_plain (mode : p.mode = { ignoreCase }) {c : Char}
    (isMeta : isMeta c = false) (rest : Text) :
    run p (c :: rest) = run (p.push (.set (p.mode.literal c))) rest := by
  refine run_step (mode ▸ rfl) ?_ (Nat.le_refl _)
  rw [step]
  all_goals
    rintro rfl
    cases isMeta

theorem readSet_separators (ignoreCase : Bool) (rest : Text) :
    readSet readEscape { ignoreCase }
        ("\\x00-\\x24\\x26-\\x2C\\x2F\\x3A-\\x40\\x5B-\\x5E\\x60\\x7B-\\x7F]" ++ rest) =
      .ok (Mode.bracket { ignoreCase } PatternPart.separators, rest) := by
  rw [readSet]
  refine (readBrackets_range (by decide) (by decide) rfl rfl (by decide)).trans ?_
  refine (readBrackets_range (by decide) (by decide) rfl rfl (by decide)).trans ?_
  refine (readBrackets_hex (by decide) rfl).trans ?_
  refine (readBrackets_range (by decide) (by decide) rfl rfl (by decide)).trans ?_
  refine (readBrackets_range (by decide) (by decide) rfl rfl (by decide)).trans ?_
  refine (readBrackets_hex (by decide) rfl).trans ?_
  refine (readBrackets_range (by decide) (by decide) rfl rfl (by decide)).trans ?_
  exact readBrackets_done rfl

theorem PatternPart.run_separator (mode : p.mode = { ignoreCase }) (rest : Text) :
    run p (separator.source ++ rest) = run (p.push (separator.regex p.mode)) rest := by
  obtain ⟨_, group, outer, names⟩ := p
  obtain rfl := mode
  let inside : Text := "\\x00-\\x24\\x26-\\x2C\\x2F\\x3A-\\x40\\x5B-\\x5E\\x60\\x7B-\\x7F]" ++
    '|' :: '$' :: ')' :: rest
  show run _ ('(' :: '?' :: ':' :: '[' :: inside) = _
  refine (run_step rfl (show step _ _ _ = .ok (_, '[' :: inside) from rfl) ?_).trans ?_
  · simp
  refine (run_set rfl (readSet_separators ignoreCase _) ?_).trans ?_
  · simp [inside]
  refine (run_step rfl (show step _ '|' _ = .ok (_, '$' :: ')' :: rest) from rfl) ?_).trans ?_
  · simp
  refine (run_step rfl (show step _ '$' _ = .ok (_, ')' :: rest) from rfl) ?_).trans ?_
  · simp
  refine (run_step rfl (show step _ ')' _ = .ok (_, rest) from rfl) ?_).trans ?_
  · simp
  rfl

theorem PatternPart.run_wildcard (mode : p.mode = { ignoreCase }) {rest : Text}
    (eager : rest.head? ≠ some '?') :
    run p (wildcard.source ++ rest) = run (p.push (wildcard.regex p.mode)) rest := by
  obtain ⟨_, group, outer, names⟩ := p
  obtain rfl := mode
  show run _ ('.' :: '*' :: rest) = _
  refine (run_step rfl (show step _ '.' _ = .ok (_, '*' :: rest) from rfl) ?_).trans ?_
  · simp
  refine (run_step rfl (show step _ '*' _ = .ok (_, skipLazy rest) from rfl) ?_).trans ?_
  · exact Nat.le_of_eq (congrArg List.length (skipLazy_of_head? eager))
  rw [skipLazy_of_head? eager]
  rfl

theorem PatternPart.source_literal (c : Char) :
    (literal c).source = if isMeta c then ['\\', c] else [c] :=
  rfl

/-- Reading the source of a part adds the expression of the part. -/
theorem PatternPart.run_source (mode : p.mode = { ignoreCase }) (part : PatternPart) {rest : Text}
    (eager : rest.head? ≠ some '?') :
    run p (part.source ++ rest) = run (p.push (part.regex p.mode)) rest := by
  cases part with
  | wildcard => exact run_wildcard mode eager
  | separator => exact run_separator mode rest
  | literal c =>
    cases isMeta : PatternPart.isMeta c with
    | true =>
      rw [source_literal, if_pos isMeta]
      exact run_literal_meta mode isMeta rest
    | false =>
      rw [source_literal, if_neg (Bool.eq_false_iff.1 isMeta)]
      exact run_literal_plain mode isMeta rest

theorem PatternPart.head?_source (part : PatternPart) (rest : Text) :
    (part.source ++ rest).head? ≠ some '?' := by
  cases part with
  | wildcard => exact of_decide_eq_false rfl
  | separator => exact of_decide_eq_false rfl
  | literal c =>
    rw [source_literal]
    split
    · simp
    · rename_i plain
      intro question
      obtain rfl := Option.some.inj question
      exact plain rfl

theorem PatternPart.head?_flatMap_source (parts : List PatternPart) {rest : Text}
    (eager : rest.head? ≠ some '?') : (parts.flatMap source ++ rest).head? ≠ some '?' := by
  cases parts with
  | nil => exact eager
  | cons part parts =>
    rw [List.flatMap_cons, List.append_assoc]
    exact part.head?_source _

theorem PatternPart.run_flatMap_source (mode : p.mode = { ignoreCase }) (parts : List PatternPart)
    {rest : Text} (eager : rest.head? ≠ some '?') : run p (parts.flatMap source ++ rest) =
      run ((parts.map (regex p.mode)).foldl Reader.push p) rest := by
  induction parts generalizing p with
  | nil => rfl
  | cons part parts ih =>
    rw [List.flatMap_cons, List.append_assoc,
      run_source mode part (head?_flatMap_source parts eager)]
    exact ih mode

theorem readSet_scheme (ignoreCase : Bool) (rest : Text) :
    readSet readEscape { ignoreCase } ('\\' :: 'w' :: '\\' :: '-' :: ']' :: rest) =
      .ok (Mode.bracket { ignoreCase } (.unionAll [.word, .single '-']), rest) := by
  rw [readSet]
  refine (readBrackets_more rfl (show stepBracket readEscape _ _ '\\' _ =
    .ok (_, '\\' :: '-' :: ']' :: rest) from rfl) (by simp)).trans ?_
  refine (readBrackets_more rfl (show stepBracket readEscape _ _ '\\' _ =
    .ok (_, ']' :: rest) from rfl) (by simp)).trans ?_
  exact readBrackets_done rfl

theorem readSet_label (ignoreCase : Bool) (rest : Text) :
    readSet readEscape { ignoreCase } ('^' :: '/' :: ']' :: rest) =
      .ok (.compl (Mode.bracket { ignoreCase } (.unionAll [.single '/'])), rest) := by
  rw [readSet]
  refine (readBrackets_more rfl (show stepBracket readEscape _ _ '/' _ =
    .ok (_, ']' :: rest) from rfl) (by simp)).trans ?_
  exact readBrackets_done rfl

theorem Opening.run_source (mode : p.mode = { ignoreCase }) (opening : Opening) {rest : Text}
    (eager : rest.head? ≠ some '?') : run p (opening.source ++ rest) =
      run ((opening.regexes p.mode).foldl Reader.push p) rest := by
  obtain ⟨_, group, outer, names⟩ := p
  obtain rfl := mode
  cases opening with
  | anywhere => rfl
  | address => exact run_step rfl rfl (Nat.le_refl _)
  | host =>
    let labels : Text := '[' :: '^' :: '/' :: ']' :: '+' :: '\\' :: '.' :: ')' :: '?' :: rest
    let slashes : Text := ':' :: '/' :: '+' :: '(' :: '?' :: ':' :: labels
    show run _ ('^' :: '[' :: '\\' :: 'w' :: '\\' :: '-' :: ']' :: '+' :: slashes) = _
    rw [run_step rfl (show step _ '^' _ = .ok (_, _) from rfl) (Nat.le_refl _),
      run_set rfl (readSet_scheme ignoreCase ('+' :: slashes)) (by simp),
      run_step rfl (show step _ '+' _ = .ok (_, slashes) from rfl) (Nat.le_refl _),
      run_step rfl (show step _ ':' _ = .ok (_, _) from rfl) (Nat.le_refl _),
      run_step rfl (show step _ '/' _ = .ok (_, _) from rfl) (Nat.le_refl _),
      run_step rfl (show step _ '+' _ = .ok (_, '(' :: '?' :: ':' :: labels) from rfl) (by simp),
      run_step rfl (show step _ '(' _ = .ok (_, labels) from rfl) (by simp; omega),
      run_set rfl (readSet_label ignoreCase _) (by simp),
      run_step rfl (show step _ '+' _ = .ok (_, '\\' :: '.' :: ')' :: '?' :: rest) from rfl)
        (by simp),
      run_step rfl (show step _ '\\' _ = .ok (_, ')' :: '?' :: rest) from rfl) (by simp),
      run_step rfl (show step _ ')' _ = .ok (_, '?' :: rest) from rfl) (by simp),
      run_step rfl (show step _ '?' _ = .ok (_, skipLazy rest) from rfl)
        (Nat.le_of_eq (congrArg List.length (skipLazy_of_head? eager))),
      skipLazy_of_head? eager]
    rfl

end Reading

namespace AddressPattern

/-- The source of a pattern is read as the expression of the pattern. -/
theorem read_source (p : AddressPattern) (ignoreCase : Bool) :
    Regex.read ignoreCase p.source = .ok (p.regex { ignoreCase }) := by
  let start : Reader := { mode := { ignoreCase } }
  let body := (p.parts.map (PatternPart.regex { ignoreCase })).foldl Reader.push
    ((p.opening.regexes { ignoreCase }).foldl Reader.push start)
  have bodyMode : body.mode = { ignoreCase } := by
    simp only [body, Reader.foldl_push]
    rfl
  have openedMode :
      ((p.opening.regexes { ignoreCase }).foldl Reader.push start).mode = { ignoreCase } := by
    rw [Reader.foldl_push]
  have eager : (if p.endsHere then ['$'] else [] : Text).head? ≠ some '?' := by
    split <;> simp
  have atEnd : run body (if p.endsHere then ['$'] else []) =
      run ((if p.endsHere then [.anchor (Mode.lineStop { ignoreCase })] else []).foldl Reader.push
        body) [] := by
    split
    · exact run_step (bodyMode ▸ rfl) (bodyMode ▸ rfl) (Nat.le_refl _)
    · rfl
  calc run start p.source
    _ = run body (if p.endsHere then ['$'] else []) := by
      rw [source, List.append_assoc, Opening.run_source rfl p.opening
        (PatternPart.head?_flatMap_source p.parts eager),
        PatternPart.run_flatMap_source openedMode p.parts eager, openedMode]
    _ = run ((p.regexes { ignoreCase }).foldl Reader.push start) [] := by
      rw [atEnd, regexes, List.foldl_append, List.foldl_append]
    _ = .ok (p.regex { ignoreCase }) := by
      rw [Reader.foldl_push, List.append_nil, run_nil rfl]
      show Except.ok (altAll [catAll (p.regexes _).reverse.reverse]) = _
      rw [List.reverse_reverse]
      rfl

/-- Only a pattern that says nothing has an empty source. -/
theorem regex_of_source_eq_nil {p : AddressPattern} (none : p.source = []) (ignoreCase : Bool) :
    p.regex { ignoreCase } = .empty := by
  have read := p.read_source ignoreCase
  rw [Regex.read, none, run_nil rfl] at read
  exact (Except.ok.inj read).symm

variable [RegexEngine] (ordinary : RegexEngine.OrdinarySearch)
include ordinary

/-- The source of a pattern that is not too large is compiled, and found where the expression of the
pattern occurs. -/
theorem exists_compiled {p : AddressPattern} {ignoreCase : Bool}
    (small : RegexEngine.tooLarge ignoreCase p.source = false) :
    ∃ compiled, RegexEngine.compileStandard ignoreCase p.source = .ok compiled ∧
      RegexEngine.Finds compiled (p.regex { ignoreCase }) := by
  have read := p.read_source ignoreCase
  have accepted := ordinary.accepts p ignoreCase _ read
  rw [RegexEngine.tooLarge] at small
  cases made : RegexEngine.compileStandard ignoreCase p.source with
  | ok compiled =>
    refine ⟨compiled, rfl, ?_⟩
    cases ignoreCase with
    | false => exact ordinary.exact p _ compiled read made
    | true => exact ordinary.folding p _ compiled read made
  | error fault =>
    cases fault with
    | tooLarge limit => simp [made] at small
    | rejected => exact absurd made accepted

/-- What compiling the source of a pattern yields: everything matches a pattern that says nothing,
and of any other the source is either too large or compiled as a regular expression. -/
theorem compile_source_cases (p : AddressPattern) (matchCase : Bool) :
    (CompiledPattern.compile p.source matchCase = .matchAll ∧
        p.regex { ignoreCase := !matchCase } = .empty) ∨
      (RegexEngine.tooLarge (!matchCase) p.source = true ∧
        ∃ limit, CompiledPattern.compile p.source matchCase = .invalid (.tooLarge limit)) ∨
      ∃ compiled, CompiledPattern.compile p.source matchCase = .standard p.source compiled ∧
        RegexEngine.Finds compiled (p.regex { ignoreCase := !matchCase }) := by
  by_cases blank : p.source = []
  · left
    rw [CompiledPattern.compile, if_pos blank]
    exact ⟨rfl, regex_of_source_eq_nil blank _⟩
  · right
    rw [CompiledPattern.compile, if_neg blank]
    cases large : RegexEngine.tooLarge (!matchCase) p.source with
    | true =>
      left
      refine ⟨rfl, ?_⟩
      unfold RegexEngine.tooLarge at large
      split at large
      · rename_i limit made
        rw [made]
        exact ⟨limit, rfl⟩
      · cases large
    | false =>
      right
      obtain ⟨compiled, made, finds⟩ := exists_compiled ordinary large
      rw [made]
      exact ⟨compiled, rfl, finds⟩

theorem isValid_compile_source {p : AddressPattern} {matchCase : Bool}
    (small : RegexEngine.tooLarge (!matchCase) p.source = false) :
    (CompiledPattern.compile p.source matchCase).isValid = true := by
  rcases compile_source_cases ordinary p matchCase with ⟨made, -⟩ | ⟨large, -⟩ | ⟨compiled, made, -⟩
  · rw [made]
    rfl
  · rw [small] at large
    cases large
  · rw [made]
    rfl

/-- What matching the source of a pattern comes to. -/
theorem isMatch_compile_source (p : AddressPattern) (matchCase : Bool) (s : Text) :
    (CompiledPattern.compile p.source matchCase).isMatch s = true ↔
      (CompiledPattern.compile p.source matchCase).isValid = true ∧
        Occurs s (p.regex { ignoreCase := !matchCase }) := by
  rcases compile_source_cases ordinary p matchCase with ⟨made, none⟩ | ⟨-, limit, made⟩ |
      ⟨compiled, made, finds⟩
  · rw [made, none]
    exact iff_of_true rfl ⟨rfl, 0, 0, spans_empty.2 ⟨rfl, Nat.zero_le _⟩⟩
  · rw [made]
    exact iff_of_false Bool.false_ne_true fun valid => Bool.false_ne_true valid.1
  · rw [made, ← finds s]
    exact (and_iff_right rfl).symm

end AddressPattern

theorem Pattern.source_of_not_isExpression {pattern : Text} (plain : isExpression pattern = false) :
    source pattern = (AddressPattern.parse pattern).source := by
  rw [isExpression, Option.isSome_eq_false_iff, Option.isNone_iff_eq_none] at plain
  rw [source, plain]

end ContentBlocker
