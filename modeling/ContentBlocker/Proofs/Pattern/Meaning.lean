import ContentBlocker.Proofs.Pattern.Words
import ContentBlocker.Text.Folding
import ContentBlocker.Text.Word
import Mathlib.Data.List.Forall2
/-!
# What a pattern says about an address

The direct reading of a pattern, without regular expressions: a pattern may begin anywhere unless
bars in front say otherwise, `*` is any run of characters without a line feed, `^` a separator or
the end of the address, a bar at the end is the end of the address, and every other character stands
for itself. Thinning out the wildcards of a pattern does not change what it says.
-/

namespace ContentBlocker.Pattern

/-- Whether the character `c` of an address is the one that a pattern writes, with or without regard
to case. -/
def standsFor (matchCase : Bool) (written c : Char) : Bool :=
  if matchCase then written == c else Text.sameFold written c

/-- The characters of ASCII that `^` stands for: no letter, no digit, and none of `%`, `-`, `.` and
`_`. -/
def isSeparator (c : Char) : Bool :=
  c.toNat < 0x80 && !(c.isAlphanum || c = '%' || c = '-' || c = '.' || c = '_')

/-- `Reads matchCase pattern url` says that a pattern whose opening has been read takes the
beginning of `url`, character by character. -/
inductive Reads (matchCase : Bool) : Text → Text → Prop
  | done {url : Text} : Reads matchCase [] url
  /-- a wildcard takes any run of characters without a line feed -/
  | wildcard {pattern run url : Text} :
      '\n' ∉ run → Reads matchCase pattern url → Reads matchCase ('*' :: pattern) (run ++ url)
  | separator {pattern url : Text} {c : Char} :
      isSeparator c = true → Reads matchCase pattern url →
        Reads matchCase ('^' :: pattern) (c :: url)
  /-- the end of the address serves as a separator -/
  | separatorAtEnd {pattern : Text} :
      Reads matchCase pattern [] → Reads matchCase ('^' :: pattern) []
  /-- a bar at the end of the pattern is ignored behind a separator -/
  | separatorBar {url : Text} {c : Char} :
      isSeparator c = true → Reads matchCase ['^', '|'] (c :: url)
  /-- elsewhere it is the end of the address -/
  | bar : Reads matchCase ['|'] []
  | literal {pattern url : Text} {written c : Char} :
      written ≠ '*' → written ≠ '^' → written ≠ '|' → standsFor matchCase written c = true →
        Reads matchCase pattern url → Reads matchCase (written :: pattern) (c :: url)

/-- The beginnings of addresses that `||` stands for: a scheme, a colon, slashes and, if the host is
to begin behind one of its dots, what stands in front of the dot. -/
def LeadsToHost (front : Text) : Prop :=
  ∃ scheme slashes labels : Text, front = scheme ++ ':' :: (slashes ++ labels) ∧
    (scheme ≠ [] ∧ ∀ c ∈ scheme, Text.isWordChar c = true ∨ c = '-') ∧
    (slashes ≠ [] ∧ ∀ c ∈ slashes, c = '/') ∧
    (labels = [] ∨ ∃ name, name ≠ [] ∧ '/' ∉ name ∧ labels = name ++ ['.'])

/-- The beginnings of addresses in front of a match. -/
def Begins : Opening → Text → Prop
  | .anywhere, _ => True
  | .address, front => front = []
  | .host, front => LeadsToHost front

/-- Some part of an address is what a pattern reads behind its opening. -/
def Found (matchCase : Bool) (opening : Opening) (pattern url : Text) : Prop :=
  ∃ front back, url = front ++ back ∧ Begins opening front ∧ Reads matchCase pattern back

/-- What a pattern that is no regular expression says about an address. -/
def Matches (matchCase : Bool) (pattern url : Text) : Prop :=
  match pattern with
  | '|' :: '|' :: rest => Found matchCase .host rest url
  | '|' :: rest => Found matchCase .address rest url
  | pattern => Found matchCase .anywhere pattern url

/-- The bars that write an opening. -/
def bars : Opening → Text
  | .anywhere => []
  | .address => ['|']
  | .host => ['|', '|']

/-- The bar that closes a pattern. -/
def closing (closed : Bool) : Text := if closed then ['|'] else []

/-- The bars of a pattern stand at its ends: at most two in front, at most one behind. -/
def BarsAtEnds (pattern : Text) : Prop :=
  ∃ opening middle closed, pattern = bars opening ++ (middle ++ closing closed) ∧ '|' ∉ middle

section Reading

variable {matchCase : Bool} {pattern url : Text} {c : Char}

theorem reads_wildcard : Reads matchCase ('*' :: pattern) url ↔
    ∃ run rest, url = run ++ rest ∧ '\n' ∉ run ∧ Reads matchCase pattern rest := by
  constructor
  · intro reads
    cases reads with
    | wildcard run rest => exact ⟨_, _, rfl, run, rest⟩
    | literal star => exact absurd rfl star
  · rintro ⟨run, rest, rfl, free, reads⟩
    exact .wildcard free reads

theorem reads_bar : Reads matchCase ('|' :: pattern) url ↔ pattern = [] ∧ url = [] := by
  constructor
  · intro reads
    cases reads with
    | bar => exact ⟨rfl, rfl⟩
    | literal _ _ bar => exact absurd rfl bar
  · rintro ⟨rfl, rfl⟩
    exact .bar

theorem reads_separator (more : pattern ≠ ['|']) : Reads matchCase ('^' :: pattern) url ↔
    (∃ c rest, url = c :: rest ∧ isSeparator c = true ∧ Reads matchCase pattern rest) ∨
      (url = [] ∧ Reads matchCase pattern []) := by
  constructor
  · intro reads
    cases reads with
    | separator sep rest => exact .inl ⟨_, _, rfl, sep, rest⟩
    | separatorAtEnd rest => exact .inr ⟨rfl, rest⟩
    | separatorBar => exact absurd rfl more
    | literal _ caret => exact absurd rfl caret
  · rintro (⟨c, rest, rfl, sep, reads⟩ | ⟨rfl, reads⟩)
    · exact .separator sep reads
    · exact .separatorAtEnd reads

theorem reads_separatorBar : Reads matchCase ['^', '|'] url ↔
    (∃ c rest, url = c :: rest ∧ isSeparator c = true) ∨ url = [] := by
  constructor
  · intro reads
    cases reads with
    | separator sep => exact .inl ⟨_, _, rfl, sep⟩
    | separatorAtEnd => exact .inr rfl
    | separatorBar sep => exact .inl ⟨_, _, rfl, sep⟩
    | literal _ caret => exact absurd rfl caret
  · rintro (⟨c, rest, rfl, sep⟩ | rfl)
    · exact .separatorBar sep
    · exact .separatorAtEnd .bar

theorem reads_literal (star : c ≠ '*') (caret : c ≠ '^') (bar : c ≠ '|') :
    Reads matchCase (c :: pattern) url ↔
      ∃ d rest, url = d :: rest ∧ standsFor matchCase c d = true ∧
        Reads matchCase pattern rest := by
  constructor
  · intro reads
    cases reads with
    | wildcard => exact absurd rfl star
    | separator => exact absurd rfl caret
    | separatorAtEnd => exact absurd rfl caret
    | separatorBar => exact absurd rfl caret
    | bar => exact absurd rfl bar
    | literal _ _ _ same rest => exact ⟨_, _, rfl, same, rest⟩
  · rintro ⟨d, rest, rfl, same, reads⟩
    exact .literal star caret bar same reads

/-- Characters that stand for themselves take as many characters of the address. -/
theorem reads_literals {written : Text} (plain : ∀ c ∈ written, c ≠ '*' ∧ c ≠ '^' ∧ c ≠ '|') :
    Reads matchCase (written ++ pattern) url ↔ ∃ taken rest, url = taken ++ rest ∧
      List.Forall₂ (fun b c => standsFor matchCase b c = true) written taken ∧
      Reads matchCase pattern rest := by
  induction written generalizing url with
  | nil =>
    constructor
    · intro reads
      exact ⟨[], url, rfl, .nil, reads⟩
    · rintro ⟨_, rest, rfl, same, reads⟩
      cases same
      exact reads
  | cons b written ih =>
    obtain ⟨star, caret, bar⟩ := plain b List.mem_cons_self
    have rest := fun url => @ih url fun c there => plain c (List.mem_cons_of_mem b there)
    simp only [List.cons_append, reads_literal star caret bar, rest]
    constructor
    · rintro ⟨c, _, rfl, agree, taken, left, rfl, same, reads⟩
      exact ⟨c :: taken, left, rfl, .cons agree same, reads⟩
    · rintro ⟨_, left, rfl, same, reads⟩
      cases same with
      | cons agree same => exact ⟨_, _, rfl, agree, _, left, rfl, same, reads⟩

/-- Two wildcards side by side say what one says. -/
theorem reads_wildcard_wildcard :
    Reads matchCase ('*' :: '*' :: pattern) url ↔ Reads matchCase ('*' :: pattern) url := by
  simp only [reads_wildcard]
  constructor
  · rintro ⟨run, _, rfl, free, run', rest, rfl, free', reads⟩
    exact ⟨run ++ run', rest, by simp, by simp [free, free'], reads⟩
  · rintro ⟨run, rest, rfl, free, reads⟩
    exact ⟨run, rest, rfl, free, [], rest, rfl, by simp, reads⟩

/-- Patterns that say the same still do so behind the same character. -/
theorem reads_cons_congr {pattern' : Text} (bar : c ≠ '|')
    (last : pattern = ['|'] ↔ pattern' = ['|'])
    (same : ∀ url, Reads matchCase pattern url ↔ Reads matchCase pattern' url) :
    Reads matchCase (c :: pattern) url ↔ Reads matchCase (c :: pattern') url := by
  by_cases star : c = '*'
  · subst star
    simp only [reads_wildcard, same]
  by_cases caret : c = '^'
  · subst caret
    by_cases ends : pattern = ['|']
    · rw [ends, last.1 ends]
    · simp only [reads_separator ends, reads_separator (mt last.2 ends), same]
  · simp only [reads_literal star caret bar, same]

theorem collapse_eq_nil : AddressPattern.collapse pattern = [] ↔ pattern = [] := by
  fun_induction AddressPattern.collapse pattern <;> simp_all

theorem collapse_eq_bar : AddressPattern.collapse pattern = ['|'] ↔ pattern = ['|'] := by
  fun_induction AddressPattern.collapse pattern <;> simp_all [collapse_eq_nil]

theorem reads_collapse :
    Reads matchCase (AddressPattern.collapse pattern) url ↔ Reads matchCase pattern url := by
  fun_induction AddressPattern.collapse pattern generalizing url with
  | case1 rest ih => rw [ih, reads_wildcard_wildcard]
  | case2 c rest _ ih =>
    by_cases bar : c = '|'
    · rw [bar, reads_bar, reads_bar, collapse_eq_nil]
    · exact reads_cons_congr bar collapse_eq_bar fun url => ih
  | case3 => exact Iff.rfl

/-- A wildcard at the end says nothing. -/
theorem reads_append_wildcard (noBar : '|' ∉ pattern) :
    Reads matchCase (pattern ++ ['*']) url ↔ Reads matchCase pattern url := by
  induction pattern generalizing url with
  | nil =>
    refine iff_of_true ?_ .done
    exact reads_wildcard.2 ⟨[], url, rfl, by simp, .done⟩
  | cons c rest ih =>
    rw [List.mem_cons, not_or] at noBar
    refine reads_cons_congr (Ne.symm noBar.1) ?_ fun url => ih noBar.2
    refine iff_of_false ?_ ?_
    · cases rest <;> simp
    · rintro rfl
      exact noBar.2 List.mem_cons_self

theorem reads_dropLast? (noBar : '|' ∉ pattern) :
    Reads matchCase ((Text.dropLast? '*' pattern).getD pattern) url ↔
      Reads matchCase pattern url := by
  cases dropped : Text.dropLast? '*' pattern with
  | none => exact Iff.rfl
  | some rest =>
    obtain rfl := Text.dropLast?_eq_some.1 dropped
    rw [List.mem_append, not_or] at noBar
    exact (reads_append_wildcard noBar.1).symm

/-- What may begin anywhere may as well begin with a wildcard. -/
theorem found_wildcard :
    Found matchCase .anywhere ('*' :: pattern) url ↔ Found matchCase .anywhere pattern url := by
  constructor
  · rintro ⟨front, back, rfl, -, reads⟩
    obtain ⟨run, rest, rfl, -, reads⟩ := reads_wildcard.1 reads
    exact ⟨front ++ run, rest, by simp, trivial, reads⟩
  · rintro ⟨front, back, rfl, -, reads⟩
    exact ⟨front, back, rfl, trivial, reads_wildcard.2 ⟨[], back, rfl, by simp, reads⟩⟩

theorem found_dropFirst? :
    Found matchCase .anywhere ((Text.dropFirst? '*' pattern).getD pattern) url ↔
      Found matchCase .anywhere pattern url := by
  cases dropped : Text.dropFirst? '*' pattern with
  | none => exact Iff.rfl
  | some rest =>
    obtain rfl := Text.dropFirst?_eq_some.1 dropped
    exact found_wildcard.symm

end Reading

end ContentBlocker.Pattern
