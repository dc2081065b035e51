import ContentBlocker.Proofs.Filter.Entries
import ContentBlocker.Proofs.Filter.Options
import ContentBlocker.Proofs.Filter.Patterns
/-!
# Directives that policies name

A policy is a list of directives between semicolons. A directive is named by the first word of its
piece, whatever white space stands in front of the word and whatever case it is written in. A policy
option is refused for the directives that report or redirect, as far as the reader sees them: a
directive that is named in small letters, behind one space or none, is always seen.
-/

namespace ContentBlocker

namespace Text

/-- No white space belongs to a word. -/
theorem isWordChar_of_isBlank {c : Char} (blank : isBlank c = true) : isWordChar c = false := by
  have blanks : ∀ n ∈ [9, 10, 11, 12, 13, 32, 0x85, 0xA0, 0x1680, 0x2000, 0x2001, 0x2002, 0x2003,
      0x2004, 0x2005, 0x2006, 0x2007, 0x2008, 0x2009, 0x200A, 0x2028, 0x2029, 0x202F, 0x205F,
      0x3000], isWordChar (Char.ofNat n) = false := by
    decide +kernel
  have known := blanks c.toNat (by
    simp only [isBlank, Bool.or_eq_true, Bool.and_eq_true, decide_eq_true_eq] at blank
    simp only [List.mem_cons, List.not_mem_nil, or_false]
    omega)
  rwa [Char.ofNat_toNat] at known

end Text

namespace OptionValue

/-- The first word of a piece of a policy. -/
def firstWord (piece : Text) : Text := piece.trimStart.takeWhile fun c => !Text.isBlank c

/-- The directive that a piece of a policy names: its first word, in small letters. -/
def directive (piece : Text) : Text := (firstWord piece).lower

/-- A piece that names its directive in small letters, behind one space or none. -/
structure NamesPlainly (piece : Text) : Prop where
  space : piece.takeWhile Text.isBlank = [] ∨ piece.takeWhile Text.isBlank = [' ']
  small : (firstWord piece).lower = firstWord piece

theorem firstWord_append (piece : Text) :
    ∃ rest, piece.trimStart = firstWord piece ++ rest ∧
      ∀ c ∈ rest.head?, Text.isBlank c = true := by
  refine ⟨piece.trimStart.dropWhile fun c => !Text.isBlank c, ?_, ?_⟩
  · rw [firstWord, List.takeWhile_append_dropWhile]
  · intro c first
    have stops := List.head?_dropWhile_not (fun c => !Text.isBlank c) piece.trimStart
    simpa [Option.mem_def.1 first] using stops

theorem trimStart_unspaced (piece : Text) :
    Text.trimStart ((Text.dropFirst? ' ' piece).getD piece) = piece.trimStart := by
  cases piece with
  | nil => rfl
  | cons c rest =>
    by_cases space : c = ' '
    · simp [Text.dropFirst?, Text.trimStart, space, show Text.isBlank ' ' = true by decide]
    · simp [Text.dropFirst?, space]

/-- Without one space in front a piece begins with its first word, if there is no other white
space. -/
theorem unspaced_eq_trimStart_iff (piece : Text) :
    (Text.dropFirst? ' ' piece).getD piece = piece.trimStart ↔
      piece.takeWhile Text.isBlank = [] ∨ piece.takeWhile Text.isBlank = [' '] := by
  cases piece with
  | nil => simp [Text.dropFirst?, Text.trimStart]
  | cons c rest =>
    by_cases space : c = ' '
    · have kept : rest = rest.dropWhile Text.isBlank ↔ rest.takeWhile Text.isBlank = [] := by
        rw [eq_comm, List.dropWhile_eq_self_iff, List.takeWhile_eq_nil_iff]
        rfl
      simpa [Text.dropFirst?, Text.trimStart, space, show Text.isBlank ' ' = true by decide]
        using kept
    · cases blank : Text.isBlank c with
      | true =>
        have shorter := List.length_dropWhile_le Text.isBlank rest
        have dropped : c :: rest ≠ rest.dropWhile Text.isBlank := by
          intro same
          rw [← same, List.length_cons] at shorter
          omega
        simp [Text.dropFirst?, Text.trimStart, space, blank, dropped]
      | false => simp [Text.dropFirst?, Text.trimStart, space, blank]

/-- The forbidden directives are words in small letters, and none begins with another one. -/
theorem of_mem_forbiddenDirectives {a : Text} (member : a ∈ forbiddenDirectives) :
    a ≠ [] ∧ (∀ c ∈ a, Text.isBlank c = false) ∧ a.lower = a ∧
      ∀ b ∈ forbiddenDirectives, a <+: b → a = b := by
  have all : ∀ a ∈ forbiddenDirectives, a ≠ [] ∧ a.any Text.isBlank = false ∧ a.lower = a ∧
      ∀ b ∈ forbiddenDirectives, a <+: b → a = b := by decide
  obtain ⟨written, noBlank, small, apart⟩ := all a member
  exact ⟨written, by simpa using noBlank, small, apart⟩

/-- A piece that names a forbidden directive is seen to do so exactly if it names it plainly. -/
theorem startsForbidden_iff {piece : Text} (forbidden : directive piece ∈ forbiddenDirectives) :
    startsForbidden piece = true ↔ NamesPlainly piece := by
  unfold startsForbidden
  dsimp only
  constructor
  · intro seen
    obtain ⟨name, member, here⟩ := List.any_eq_true.1 seen
    simp only [Bool.and_eq_true, List.isPrefixOf_iff_prefix] at here
    obtain ⟨⟨rest, split⟩, -⟩ := here
    obtain ⟨written, noBlank, small, apart⟩ := of_mem_forbiddenDirectives member
    have unspaced : (Text.dropFirst? ' ' piece).getD piece = piece.trimStart := by
      rw [← trimStart_unspaced, ← split]
      obtain ⟨c, tail, rfl⟩ := List.exists_cons_of_ne_nil written
      simp [Text.trimStart, noBlank c]
    have first : firstWord piece = name ++ rest.takeWhile fun c => !Text.isBlank c := by
      rw [firstWord, ← unspaced, ← split, List.takeWhile_append_of_pos]
      simpa using noBlank
    have named : directive piece =
        name ++ Text.lower (rest.takeWhile fun c => !Text.isBlank c) := by
      rw [directive, first, Text.lower, List.map_append]
      exact congrArg (· ++ _) small
    -- the directive that is seen is all of the one that is named, as none begins with another
    have whole := apart _ forbidden ⟨_, named.symm⟩
    refine ⟨(unspaced_eq_trimStart_iff piece).1 unspaced, ?_⟩
    rw [named, List.self_eq_append_right, Text.lower, List.map_eq_nil_iff] at whole
    rw [first, whole, List.append_nil, small]
  · intro plain
    obtain ⟨rest, split, blank⟩ := firstWord_append piece
    rw [directive, plain.small] at forbidden
    rw [(unspaced_eq_trimStart_iff piece).2 plain.space, split]
    refine List.any_eq_true.2 ⟨_, forbidden, ?_⟩
    cases rest with
    | nil => simp
    | cons c rest => simp [Text.isWordChar_of_isBlank (blank c rfl)]

/-- An allowed policy names no forbidden directive plainly. -/
theorem directive_not_mem_of_isAllowedPolicy {policy piece : Text}
    (allowed : isAllowedPolicy policy = true) (member : piece ∈ Text.pieces ';' policy)
    (plain : NamesPlainly piece) : directive piece ∉ forbiddenDirectives := by
  intro forbidden
  have seen := (startsForbidden_iff forbidden).2 plain
  have unseen : (Text.pieces ';' policy).any startsForbidden = false := by
    simpa [isAllowedPolicy] using allowed
  rw [List.any_eq_false] at unseen
  exact unseen piece member seen

end OptionValue

namespace Options

theorem csp_of_add {options options' : Options} {entry : Entry}
    (added : options.add entry = .ok options') :
    options'.csp = options.csp ∨
      options'.csp = some entry.value ∧ OptionValue.isAllowedPolicy entry.value = true := by
  obtain ⟨name, -, set⟩ | ⟨-, ⟨types, -, rfl⟩ | ⟨-, special, -, rfl⟩⟩ := add_cases added
  · cases name with
    | csp =>
      simp only [setNamed] at set
      split at set
      · rename_i allowed
        cases set
        exact .inr ⟨rfl, allowed⟩
      · cases set
    | matchCase | popup | thirdParty | header =>
      cases set
      exact .inl rfl
    | substitute | domain | sitekey =>
      simp only [setNamed] at set
      split at set <;> cases set
      exact .inl rfl
  · left
    split <;> rfl
  · left
    unfold addSpecial
    split <;> rfl

/-- Of the policies that options name, the one that is kept was allowed. -/
theorem isAllowedPolicy_of_read {entries : List Entry} {options : Options}
    (read : entries.foldlM add .absent = .ok options) :
    ∀ policy ∈ options.csp, OptionValue.isAllowedPolicy policy = true := by
  apply foldlM_invariant (P := fun options : Options =>
    ∀ policy ∈ options.csp, OptionValue.isAllowedPolicy policy = true) _ _ read
  · intro options entry options' kept added policy member
    obtain same | ⟨set, allowed⟩ := csp_of_add added
    · exact kept policy (same ▸ member)
    · rw [set] at member
      cases member
      exact allowed
  · intro policy member
    cases member

end Options

namespace UrlFilter

open OptionValue

/-- The policy of a filter that was read from a line names no forbidden directive, neither at its
start nor behind a semicolon, wherever it names a directive in small letters and behind one space or
none. -/
theorem directive_not_mem_forbiddenDirectives [RegexEngine] {privileged : Bool}
    {line policy piece : Text} {filter : UrlFilter}
    (read : Filter.parse privileged line = .ok (.url filter))
    (has : filter.csp = some policy) (member : piece ∈ Text.pieces ';' policy)
    (plain : NamesPlainly piece) : directive piece ∉ forbiddenDirectives := by
  obtain ⟨hasOptions, options, folded, made⟩ := made_of_parse read
  obtain rfl := of_ofParts_eq_ok made
  have allowed := Options.isAllowedPolicy_of_read folded policy has
  exact directive_not_mem_of_isAllowedPolicy allowed member plain

/-- A directive whose name begins as a forbidden one does is none of them. -/
theorem directive_not_mem_forbiddenDirectives_longer :
    let policy : Text := "script-src 'self'; referrers none;\t REPORT-TO x"
    let filter := { plain .blocking "||ads.example^" with csp := some policy, subresource := false }
    let piece : Text := " referrers none"
    Filter.parse false "||ads.example^$csp=script-src 'self'; referrers none;\t REPORT-TO x" =
        .ok (.url filter) ∧
      filter.csp = some policy ∧ piece ∈ Text.pieces ';' policy ∧ NamesPlainly piece ∧
        directive piece ∉ forbiddenDirectives := by
  intro policy filter piece
  have read : Filter.parse false
      "||ads.example^$csp=script-src 'self'; referrers none;\t REPORT-TO x" =
        .ok (.url filter) := by
    decide +kernel
  have member : piece ∈ Text.pieces ';' policy := by decide
  have plain : NamesPlainly piece := ⟨by decide, by decide⟩
  exact ⟨read, rfl, member, plain, directive_not_mem_forbiddenDirectives read rfl member plain⟩

/-- A second space hides a forbidden directive, as capitals and other white space do. -/
theorem not_directive_not_mem_forbiddenDirectives :
    ¬ ∀ privileged line filter policy, Filter.parse privileged line = .ok (.url filter) →
      filter.csp = some policy →
        ∀ piece ∈ Text.pieces ';' policy, directive piece ∉ forbiddenDirectives := by
  intro claimed
  have read : Filter.parse false "||ads.example^$csp=script-src 'self';  report-uri /x" =
      .ok (.url { plain .blocking "||ads.example^" with
        csp := some "script-src 'self';  report-uri /x", subresource := false }) := by
    decide +kernel
  have never := claimed _ _ _ _ read rfl "  report-uri /x" (by decide)
  revert never
  decide

end UrlFilter

end ContentBlocker
