import ContentBlocker.Regex.Grammar
import Mathlib.Tactic.Common
/-!
# Reading one part of a source after another

Where white space is not skipped, reading takes one step at each character that begins a part: of a
source, or of a set in brackets.
-/

namespace ContentBlocker.Regex

theorem skip_of_not_spaced {mode : Mode} (plain : mode.spaced = false) (t : Text) :
    skip mode t = t := by
  rw [skip, plain]
  rfl

/-- A member of a bracketed set is read. -/
theorem readBrackets_more {escape : Text → Except SourceFault (Escape × Text)} {mode : Mode}
    {b b' : Brackets} {c : Char} {rest after : Text} (plain : mode.spaced = false)
    (step : stepBracket escape mode b c rest = .ok (.more b', after))
    (shorter : after.length ≤ rest.length) :
    readBrackets escape mode b (c :: rest) = readBrackets escape mode b' after := by
  rw [readBrackets, skip_of_not_spaced plain]
  dsimp only
  rw [step]
  exact if_pos (Nat.lt_succ_of_le shorter)

theorem readBrackets_done {escape : Text → Except SourceFault (Escape × Text)} {mode : Mode}
    {inner : Bracket} {rest : Text} (plain : mode.spaced = false) :
    readBrackets escape mode ⟨inner, []⟩ (']' :: rest) = .ok (inner.close mode, rest) := by
  rw [readBrackets, skip_of_not_spaced plain]
  rfl

theorem readItem_hex {w x c : Char} (rest : Text) (brace : w ≠ '\x7b')
    (read : Text.hexChar? [w, x] = some c) :
    readItem readEscape ('\\' :: 'x' :: w :: x :: rest) = .ok (.char c, rest) := by
  have hex : readHex 2 (w :: x :: rest) = .ok (c, rest) := by
    rw [readHex]
    · simp [read]
    · rintro more ⟨⟩
      exact brace rfl
  rw [readItem, readEscape, hex]
  rfl

/-- A range between two hexadecimal escapes is read. -/
theorem readBrackets_range {ignoreCase : Bool} {b : Brackets} {w x y z first last : Char}
    {rest : Text} (firstBrace : w ≠ '\x7b') (lastBrace : y ≠ '\x7b')
    (readFirst : Text.hexChar? [w, x] = some first) (readLast : Text.hexChar? [y, z] = some last)
    (ordered : first ≤ last) :
    readBrackets readEscape { ignoreCase } b
        ('\\' :: 'x' :: w :: x :: '-' :: '\\' :: 'x' :: y :: z :: rest) =
      readBrackets readEscape { ignoreCase } { b with inner := b.inner.add (.range first last) }
        rest := by
  have member : readMember readEscape { ignoreCase }
      ('\\' :: 'x' :: w :: x :: '-' :: '\\' :: 'x' :: y :: z :: rest) =
        .ok (.range first last, rest) := by
    rw [readMember, readItem_hex _ firstBrace readFirst]
    simp only [skip, Bool.false_eq_true, if_false, List.head?_cons, bind, Except.bind,
      readItem_hex rest lastBrace readLast, ordered, if_true]
    rfl
  refine readBrackets_more rfl ?_ ?_
  · show (readMember _ _ _ >>= _) = _
    rw [member]
    rfl
  · simp only [List.length_cons]
    omega

/-- A hexadecimal escape in front of another escape is read. -/
theorem readBrackets_hex {ignoreCase : Bool} {b : Brackets} {w x c : Char} {rest : Text}
    (brace : w ≠ '\x7b') (read : Text.hexChar? [w, x] = some c) :
    readBrackets readEscape { ignoreCase } b ('\\' :: 'x' :: w :: x :: '\\' :: rest) =
      readBrackets readEscape { ignoreCase } { b with inner := b.inner.add (.single c) }
        ('\\' :: rest) := by
  have member : readMember readEscape { ignoreCase } ('\\' :: 'x' :: w :: x :: '\\' :: rest) =
      .ok (.single c, '\\' :: rest) := by
    rw [readMember, readItem_hex _ brace read]
    rfl
  refine readBrackets_more rfl ?_ ?_
  · show (readMember _ _ _ >>= _) = _
    rw [member]
    rfl
  · simp only [List.length_cons]
    omega

/-- A part of a source is read. -/
theorem run_step {p p' : Reader} {c : Char} {rest after : Text} (plain : p.mode.spaced = false)
    (read : step p c rest = .ok (p', after)) (shorter : after.length ≤ rest.length) :
    run p (c :: rest) = run p' after := by
  rw [run, skip_of_not_spaced plain]
  dsimp only
  rw [read]
  exact if_pos (Nat.lt_succ_of_le shorter)

theorem run_set {p : Reader} {members : CharSet} {rest after : Text}
    (plain : p.mode.spaced = false) (read : readSet readEscape p.mode rest = .ok (members, after))
    (shorter : after.length ≤ rest.length) :
    run p ('[' :: rest) = run (p.push (.set members)) after := by
  refine run_step plain ?_ shorter
  show (readSet readEscape p.mode rest >>= _) = _
  rw [read]
  rfl

theorem run_nil {p : Reader} (plain : p.mode.spaced = false) : run p [] = p.finish := by
  rw [run, skip_of_not_spaced plain]

theorem skipLazy_of_head? {t : Text} (eager : t.head? ≠ some '?') : skipLazy t = t := by
  rcases t with _ | ⟨c, t⟩
  · rfl
  · rw [skipLazy]
    rintro rest ⟨⟩
    exact eager rfl

theorem Reader.foldl_push (p : Reader) (rs : List Regex) :
    rs.foldl Reader.push p =
      { p with group :=
        { p.group with
          parts := rs.reverse ++ p.group.parts
          repeatable := p.group.repeatable || !rs.isEmpty } } := by
  induction rs generalizing p with
  | nil => simp
  | cons r rs ih =>
    rw [List.foldl_cons, ih]
    simp [Reader.push, Branches.push]

end ContentBlocker.Regex
