import ContentBlocker.Text.Basic
/-!
# White space

The characters with the Unicode property White_Space. The byte order mark U+FEFF and the zero width
space U+200B do not have it.
-/

namespace ContentBlocker.Text

/-- Whether `c` has the Unicode property White_Space. -/
def isBlank (c : Char) : Bool :=
  let n := c.toNat
  (9 ≤ n && n ≤ 13) || n = 32 || n = 0x85 || n = 0xA0 || n = 0x1680 ||
    (0x2000 ≤ n && n ≤ 0x200A) || n = 0x2028 || n = 0x2029 || n = 0x202F || n = 0x205F || n = 0x3000

/-- Whether `c` is a space, a tab, a line feed, a form feed or a carriage return. -/
def isAsciiBlank (c : Char) : Bool :=
  let n := c.toNat
  n = 9 || n = 10 || n = 12 || n = 13 || n = 32

/-- `t` without white space at either end. -/
def trim (t : Text) : Text := trimBoth isBlank t

/-- `t` without white space at its start. -/
def trimStart (t : Text) : Text := t.dropWhile isBlank

/-- `t` without any white space. -/
def withoutBlanks (t : Text) : Text := t.filter fun c => !isBlank c

/-- Every character that core counts as white space is blank. -/
theorem isBlank_of_isWhitespace {c : Char} (h : c.isWhitespace = true) : isBlank c = true := by
  simp only [Char.isWhitespace, Bool.or_eq_true, decide_eq_true_eq] at h
  rcases h with ((rfl | rfl) | rfl) | rfl <;> decide

end ContentBlocker.Text
