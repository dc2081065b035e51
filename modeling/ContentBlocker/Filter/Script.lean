import ContentBlocker.Filter.Basic
import ContentBlocker.Text.Digits
/-!
# Scripts

A script is a sequence of calls between semicolons; a call is a command with arguments between white
space. Single quotes hide white space and semicolons, and a backslash hides whatever follows it, so
that any text can be written as one argument. `Script.symbols` decides what each character of a
script is for, and `Script.calls` gathers the calls.
-/

namespace ContentBlocker.Script

/-- What a character of a script, or an escape, is for. -/
inductive Symbol where
  | letter (c : Char)
  /-- a quote, which begins a word even if nothing stands in it -/
  | quote
  /-- white space between words -/
  | gap
  /-- a semicolon between calls -/
  | stop
  deriving DecidableEq, Repr

/-- The character that a backslash in front of `c` writes. -/
def escaped (c : Char) : Char :=
  if c = 'n' then '\n' else if c = 'r' then '\r' else if c = 't' then '\t' else c

/-- The character of a code of at most four hexadecimal digits, the first of which may be a plus
sign instead. -/
def codeChar? : Text → Option Char
  | '+' :: digits => Text.hexChar? digits
  | digits => Text.hexChar? digits

/-- What a character outside of escapes is for, inside or outside of quotes. -/
def classify (quoted : Bool) (c : Char) : Symbol :=
  if c = '\'' then .quote
  else if quoted then .letter c
  else if c = ';' then .stop
  else if Text.isBlank c then .gap
  else .letter c

/-- The symbols of a script. A code that writes no character is left out, and so is a backslash at
the end. -/
def symbols (quoted : Bool) : Text → List Symbol
  | [] => []
  | '\\' :: 'u' :: rest =>
    (codeChar? (rest.take 4)).toList.map .letter ++ symbols quoted (rest.drop 4)
  | ['\\'] => []
  | '\\' :: c :: rest => .letter (escaped c) :: symbols quoted rest
  | c :: rest => classify quoted c :: symbols (if c = '\'' then !quoted else quoted) rest
termination_by script => script.length
decreasing_by all_goals simp only [List.length_drop, List.length_cons]; omega

/-- The calls of a sequence of symbols, where `word` is the word that has begun and `words` are
those of the present call in front of it. -/
def calls (words : List Text) (word : Option Text) : List Symbol → List SnippetCall
  | .letter c :: rest => calls words (some (word.getD [] ++ [c])) rest
  | .quote :: rest => calls words (some (word.getD [])) rest
  | .gap :: rest => calls (words ++ word.toList) none rest
  | .stop :: rest => finished (words ++ word.toList) ++ calls [] none rest
  | [] => finished (words ++ word.toList)
where
  /-- The call that words make, if there are any. -/
  finished : List Text → List SnippetCall
    | [] => []
    | command :: arguments => [{ command, arguments }]

/-- The calls of a script. -/
def parse (script : Text) : List SnippetCall := calls [] none (symbols false script)

end ContentBlocker.Script
