import ContentBlocker.Filter.Script
/-!
# Any calls can be written as a script

A word is written between quotes, with a backslash in front of every backslash and every quote in
it. The words of a call are written with spaces between them, and the calls of a script with
semicolons. Reading such a script gives the calls back, whatever characters their words are made of,
and also if words are empty.
-/

namespace ContentBlocker.Script

/-- A word with a backslash in front of every backslash and every quote. -/
def escapeWord (word : Text) : Text :=
  word.flatMap fun c => if c = '\\' ∨ c = '\'' then ['\\', c] else [c]

/-- A word between quotes. -/
def writeWord (word : Text) : Text := '\'' :: (escapeWord word ++ ['\''])

/-- Words with spaces between them. -/
def writeWords (words : List Text) : Text := [' '].intercalate (words.map writeWord)

/-- A call: its command and its arguments. -/
def writeCall (call : SnippetCall) : Text := writeWords (call.command :: call.arguments)

/-- Calls with semicolons between them. -/
def write (calls : List SnippetCall) : Text := [';'].intercalate (calls.map writeCall)

theorem writeWords_singleton (word : Text) : writeWords [word] = writeWord word :=
  List.intercalate_singleton

theorem writeWords_cons_cons (word next : Text) (words : List Text) :
    writeWords (word :: next :: words) = writeWord word ++ ' ' :: writeWords (next :: words) := by
  simp [writeWords, List.intercalate_cons_cons]

theorem write_singleton (call : SnippetCall) : write [call] = writeCall call :=
  List.intercalate_singleton

theorem write_cons_cons (call next : SnippetCall) (calls : List SnippetCall) :
    write (call :: next :: calls) = writeCall call ++ ';' :: write (next :: calls) := by
  simp [write, List.intercalate_cons_cons]

section Symbols

variable {quoted : Bool} {c : Char}

theorem symbols_cons (other : c ≠ '\\') (rest : Text) :
    symbols quoted (c :: rest) =
      classify quoted c :: symbols (if c = '\'' then !quoted else quoted) rest := by
  rw [symbols]
  · exact fun _ same _ => other same
  · exact fun same _ => other same
  · exact fun _ _ same _ => other same

theorem symbols_escaped (other : c ≠ 'u') (rest : Text) :
    symbols quoted ('\\' :: c :: rest) = .letter (escaped c) :: symbols quoted rest := by
  rw [symbols]
  exact other

/-- Between quotes, a word is read as its letters. -/
theorem symbols_escapeWord (word rest : Text) :
    symbols true (escapeWord word ++ rest) = word.map .letter ++ symbols true rest := by
  induction word with
  | nil => rfl
  | cons c word ih =>
    rw [escapeWord, List.flatMap_cons, ← escapeWord, List.append_assoc, List.map_cons,
      List.cons_append]
    by_cases special : c = '\\' ∨ c = '\''
    · have kept : c ≠ 'u' ∧ escaped c = c := by
        rcases special with rfl | rfl <;> decide
      rw [if_pos special, List.cons_append, List.cons_append, List.nil_append,
        symbols_escaped kept.1, kept.2, ih]
    · rw [not_or] at special
      rw [if_neg (not_or.2 special), List.cons_append, List.nil_append, symbols_cons special.1,
        classify, if_neg special.2, if_neg special.2, if_pos rfl, ih]

theorem symbols_writeWord (word rest : Text) :
    symbols false (writeWord word ++ rest) =
      .quote :: (word.map .letter ++ .quote :: symbols false rest) := by
  rw [writeWord, List.cons_append, List.append_assoc, symbols_cons (by decide)]
  refine congrArg _ ((symbols_escapeWord word _).trans (congrArg _ ?_))
  exact symbols_cons (by decide) rest

end Symbols

section Calls

variable {before : List Text} {rest : Text}

theorem calls_letters (begun word : Text) (symbols : List Symbol) :
    calls before (some begun) (word.map .letter ++ symbols) =
      calls before (some (begun ++ word)) symbols := by
  induction word generalizing begun with
  | nil => rw [List.append_nil]; rfl
  | cons c word ih =>
    rw [List.map_cons, List.cons_append, calls, Option.getD_some, ih, List.append_assoc]
    rfl

/-- A word between quotes begins a word even if it is empty. -/
theorem calls_writeWord (word : Text) :
    calls before none (symbols false (writeWord word ++ rest)) =
      calls before (some word) (symbols false rest) := by
  rw [symbols_writeWord, calls, calls_letters, calls, Option.getD_some]
  rfl

/-- Words are gathered into one call, up to what stands behind them. The induction is on the words,
those in front being done with. -/
theorem calls_writeWords {behind : List SnippetCall}
    (ends : ∀ front word, calls front (some word) (symbols false rest) =
      calls.finished (front ++ [word]) ++ behind) (word : Text) (words : List Text) :
    calls before none (symbols false (writeWords (word :: words) ++ rest)) =
      calls.finished (before ++ word :: words) ++ behind := by
  induction words generalizing before word with
  | nil =>
    rw [writeWords_singleton, calls_writeWord]
    exact ends before word
  | cons next words ih =>
    rw [writeWords_cons_cons, List.append_assoc, calls_writeWord, List.cons_append,
      symbols_cons (by decide)]
    refine (ih next).trans ?_
    rw [Option.toList_some, List.append_assoc, List.singleton_append]

end Calls

/-- Calls that are written as a script are read from it. -/
theorem parse_write (calls : List SnippetCall) : parse (write calls) = calls := by
  induction calls with
  | nil =>
    show Script.calls [] none (symbols false []) = []
    rw [symbols]
    rfl
  | cons call rest ih =>
    cases rest with
    | nil =>
      have ends : ∀ front word, Script.calls front (some word) (symbols false []) =
          calls.finished (front ++ [word]) ++ [] := by
        intro front word
        rw [symbols, Script.calls, List.append_nil]
        rfl
      have read : Script.calls [] none (symbols false (writeCall call ++ [])) = [call] ++ [] :=
        calls_writeWords ends call.command call.arguments
      rw [List.append_nil, List.append_nil] at read
      rw [write_singleton]
      exact read
    | cons next rest =>
      have ends : ∀ front word,
          Script.calls front (some word) (symbols false (';' :: write (next :: rest))) =
            calls.finished (front ++ [word]) ++ next :: rest := by
        intro front word
        rw [symbols_cons (by decide)]
        exact congrArg _ ih
      rw [write_cons_cons]
      exact calls_writeWords ends call.command call.arguments

-- An empty argument, and one that holds a quote, a backslash, a semicolon and a space.
example : write [⟨"log", [[], "it's \\; so"]⟩, ⟨"stop", []⟩] =
    "'log' '' 'it\\'s \\\\; so';'stop'".toList := by
  decide

end ContentBlocker.Script
