import ContentBlocker.Text.Basic
/-!
# Engines for regular expressions

Patterns are compiled and searched for by two engines that are no part of this library: one for
regular expressions, whose searches always answer, and one that tracks back, which admits more
expressions and may give up a search. Here stands only what is asked of them. What they make of an
expression is theirs; where something follows from it, it is assumed by name.
-/

namespace ContentBlocker

/-- Why an engine for regular expressions does not compile a source. -/
inductive EngineFault where
  /-- the compiled form would take more than `limit` bytes -/
  | tooLarge (limit : Nat)
  | rejected
  deriving DecidableEq, Repr

/-- The engines by which patterns are compiled and searched for. -/
class RegexEngine where
  /-- the compiled form of a regular expression -/
  Standard : Type
  compileStandard (ignoreCase : Bool) (source : Text) : Except EngineFault Standard
  /-- whether the expression matches some part of a text -/
  isFound : Standard → Text → Bool
  /-- the compiled form of an expression that needs tracking back -/
  Backtracking : Type
  /-- compiles an expression, or says why it cannot -/
  compileBacktracking (source : Text) : Except Text Backtracking
  /-- whether the expression matches some part of a text, or why the search gave up -/
  search : Backtracking → Text → Except Text Bool

end ContentBlocker
