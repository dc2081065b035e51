import ContentBlocker.Event
import ContentBlocker.Pattern.Engine
/-!
# Compiled patterns

The source of a filter's pattern is compiled as a regular expression if it can be; a search for one
always answers. Otherwise it is compiled as an expression that needs tracking back, whose search may
give up. A source that neither engine compiles matches nothing, and an empty source matches
everything.
-/

namespace ContentBlocker

/-- Why a source has no compiled form. -/
inductive PatternFault where
  | tooLarge (limit : Nat)
  | unreadable (reason : Text)
  deriving DecidableEq, Repr

/-- A compiled pattern. -/
inductive CompiledPattern [RegexEngine] where
  | matchAll
  | standard (source : Text) (r : RegexEngine.Standard)
  | backtracking (source : Text) (r : RegexEngine.Backtracking)
  | invalid (fault : PatternFault)

namespace CompiledPattern

/-- The source as an extended expression, which states by itself that case does not count. -/
def extendedSource (source : Text) (matchCase : Bool) : Text :=
  if matchCase then source else "(?i)" ++ source

section

variable [RegexEngine]

/-- The compiled form of a source. A regular expression that would be too large is not compiled
again as an extended one. -/
def compile (source : Text) (matchCase : Bool) : CompiledPattern :=
  if source = [] then .matchAll
  else match RegexEngine.compileStandard (!matchCase) source with
    | .ok r => .standard source r
    | .error (.tooLarge limit) => .invalid (.tooLarge limit)
    | .error .rejected =>
      match RegexEngine.compileBacktracking (extendedSource source matchCase) with
      | .ok r => .backtracking (extendedSource source matchCase) r
      | .error reason => .invalid (.unreadable reason)

/-- Whether the pattern can match anything at all. -/
def isValid : CompiledPattern → Bool
  | invalid _ => false
  | _ => true

/-- Whether the pattern matches, or why its search gives up. -/
def search (p : CompiledPattern) (s : Text) : Except Text Bool :=
  match p with
  | matchAll => .ok true
  | standard _ r => .ok (RegexEngine.isFound r s)
  | backtracking _ r => RegexEngine.search r s
  | invalid _ => .ok false

/-- Whether the pattern matches; `none` if its search gives up. -/
def tryMatch (p : CompiledPattern) (s : Text) : Option Bool := (p.search s).toOption

/-- Whether the pattern matches, where a search that gives up counts as a miss. -/
def isMatch (p : CompiledPattern) (s : Text) : Bool := (p.tryMatch s).getD false

/-- The source as it was compiled, or what stands for it. -/
def display : CompiledPattern → Text
  | matchAll => ".*"
  | standard source _ => source
  | backtracking source _ => source
  | invalid _ => "ERROR"

/-- The name of the way a pattern is matched. -/
def kindName : CompiledPattern → String
  | matchAll => "match_all"
  | standard _ _ => "standard"
  | backtracking _ _ => "backtracking"
  | invalid _ => "invalid"

/-- What compiling `source` to this form reports. -/
def compileEvents (source : Text) : CompiledPattern → List Event
  | matchAll => []
  | standard _ _ => []
  | backtracking _ _ => [.patternNeedsBacktracking source]
  | invalid (.tooLarge limit) => [.patternTooLarge limit source]
  | invalid (.unreadable reason) => [.patternRejected reason source]

/-- What searching for the pattern reports. -/
def matchEvents (p : CompiledPattern) (s : Text) : List Event :=
  match p.search s with
  | .ok _ => []
  | .error reason => [.patternGaveUp reason p.display]

end

end CompiledPattern

/-- Whether a source can match anything, with regard to case. -/
def isValidPattern [RegexEngine] (source : Text) : Bool :=
  (CompiledPattern.compile source true).isValid

/-- Whether a source refers to a group. Such a source means something else once it stands among
others whose groups are counted before its own. -/
def hasReference : Text → Bool
  | '\\' :: c :: rest => ('1' ≤ c && c ≤ '9') || c = 'k' || hasReference rest
  | '(' :: '?' :: 'P' :: '=' :: _ => true
  | _ :: rest => hasReference rest
  | [] => false

end ContentBlocker
