import ContentBlocker.Pattern.Engine
import ContentBlocker.Reference.Extended.Grammar
import ContentBlocker.Reference.Extended.Search
/-!
# Engines for running the program by itself

Small engines for the program when it runs by itself, and for examples. They read much of what
engines in use read, but not all of it.
-/

namespace ContentBlocker

/-- What an engine says of a fault in a source. -/
def EngineFault.ofSource : Regex.SourceFault → EngineFault
  | .tooLarge => .tooLarge Regex.weightLimit
  | _ => .rejected

instance referenceEngine : RegexEngine where
  Standard := Regex
  compileStandard ignoreCase source := (Regex.parse ignoreCase source).mapError .ofSource
  isFound := Regex.occursIn
  Backtracking := Extended
  compileBacktracking source := (Extended.parse source).mapError Regex.SourceFault.message
  search r s :=
    match r.occursIn? s with
    | some found => .ok found
    | none => .error "too many steps back"

end ContentBlocker
