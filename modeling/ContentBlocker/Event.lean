import ContentBlocker.Text.Basic
/-!
# Events

What the library reports while it works, beside its answers: each event has a level and a text. The
text quotes at most the first 64 characters of an expression.
-/

namespace ContentBlocker

/-- How serious an event is. -/
inductive Level where
  | error
  | warn
  | info
  | debug
  | trace
  deriving DecidableEq, Repr

/-- The name of a level. -/
def Level.name : Level → String
  | error => "ERROR"
  | warn => "WARN"
  | info => "INFO"
  | debug => "DEBUG"
  | trace => "TRACE"

/-- Something worth reporting. -/
inductive Event where
  /-- the compiled form of an expression would take more than `limit` bytes -/
  | patternTooLarge (limit : Nat) (source : Text)
  | patternNeedsBacktracking (source : Text)
  | patternRejected (reason source : Text)
  | patternGaveUp (reason source : Text)
  | alternationRejected (filters : Nat)
  | alternationGaveUp (filters : Nat)
  | filterDropped (line : Text)
  | selectorMissing (line : Text)
  | selectorTooShort (line : Text)
  | includeDomainsMissing (line : Text)
  | snippetNotAllowed (line : Text)
  | snippetEmpty (line : Text)
  | modifierSelectorMissing (line : Text)
  | modifierNotAllowed (line : Text)
  | headerNotAllowed (line : Text)
  | lineNotText (number : Nat)
  | listRedirected (list target : Text)
  | listCompiled (list : Text) (urlFilters contentFilters snippetFilters dropped lines : Nat)
  | listFailed (reason : Text)
  | listInstalled (list : Text) (urlFilters cached : Nat)
  | requestAllowed (url list : Text)
  deriving DecidableEq, Repr

namespace Event

/-- How serious an event is. -/
def level : Event → Level
  | snippetNotAllowed _ => .warn
  | modifierNotAllowed _ => .warn
  | headerNotAllowed _ => .warn
  | listFailed _ => .warn
  | listRedirected _ _ => .info
  | listCompiled _ _ _ _ _ _ => .info
  | requestAllowed _ _ => .trace
  | _ => .debug

/-- A number in decimal digits. -/
def digits (n : Nat) : Text := Nat.toDigits 10 n

/-- The part of an expression that a message quotes. -/
def quote (source : Text) : Text := source.take 64

/-- The text of an event. -/
def message : Event → Text
  | patternTooLarge limit source =>
    "pattern exceeds " ++ digits limit ++ " bytes compiled: " ++ quote source
  | patternNeedsBacktracking source => "pattern needs backtracking engine: " ++ quote source
  | patternRejected reason source => "pattern rejected (" ++ reason ++ "): " ++ quote source
  | patternGaveUp reason source => "pattern gave up (" ++ reason ++ "): " ++ quote source
  | alternationRejected filters =>
    "merged pattern of " ++ digits filters ++ " filters rejected; testing each"
  | alternationGaveUp filters =>
    "merged pattern of " ++ digits filters ++ " filters gave up; testing each"
  | filterDropped line => "Dropped filter: " ++ line
  | selectorMissing line => "Dropped content filter without selector: " ++ line
  | selectorTooShort line => "Dropped generic selector, too short: " ++ line
  | includeDomainsMissing line => "Dropped filter without include domains: " ++ line
  | snippetNotAllowed line => "Snippet filter not allowed for this list: " ++ line
  | snippetEmpty line => "Dropped empty snippet: " ++ line
  | modifierSelectorMissing line => "Dropped modifier filter without selector: " ++ line
  | modifierNotAllowed line => "Modifier filter not allowed for this list: " ++ line
  | headerNotAllowed line => "Header filter not allowed for this list: " ++ line
  | lineNotText number => "Dropping line " ++ digits number ++ ": not valid UTF-8"
  | listRedirected list target => list ++ " redirects to " ++ target
  | listCompiled list urlFilters contentFilters snippetFilters dropped lines =>
    "Compiled " ++ list ++ ": " ++ digits urlFilters ++ " url, " ++ digits contentFilters ++
      " content, " ++ digits snippetFilters ++ " snippet filters (" ++ digits dropped ++ " of " ++
      digits lines ++ " lines dropped)"
  | listFailed reason => "Filter list conversion failed: " ++ reason
  | listInstalled list urlFilters cached =>
    "Installed " ++ list ++ " (" ++ digits urlFilters ++ " url filters, " ++ digits cached ++
      " cached patterns)"
  | requestAllowed url list => url ++ " allowed by " ++ list

end Event

end ContentBlocker
