import ContentBlocker.FilterList.Compile
/-!
# Arguments

The first argument names a command and the others are its options. An option has a long name behind
two dashes and perhaps a letter behind one; its value follows behind an equals sign, directly behind
the letter, or as the next argument, which must not look like an option itself. No option stands
twice.
-/

namespace ContentBlocker

/-- What a command line asks for. -/
inductive Command where
  /-- compile a list and write the index -/
  | compile (input output : Text) (config : CompileConfig)
  /-- describe an index -/
  | info (input : Text) (structured : Bool)
  /-- classify a request -/
  | check (input url : Text) (domain : Option Text) (type sitekey : Text)
  deriving DecidableEq, Repr

/-- An option that a command takes. -/
structure OptionSpec where
  long : Text
  short : Option Char
  takesValue : Bool
  deriving DecidableEq, Repr

namespace OptionSpec

/-- The option that makes any command tell more. -/
def verbose : OptionSpec := ⟨"verbose", some 'v', false⟩

/-- The option that names the file to read. -/
def input : OptionSpec := ⟨"input", some 'i', true⟩

/-- The options of the command that compiles. -/
def forCompile : List OptionSpec :=
  [verbose, input, ⟨"output", some 'o', true⟩, ⟨"source-url", none, true⟩,
    ⟨"privileged", none, false⟩, ⟨"no-header", none, false⟩]

/-- The options of the command that describes. -/
def forInfo : List OptionSpec := [verbose, input, ⟨"json", none, false⟩]

/-- The options of the command that classifies. -/
def forCheck : List OptionSpec :=
  [verbose, input, ⟨"url", some 'u', true⟩, ⟨"domain", some 'd', true⟩, ⟨"type", some 't', true⟩,
    ⟨"sitekey", none, true⟩]

end OptionSpec

namespace Arguments

/-- Whether an argument can be the value of an option in front of it. -/
def isValue (argument : Text) : Bool := argument.head? != some '-' || argument = ['-']

/-- The values of the options given so far, by long name; an option without value has an empty
one. -/
abbrev Given := List (Text × Text)

/-- The value of an option, if it was given. -/
def Given.value? (given : Given) (name : Text) : Option Text := given.lookup name

/-- Adds an option, which must not be there yet. -/
def give? (spec : OptionSpec) (value : Text) (given : Given) : Option Given :=
  if (given.lookup spec.long).isSome then none else some ((spec.long, value) :: given)

/-- Adds the options of letters behind one dash. A letter that takes a value takes the letters that
follow it, or the next of the arguments `rest`; what is left of these is yielded too. -/
def readLetters? (specs : List OptionSpec) (rest : List Text) :
    Text → Given → Option (Given × List Text)
  | [], given => some (given, rest)
  | c :: letters, given => do
    let spec ← specs.find? fun spec => spec.short = some c
    if spec.takesValue then
      match letters, rest with
      | '=' :: value, _ => return (← give? spec value given, rest)
      | _ :: _, _ => return (← give? spec letters given, rest)
      | [], value :: rest => if isValue value then return (← give? spec value given, rest) else none
      | [], [] => none
    else readLetters? specs rest letters (← give? spec [] given)

/-- Adds the option of a long name, with its value behind an equals sign or in the next argument. -/
def readLong? (specs : List OptionSpec) (rest : List Text) (text : Text) (given : Given) :
    Option (Given × List Text) := do
  let (name, inline) :=
    match Text.splitFirst? '=' text with
    | some (name, value) => (name, some value)
    | none => (text, none)
  let spec ← specs.find? fun spec => spec.long = name
  match spec.takesValue, inline, rest with
  | true, some value, _ => return (← give? spec value given, rest)
  | true, none, value :: rest =>
    if isValue value then return (← give? spec value given, rest) else none
  | true, none, [] => none
  | false, none, _ => return (← give? spec [] given, rest)
  | false, some _, _ => none

/-- The options that at most `count` arguments give. -/
def readOptions? (specs : List OptionSpec) : Nat → List Text → Given → Option Given
  | _, [], given => some given
  | 0, _ :: _, _ => none
  | count + 1, argument :: rest, given => do
    let (given, rest) ←
      match argument with
      | '-' :: '-' :: text => readLong? specs rest text given
      | '-' :: letters => if letters = [] then none else readLetters? specs rest letters given
      | _ => none
    readOptions? specs count rest given

/-- The options that arguments give. -/
def options? (specs : List OptionSpec) (arguments : List Text) : Option Given :=
  readOptions? specs arguments.length arguments []

end Arguments

namespace Command

/-- The command that arguments ask for, if they ask for one. -/
def ofArguments? (arguments : List Text) : Option Command := do
  let verbose := arguments.takeWhile fun a => a = ("-v" : Text) || a = ("--verbose" : Text)
  match arguments.drop verbose.length with
  | [] => none
  | name :: rest =>
    if 1 < verbose.length then none
    else if name = ("compile" : Text) then
      let given ← Arguments.options? OptionSpec.forCompile rest
      let input ← given.value? "input"
      return .compile input ((given.value? "output").getD "index.flx")
        { source := (given.value? "source-url").getD []
          privileged := (given.value? "privileged").isSome
          requireHeader := (given.value? "no-header").isNone }
    else if name = ("info" : Text) then
      let given ← Arguments.options? OptionSpec.forInfo rest
      return .info (← given.value? "input") (given.value? "json").isSome
    else if name = ("check" : Text) then
      let given ← Arguments.options? OptionSpec.forCheck rest
      let input ← given.value? "input"
      let url ← given.value? "url"
      return .check input url (given.value? "domain") ((given.value? "type").getD "other")
        ((given.value? "sitekey").getD [])
    else none

/-- The file that a command reads. -/
def input : Command → Text
  | compile input _ _ => input
  | info input _ => input
  | check input _ _ _ _ => input

end Command

end ContentBlocker
