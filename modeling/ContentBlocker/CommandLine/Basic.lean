import ContentBlocker.CommandLine.Arguments
import ContentBlocker.Subscription.Collection
import ContentBlocker.Text.Rounded
import ContentBlocker.Text.Structured
/-!
# Commands

Each command reads one file, may write another, and prints what it did. `Command.run` says what to
do given what reading the file yielded; doing it is left to the program.
-/

namespace ContentBlocker

/-- Why a file cannot be read or written. -/
inductive FileFault where
  | notPermitted
  | missing
  | denied
  | notDirectory
  | isDirectory
  | noSpace
  | nameTooLong
  /-- any other fault, by the number that the system gives it -/
  | other (code : Nat)
  deriving DecidableEq, Repr

namespace FileFault

/-- The number that the system gives a fault. -/
def code : FileFault → Nat
  | notPermitted => 1
  | missing => 2
  | denied => 13
  | notDirectory => 20
  | isDirectory => 21
  | noSpace => 28
  | nameTooLong => 36
  | other code => code

/-- The fault with a number. -/
def ofCode (code : Nat) : FileFault :=
  ([notPermitted, missing, denied, notDirectory, isDirectory, noSpace, nameTooLong].find?
    fun fault => fault.code = code).getD (other code)

/-- What a fault is called. -/
def name : FileFault → Text
  | notPermitted => "Operation not permitted"
  | missing => "No such file or directory"
  | denied => "Permission denied"
  | notDirectory => "Not a directory"
  | isDirectory => "Is a directory"
  | noSpace => "No space left on device"
  | nameTooLong => "File name too long"
  | other _ => "Unknown error"

/-- The text of a fault. -/
def message (fault : FileFault) : Text :=
  fault.name ++ " (os error " ++ Nat.toDigits 10 fault.code ++ ")"

end FileFault

/-- What a command prints and how it ends. -/
structure Reply where
  exitCode : Nat
  /-- the lines of the answer -/
  lines : List Text
  /-- the lines of the error report -/
  errors : List Text
  deriving DecidableEq, Repr

namespace Reply

/-- The reply of a command that has done its work. -/
def done (lines : List Text) : Reply := ⟨0, lines, []⟩

/-- The reply of a command that cannot do its work. -/
def failed (reason : Text) : Reply := ⟨1, [], ["Error: " ++ reason]⟩

/-- The reply to arguments that ask for no command. -/
def misused : Reply := ⟨2, [], ["error: unexpected arguments"]⟩

/-- The reply of a command that broke off. -/
def brokenOff (fault : Host.Fault) : Reply :=
  match fault with
  | .cutInsideCharacter => ⟨101, [], ["byte index is not a char boundary"]⟩

end Reply

/-- What remains to be done for a command. -/
inductive Step where
  | reply (reply : Reply)
  /-- write a file, then reply as that went -/
  | write (output : Text) (bytes : ByteArray) (reply : Except FileFault Unit → Reply)

namespace Command

/-- The words of a line, one after the other. -/
def line (parts : List Text) : Text := parts.flatten

/-- A number in decimal digits. -/
def digits (n : Nat) : Text := Nat.toDigits 10 n

/-- A number of bytes, also in units of 1024. -/
def size (bytes : Nat) : Text :=
  line [digits bytes, " bytes (", Text.oneDecimal bytes 1024, " KB)"]

/-- The text for a file that cannot be read. -/
def unreadable (input : Text) (fault : FileFault) : Text :=
  line ["Failed to read '", input, "': ", fault.message]

/-- The index in a file. -/
def readIndex (input : Text) (contents : Except FileFault ByteArray) : Except Text Snapshot :=
  match contents with
  | .error fault => .error (unreadable input fault)
  | .ok data => (Snapshot.load data).mapError fun fault => line ["Invalid index: ", fault.message]

/-- The list in a file. A directory can be opened but not read. -/
def readSource (input : Text) (contents : Except FileFault ByteArray) : Except Text ListSource :=
  match contents with
  | .ok bytes => .ok ⟨bytes, none⟩
  | .error .isDirectory => .ok ⟨ByteArray.empty, some FileFault.isDirectory.message⟩
  | .error fault => .error (unreadable input fault)

/-- What is printed once an index has been written. -/
def compiledLines (input output : Text) (s : Snapshot) : List Text :=
  [line ["Compiled '", input, "' to '", output, "'"],
    line ["  URL filters:     ", digits s.urlCount],
    line ["  Content filters: ", digits s.contentCount],
    line ["  Snippets:        ", digits s.snippetCount],
    line ["  Size:            ", size s.data.size]]

/-- What to do to compile a list. -/
def runCompile [RegexEngine] (input output : Text) (config : CompileConfig)
    (contents : Except FileFault ByteArray) : Step :=
  match readSource input contents with
  | .error reason => .reply (.failed reason)
  | .ok source =>
    match source.compile config with
    | .redirect target =>
      .reply (.done [line ["'", input, "' redirects to ", target, "; nothing written"]])
    | .failed fault => .reply (.failed fault.message)
    | .index bytes =>
      match Snapshot.load bytes with
      | .error fault =>
        .reply (.failed (line ["Generated index failed validation: ", fault.message]))
      | .ok s =>
        .write output bytes fun
          | .ok () => .done (compiledLines input output s)
          | .error fault => .failed (line ["Failed to create '", output, "': ", fault.message])

/-- The description of an index as a value. -/
def structuredInfo (s : Snapshot) : Structured :=
  let info := s.info
  .object
    [("source_url", .string info.source), ("title", .string info.title),
      ("version", .string info.version), ("homepage", .string info.homepage),
      ("expires_secs", .number info.expires), ("build_id", .number s.buildId.toNat),
      ("size", .number s.data.size), ("url_filters", .number s.urlCount),
      ("content_filters", .number s.contentCount), ("snippet_filters", .number s.snippetCount),
      ("indexes", .list (SubIndex.all.map fun index =>
        .object [("name", .string index.name), ("keys", .number (s.keyCount index))]))]

/-- The description of an index in words. -/
def infoLines (input : Text) (s : Snapshot) : List Text :=
  let info := s.info
  let used := SubIndex.all.filter fun index => 0 < s.keyCount index
  [line ["Index: ", input],
    line ["  Source:      ", info.source],
    line ["  Title:       ", info.title],
    line ["  Version:     ", info.version],
    line ["  Homepage:    ", info.homepage],
    line ["  Expires:     ", digits info.expires, "s"],
    line ["  Build id:    ", LoadFault.hexWord s.buildId],
    line ["  Total size:  ", size s.data.size],
    [],
    "Filters:",
    line ["  URL:         ", digits s.urlCount],
    line ["  Content:     ", digits s.contentCount],
    line ["  Snippet:     ", digits s.snippetCount],
    [],
    "Sub-indexes:"] ++
  used.map fun index =>
    line ["  ", (index.name : Text).rightpad 24 ' ', " ", digits (s.keyCount index), " keys"]

/-- What to do to describe an index. -/
def runInfo (input : Text) (structured : Bool) (contents : Except FileFault ByteArray) : Step :=
  .reply
    (match readIndex input contents with
    | .error reason => .failed reason
    | .ok s =>
      .done (if structured then [(structuredInfo s).pretty] else infoLines input s))

/-- A decision as a value. -/
def structuredDecision (decision : Decision) : Structured :=
  let (name, source) : Text × Structured :=
    match decision with
    | .noMatch => ("no_match", .null)
    | .blocked source => ("blocked", .string source)
    | .allowed source => ("allowed", .string source)
  .object [("decision", .string name), ("source_url", source)]

/-- What an index by itself decides about a request; the document is the request's own if no domain
is given. -/
def decide [RegexEngine] [Host.SuffixList] (s : Snapshot) (url : Text) (domain : Option Text)
    (types : ContentTypes) (sitekey : Text) : Except Host.Fault Decision :=
  let (subscription, queries) := Subscription.install s defaultCapacity .installed 0 .empty
  let collection : Collection := ⟨[subscription], "cli"⟩
  let frames := domain.toList.map fun domain => line ["https://", domain, "/"]
  ((collection.classifyRequest url frames types sitekey).run.run queries).1

/-- What to do to classify a request. -/
def runCheck [RegexEngine] [Host.SuffixList] (input url : Text) (domain : Option Text)
    (type sitekey : Text) (contents : Except FileFault ByteArray) : Step :=
  .reply
    (match ContentTypes.ofName? type with
    | none => .failed (line ["Unknown content type '", type, "'"])
    | some types =>
      match readIndex input contents with
      | .error reason => .failed reason
      | .ok s =>
        match decide s url domain types sitekey with
        | .ok decision => .done [(structuredDecision decision).pretty]
        | .error fault => .brokenOff fault)

/-- What to do for a command, given what reading its file yielded. -/
def run [RegexEngine] [Host.SuffixList] (command : Command)
    (contents : Except FileFault ByteArray) : Step :=
  match command with
  | compile input output config => runCompile input output config contents
  | info input structured => runInfo input structured contents
  | check input url domain type sitekey => runCheck input url domain type sitekey contents

end Command

end ContentBlocker
