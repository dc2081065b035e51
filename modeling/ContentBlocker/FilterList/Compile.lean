import ContentBlocker.Filter.Line
import ContentBlocker.Index.Builder
/-!
# Compiling a filter list

A list is read line by line: a header, comments that carry metadata, then filters. The comments
count up to the first line that is neither blank nor a comment. Lines that hold no filter are passed
over; only a list without header, where one is needed, and a list that cannot be read to its end
have no index. A comment that says where the list has moved ends the reading at once.
-/

namespace ContentBlocker

/-- How a list is to be compiled. -/
structure CompileConfig where
  /-- the address of the list, which the index records -/
  source : Text
  /-- whether filters that act on documents are admitted -/
  privileged : Bool
  requireHeader : Bool
  deriving DecidableEq, Repr

/-- The settings for a list of which nothing is said. -/
def CompileConfig.standard : CompileConfig :=
  { source := [], privileged := false, requireHeader := true }

/-- Why a list has no index. -/
inductive CompileFault where
  | headerMissing
  | unreadable (reason : Text)
  deriving DecidableEq, Repr

/-- The text of a fault. -/
def CompileFault.message : CompileFault → Text
  | headerMissing => "Missing [Adblock Plus] header"
  | unreadable reason => "Failed to read filter list: " ++ reason

/-- What compiling a list yields. -/
inductive CompileOutcome where
  | index (bytes : ByteArray)
  | redirect (target : Text)
  | failed (fault : CompileFault)

/-- The bytes of a list, and why reading it broke off behind them, if it did. -/
structure ListSource where
  bytes : ByteArray
  failure : Option Text

namespace ListSource

/-- The byte that ends a line. -/
def lineFeed : UInt8 := 10

/-- The lines of a byte string without their line feeds. The last line needs none. -/
def splitLines (bytes : List UInt8) : List (List UInt8) :=
  match _h : bytes.dropWhile (· != lineFeed) with
  | [] => if bytes = [] then [] else [bytes]
  | _ :: rest => bytes.takeWhile (· != lineFeed) :: splitLines rest
termination_by bytes.length
decreasing_by
  have := (List.dropWhile_sublist (· != lineFeed) (l := bytes)).length_le
  rw [_h, List.length_cons] at this
  omega

/-- The lines that can be read: where reading broke off, those that are complete. -/
def lines (source : ListSource) : List (List UInt8) :=
  let bytes := source.bytes.data.toList
  if source.failure.isSome then
    splitLines (bytes.reverse.dropWhile (· != lineFeed)).reverse
  else splitLines bytes

end ListSource

/-- The text of a line; none if it is not valid. -/
def lineText? (line : List UInt8) : Option Text := Text.decode? line.toByteArray

/-- What has been read of a list. -/
structure ListReading where
  metadata : Metadata
  filters : Array Filter
  /-- whether comments still carry metadata -/
  inPreamble : Bool
  /-- whether a line that is not blank has been read -/
  sawContent : Bool
  /-- the lines read behind the preamble -/
  filterLines : Nat
  /-- all lines read -/
  lineCount : Nat
  events : Array Event

namespace ListReading

/-- Nothing read yet. -/
def start : ListReading :=
  { metadata := .absent, filters := #[], inPreamble := true, sawContent := false, filterLines := 0,
    lineCount := 0, events := #[] }

/-- Whether a character is the byte order mark. -/
def isByteOrderMark (c : Char) : Bool := c = '\ufeff'

/-- Whether a line is a header, perhaps behind byte order marks. -/
def isMarkedHeader (line : Text) : Bool := isHeader (line.dropWhile isByteOrderMark)

/-- Reads a line behind the preamble. -/
def addFilterLine [RegexEngine] (config : CompileConfig) (r : ListReading) (line : Text) :
    ListReading :=
  let read := Filter.parse config.privileged line
  { r with
    inPreamble := false
    sawContent := true
    filterLines := r.filterLines + 1
    filters := match read with
      | .ok filter => r.filters.push filter
      | .error _ => r.filters
    events := r.events ++ Filter.events line read }

/-- Reads a line of text without white space at its ends. -/
def addText [RegexEngine] (config : CompileConfig) (r : ListReading) (line : Text) : ListReading :=
  if line = [] then r
  else if !r.sawContent ∧ !config.requireHeader ∧ isMarkedHeader line then
    { r with sawContent := true }
  else if line.head? = some '!' then
    if r.inPreamble then { r with sawContent := true, metadata := r.metadata.add line }
    else { r with sawContent := true }
  else addFilterLine config r line

/-- Reads a line. -/
def addLine [RegexEngine] (config : CompileConfig) (r : ListReading) (line : List UInt8) :
    ListReading :=
  let r := { r with lineCount := r.lineCount + 1 }
  match lineText? line with
  | none => { r with events := r.events.push (.lineNotText r.lineCount) }
  | some text => addText config r text.trim

/-- Reads lines until the list turns out to have moved. -/
def addLines [RegexEngine] (config : CompileConfig) (r : ListReading) :
    List (List UInt8) → ListReading
  | [] => r
  | line :: rest =>
    let r := addLine config r line
    if r.metadata.redirect.isSome then r else addLines config r rest

/-- How many filters of each kind have been read. -/
def counts (r : ListReading) : Nat × Nat × Nat :=
  r.filters.foldl
    (fun (urls, contents, snippets) filter =>
      match filter with
      | .url _ => (urls + 1, contents, snippets)
      | .content _ => (urls, contents + 1, snippets)
      | .snippet _ => (urls, contents, snippets + 1))
    (0, 0, 0)

/-- What a list that was read to its end reports. -/
def compiledEvent (config : CompileConfig) (r : ListReading) : Event :=
  let (urls, contents, snippets) := r.counts
  .listCompiled config.source urls contents snippets (r.filterLines - (urls + contents + snippets))
    r.filterLines

end ListReading

namespace ListSource

/-- What is read of a list, or why nothing is: the first line must be a header if one is
required. -/
def read [RegexEngine] (source : ListSource) (config : CompileConfig) :
    Except CompileFault ListReading :=
  if config.requireHeader then
    match source.lines, source.failure with
    | [], some reason => .error (.unreadable reason)
    | [], none => .error .headerMissing
    | first :: rest, _ =>
      if ((lineText? first).map ListReading.isMarkedHeader).getD false then
        .ok (ListReading.addLines config { ListReading.start with lineCount := 1 } rest)
      else .error .headerMissing
  else .ok (ListReading.addLines config .start source.lines)

/-- What compiling a list yields, and what it reports. -/
def compileReporting [RegexEngine] (source : ListSource) (config : CompileConfig) :
    CompileOutcome × List Event :=
  let failed (fault : CompileFault) (events : List Event) :=
    (CompileOutcome.failed fault, events ++ [.listFailed fault.message])
  match source.read config with
  | .error fault => failed fault []
  | .ok r =>
    let events := r.events.toList
    match r.metadata.redirect, source.failure with
    | some target, _ => (.redirect target, events ++ [.listRedirected config.source target])
    | none, some reason => failed (.unreadable reason) events
    | none, none =>
      (.index (buildIndex r.filters.toList r.metadata config.source),
        events ++ [r.compiledEvent config])

/-- What compiling a list yields. -/
def compile [RegexEngine] (source : ListSource) (config : CompileConfig) : CompileOutcome :=
  (source.compileReporting config).1

end ListSource

end ContentBlocker
