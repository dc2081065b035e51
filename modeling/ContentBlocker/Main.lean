import ContentBlocker.CommandLine.Basic
import ContentBlocker.Reference.Engine
import ContentBlocker.Reference.Suffixes
/-!
# The program

Reads the file that a command names, runs the command, writes the file that it asks for, and prints
its reply. After a list has been compiled the time that it took is printed too. The program runs
with the engines and the list of suffixes that are written here.
-/

open ContentBlocker

namespace Program

/-- The fault behind an error of the system. -/
def fileFault : IO.Error → FileFault
  | .noFileOrDirectory _ code _ => .ofCode code.toNat
  | .permissionDenied _ code _ => .ofCode code.toNat
  | .inappropriateType _ code _ => .ofCode code.toNat
  | .invalidArgument _ code _ => .ofCode code.toNat
  | .resourceExhausted _ code _ => .ofCode code.toNat
  | .otherError code _ => .ofCode code.toNat
  | _ => .other 5

/-- What an action yields, or the fault behind its error. -/
def attempt {α : Type} (action : IO α) : IO (Except FileFault α) := do
  try
    return .ok (← action)
  catch e =>
    return .error (fileFault e)

/-- The line that says how much time has passed, given in nanoseconds. -/
def timeLine (nanoseconds : Nat) : Text :=
  Command.line ["  Time:            ", Text.oneDecimal nanoseconds 1000000, "ms"]

/-- Prints a reply and yields the exit code. -/
def print (reply : Reply) : IO UInt32 := do
  for line in reply.lines do
    IO.println (String.ofList line)
  for line in reply.errors do
    IO.eprintln (String.ofList line)
  return reply.exitCode.toUInt32

/-- Does what remains to be done for a command that was started at the given time. -/
def finish (started : Nat) : Step → IO UInt32
  | .reply reply => print reply
  | .write output bytes reply => do
    let written ← attempt (IO.FS.writeBinFile (String.ofList output) bytes)
    let reply := reply written
    let elapsed := (← IO.monoNanosNow) - started
    print (if reply.exitCode = 0 then { reply with lines := reply.lines ++ [timeLine elapsed] }
      else reply)

end Program

/-- Runs the command that the arguments ask for. -/
def main (arguments : List String) : IO UInt32 := do
  match Command.ofArguments? (arguments.map String.toList) with
  | none => Program.print .misused
  | some command =>
    let started ← IO.monoNanosNow
    let contents ← Program.attempt (IO.FS.readBinFile (String.ofList command.input))
    Program.finish started (command.run contents)
