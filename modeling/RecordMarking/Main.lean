import RecordMarking.Echo.Client
import RecordMarking.Echo.Server

/-!
# The echo programs on standard streams

`client` and `server`, each followed by its options, run the echo programs over the standard
streams: standard input holds all that the peer sends, and standard output receives what is
written to it. What a program shows, and the log as far as it is wanted, goes to standard
error. This module only connects the streams.
-/

namespace RecordMarking

/-- Whether a notice belongs into a log of a level. -/
def LogLevel.includes : LogLevel → Severity → Bool
  | .debug, _ => true
  | _, severity => severity == .error

/-- The line about an event, if the user sees one. -/
def Event.line? (level : LogLevel) : Event → Option String
  | .announce announcement => some announcement.text
  | .notice entry => if level.includes entry.severity then some entry.text else none
  | .handlerFailed fault => some fault.message
  | _ => none

/-- All octets of an input, behind those that were read before. -/
partial def readToEnd (input : IO.FS.Stream) (before : ByteArray) : IO ByteArray := do
  let portion ← input.read 65536
  if portion.isEmpty then return before else readToEnd input (before ++ portion)

/-- Show what a run did, and pass on its octets. The result is the exit code. -/
def finishRun (level : LogLevel) (octets : Octets) (trace : List Event)
    (result : Except Fault Unit) : IO UInt32 := do
  for line in trace.filterMap (Event.line? level) do
    IO.eprintln line
  let output ← IO.getStdout
  output.write ⟨octets.toArray⟩
  output.flush
  match result with
  | .ok () => return 0
  | .error fault =>
    IO.eprintln fault.message
    return 1

/-- Start a program with the settings that its command line asks for. -/
def start {Settings : Type} (program : String)
    (request : Except CommandLine.UsageError (CommandLine.Request Settings))
    (run : Settings → Source → IO UInt32) : IO UInt32 := do
  match request with
  | .error error =>
    IO.eprintln (error.report program)
    return UInt32.ofNat CommandLine.usageExitCode
  | .ok .help =>
    IO.eprintln (program ++ " [--name value]...")
    return 0
  | .ok (.run settings) =>
    let octets ← readToEnd (← IO.getStdin) .empty
    run settings [.data octets.toList]

/-- The current moment, as the system stamps a new file with it. -/
def currentMoment : IO Timestamp :=
  IO.FS.withTempFile fun _ path => do
    let stamp := (← path.metadata).modified
    return .after stamp.sec.toNat (stamp.nsec.toNat / 1000)

/-- Run the client on what the server has to say. -/
def startClient (settings : Echo.ClientSettings) (input : Source) : IO UInt32 := do
  let moment ← currentMoment
  let outcome := (Echo.runTimestampClient settings ⟨moment, []⟩).run ⟨input, .ofAnswers []⟩
  finishRun (settings.logLevel.getD .error) outcome.state.output.accepted outcome.trace
    outcome.result

/-- Run the server for one client. -/
def startServer (settings : Echo.ServerSettings) (input : Source) : IO UInt32 := do
  let visitor : Echo.Visitor := ⟨.text "standard input", ⟨input, .ofAnswers []⟩⟩
  let outcome := (Echo.runServer settings [visitor] none).run []
  let octets := outcome.state.flatMap fun connection => connection.output.accepted
  finishRun (settings.logLevel.getD .error) octets outcome.trace outcome.result

end RecordMarking

/-- Run the client or the server. -/
def main (arguments : List String) : IO UInt32 := do
  match arguments with
  | "client" :: options =>
    RecordMarking.start "client" (RecordMarking.Echo.ClientSettings.parse options)
      RecordMarking.startClient
  | "server" :: options =>
    RecordMarking.start "server" (RecordMarking.Echo.ServerSettings.parse options)
      RecordMarking.startServer
  | _ =>
    IO.eprintln "client or server?"
    return UInt32.ofNat RecordMarking.CommandLine.usageExitCode
