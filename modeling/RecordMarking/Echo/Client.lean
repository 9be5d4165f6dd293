import RecordMarking.Duplex
import RecordMarking.Echo.Settings
import RecordMarking.Timestamp

/-!
# The echo client

The client sends texts to an echo server, one record each, and shows the reply to each before
it sends the next. It reads replies under the default limit, whatever the size of the
fragments it sends.
-/

namespace RecordMarking.Echo

/-- The text of a reply. -/
def replyText (reply : Octets) : Except Fault String :=
  match Text.Utf8.decode reply with
  | .ok text => .ok text
  | .error malformed => .error (.undecodable malformed)

/-- The number of seconds that the client waits after each reply. -/
def pauseLength : Nat := 1

/-- Send a text in fragments of a size, and show the reply. -/
def converse (fragmentSize : Value) (text : String) : Activity Duplex Unit := do
  Duplex.sending (Sink.writeRecord (Text.Utf8.encode text) fragmentSize)
  Duplex.sending Sink.flush
  let reply ← Duplex.receiving (Source.readRecord (.integer defaultLimit))
  let shown ← .conclude (replyText reply)
  .announce (.replyReceived shown)
  .emit (.pause pauseLength)

/-- Send `count` texts, given by their numbers, beginning with number `first`. -/
def converseRepeatedly (fragmentSize : Value) (text : Nat → String) (first : Nat) :
    Nat → Activity Duplex Unit
  | 0 => pure ()
  | count + 1 => do
    converse fragmentSize (text first)
    converseRepeatedly fragmentSize text (first + 1) count

/-- Run the client. The text with each number is what it sends in that round. -/
def runClient (settings : ClientSettings) (text : Nat → String) : Activity Duplex Unit := do
  .emit (.logging (← .conclude (chosenLevel settings.logLevel)))
  .emit (.connect settings.host settings.port)
  .announce .connected
  let count ← .conclude settings.count.whole
  converseRepeatedly settings.fragmentSize text 0 count.toNat
  .announce .disconnected

/-- Run the client with the readings of a clock for texts. -/
def runTimestampClient (settings : ClientSettings) (clock : Clock) : Activity Duplex Unit :=
  runClient settings fun number => (clock.reading number).text

end RecordMarking.Echo
