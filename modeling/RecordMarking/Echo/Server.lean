import RecordMarking.Echo.Handler
import RecordMarking.Echo.Settings

/-!
# The echo server

The server checks its limit, starts to listen, and serves one client after the other. An
ordinary fault that the handler of a client does not contain is noted and does not disturb the
others. Any other fault ends the listening: an interruption ends the server in good order, and
all else ends it at once.
-/

namespace RecordMarking.Echo

/-- A client that comes to the server: its address and the connection to it. -/
structure Visitor where
  address : Value
  connection : Duplex
deriving DecidableEq, Repr

/-- Note an ordinary fault of a handler. Other faults go on. -/
def containHandler (handler : Activity Duplex Unit) : Activity Duplex Unit :=
  handler.rescue Fault.isOrdinary fun fault => .emit (.handlerFailed fault)

/-- Serve a client that comes to the server. Replies are written until the connection has
taken them in full or fails. -/
def serveVisitor (limit : Value) (visitor : Visitor) : Outcome Duplex Unit :=
  (containHandler (handle visitor.address limit)).run
    { visitor.connection with output := visitor.connection.output.insistent }

/-- Serve clients in the order in which they come, until a fault goes on. The connections that
were served are collected, in order, behind those that were before. -/
def serveAll (limit : Value) : List Visitor → Activity (List Duplex) Unit
  | [] => pure ()
  | visitor :: rest => do
    let served := serveVisitor limit visitor
    ⟨fun connections => ⟨served.result, served.trace, connections ++ [served.state]⟩⟩
    serveAll limit rest

/-- Whether a fault is a request by the user to stop. -/
def isInterruption : Fault → Bool
  | .reported .interruption _ => true
  | _ => false

/-- Run the server. `ending` is the fault that ends the listening after the last client; without
one the server stops by itself. -/
def runServer (settings : ServerSettings) (visitors : List Visitor) (ending : Option Fault) :
    Activity (List Duplex) Unit := do
  .emit (.logging (← .conclude (chosenLevel settings.logLevel)))
  let limit ← .conclude (checkLimit settings.limit)
  .emit (.listen settings.host settings.port)
  .announce .serverStarted
  Activity.rescue isInterruption
    (do
      serveAll (.integer limit) visitors
      match ending with
      | none => pure ()
      | some fault => .fail fault)
    fun _ => pure ()
  .announce .serverStopped

end RecordMarking.Echo
