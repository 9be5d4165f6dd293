import RecordMarking.Reader
import RecordMarking.Framing
import RecordMarking.Assembler

/-!
# Endpoints

An endpoint is one side of a connection on which octets arrive unasked. It keeps book about
its transport and its peer, hands received octets to its assembler, and calls back when a
record is complete and when the peer comes and goes. An endpoint that does not delimit keeps
book only.

What callbacks do is given as reactions: for each call of a callback the actions it takes on
the endpoint, among which may be receiving more octets, losing the connection, or raising a
fault. Transports answer their writes and closes as listed.
-/

namespace RecordMarking

/-- What the next calls of a transport's operation come to; without an entry they succeed. -/
abbrev Verdicts := List (Option Fault)

/-- The next verdict. -/
def Verdicts.first (verdicts : Verdicts) : Except Fault Unit :=
  match verdicts with
  | some fault :: _ => .error fault
  | _ => .ok ()

/-- A transport, with its number in order of connection. -/
structure Transport where
  number : Nat
  writes : Verdicts
  closes : Verdicts
deriving DecidableEq, Repr

/-- What a new connection brings: the addresses that its transport reports, the octets drawn for
the identity of the peer, and the answers of the transport. -/
structure Connection where
  remoteAddress : Value
  localAddress : Value
  drawn : SizedOctets Peer.identitySize
  writes : Verdicts
  closes : Verdicts
deriving DecidableEq, Repr

/-- Something that can be done to an endpoint. -/
inductive Action where
  /-- Octets arrive. -/
  | receive (octets : Octets)
  /-- Values arrive in place of octets, each of which should be the number of one. -/
  | receiveNumbers (numbers : List Value)
  /-- A record is to be sent. -/
  | send (data : Value)
  /-- A connection was made. -/
  | connect (connection : Connection)
  /-- The connection was lost. -/
  | lose (reason : Option Fault)
  /-- The connection is to be closed. -/
  | close
  /-- The limit is assigned, unchecked. -/
  | setLimit (limit : Value)
  /-- Foreign code fails. -/
  | raise (fault : Fault)
deriving DecidableEq, Repr

/-- What the callback for records does: an action, or sending the record back. -/
inductive Reaction where
  | act (action : Action)
  | echo
  | echoReversed
deriving DecidableEq, Repr

/-- The action that a reaction to a record comes to. -/
def Reaction.toAction (record : Octets) : Reaction → Action
  | .act action => action
  | .echo => .send (.octets record)
  | .echoReversed => .send (.octets record.reverse)

/-- The callbacks of an endpoint, each with what its next calls do; without an entry they do
nothing. A callback may be missing. -/
structure Handlers where
  onRecord : Option (List (List Reaction))
  onPeerAvailable : Option (List (List Action))
  onPeerUnavailable : Option (List (List Action))
deriving DecidableEq, Repr

/-- One side of a connection. The number tells endpoints apart. -/
structure Endpoint where
  number : Nat
  delimiting : Bool
  limit : Value
  assembler : Assembler
  peer : Peer
  transport : Option Transport
  connections : Nat
  handlers : Handlers
deriving DecidableEq, Repr

namespace Endpoint

/-- An endpoint that keeps book only. -/
def bookkeeping (number : Nat) (handlers : Handlers) : Endpoint :=
  ⟨number, false, .integer defaultLimit, .empty, .unconnected, none, 0, handlers⟩

/-- An endpoint that delimits records, with a limit that has to be acceptable. -/
def create (number : Nat) (limit : Value) (handlers : Handlers) : Except Fault Endpoint :=
  (checkLimit limit).map fun limit =>
    ⟨number, true, .integer limit, .empty, .unconnected, none, 0, handlers⟩

/-- What the endpoint hands to its callbacks: itself, and the identity of its peer. -/
def caller (endpoint : Endpoint) : Caller :=
  ⟨endpoint.number, endpoint.peer.identity⟩

/-- Replace the assembler. -/
def setAssembler (assembler : Assembler) : Activity Endpoint Unit :=
  .modify fun endpoint => { endpoint with assembler }

/-- Change what is known about the peer. -/
def modifyPeer (change : Peer → Peer) : Activity Endpoint Unit :=
  .modify fun endpoint => { endpoint with peer := change endpoint.peer }

/-- Write the notice that a rule makes of the current peer. -/
def noteOfPeer (notice : Peer → Notice) : Activity Endpoint Unit := do
  .note (notice (← Activity.get).peer)

/-- Tell the transport to close, if there is one. -/
def closeTransport : Activity Endpoint Unit := do
  match (← Activity.get).transport with
  | none => pure ()
  | some transport =>
    .emit (.transportClose transport.number)
    .modify fun endpoint =>
      { endpoint with transport := some { transport with closes := transport.closes.tail } }
    .conclude transport.closes.first

/-- Hand octets to the transport. -/
def writeTransport (octets : Octets) : Activity Endpoint Unit := do
  match (← Activity.get).transport with
  | none => .fail .notConnected
  | some transport =>
    .emit (.transportWrite transport.number octets)
    .modify fun endpoint =>
      { endpoint with transport := some { transport with writes := transport.writes.tail } }
    .conclude transport.writes.first

/-- Close the connection. -/
def close : Activity Endpoint Unit := do
  noteOfPeer .closing
  closeTransport

/-- Send a record in fragments that stay below the endpoint's own limit. Anything that is not
a sequence of at least one octet is only noted. -/
def send (data : Value) : Activity Endpoint Unit := do
  let endpoint ← .get
  if endpoint.delimiting then
    match data with
    | .octets [] => .note .nothingToSend
    | .octets record =>
      let size ← .conclude endpoint.limit.pred
      let framed ← .conclude (frame record size)
      .note (.sending framed.length)
      writeTransport framed
    | other => .note (.notOctets other.typeName)
  else .fail (.reported .notImplemented [])

/-- Take over the address that a transport reports. -/
def reportedAddress (reported : Value) : Activity Endpoint Value :=
  .conclude ((hostAndPort reported).mapError .unsizedAddress)

/-- Take over a new connection. What was taken over before an address is refused stays. -/
def adopt (connection : Connection) : Activity Endpoint Unit := do
  .modify fun endpoint =>
    { endpoint with
      transport := some ⟨endpoint.connections + 1, connection.writes, connection.closes⟩
      connections := endpoint.connections + 1 }
  let remote ← reportedAddress connection.remoteAddress
  modifyPeer fun peer => { peer with remoteAddress := remote }
  let own ← reportedAddress connection.localAddress
  modifyPeer fun peer => { peer with localAddress := own }
  modifyPeer fun peer => { peer with identity := some (Peer.identityOf connection.drawn) }
  noteOfPeer .connectionMade

/-- Forget the transport and the peer. -/
def forget : Activity Endpoint Unit :=
  .modify fun endpoint => { endpoint with transport := none, peer := .lost }

end Endpoint

end RecordMarking
