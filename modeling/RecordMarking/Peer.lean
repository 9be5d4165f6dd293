import RecordMarking.Value

/-!
# Peers

What an endpoint knows about the other end of its connection: the identity, of which the octets
are drawn when the connection is made, and the two addresses that the transport reports.
-/

namespace RecordMarking

/-- The other end of a connection. The identity is a hexadecimal text, empty before the first
connection and absent after a connection was lost. -/
structure Peer where
  identity : Option String
  localAddress : Value
  remoteAddress : Value
deriving DecidableEq, Repr

namespace Peer

/-- The number of octets that are drawn for an identity. -/
def identitySize : Nat := 5

/-- The identity that drawn octets make. -/
def identityOf (drawn : SizedOctets identitySize) : String :=
  Octets.hex drawn.val

/-- An identity has two digits for each octet that was drawn. -/
theorem length_identityOf (drawn : SizedOctets identitySize) :
    (identityOf drawn).length = 2 * identitySize := by
  rw [identityOf, Octets.length_hex, drawn.property]

/-- The peer of an endpoint that was never connected. -/
def unconnected : Peer := ⟨some "", .absent, .absent⟩

/-- The peer of an endpoint whose connection was lost. -/
def lost : Peer := ⟨none, .absent, .absent⟩

/-- The identity as messages show it. -/
def shownIdentity (identity : Option String) : String :=
  match identity with
  | some digits => "b'" ++ digits ++ "'"
  | none => "None"

/-- The peer as messages show it. -/
def shown (peer : Peer) : String :=
  "id=" ++ shownIdentity peer.identity ++ ", laddr=" ++ peer.localAddress.display ++
    ", raddr=" ++ peer.remoteAddress.display

end Peer

/-- The address an endpoint keeps of the one its transport reports. Of an address with four
parts only host and port, the first two, are kept; an address whose type has no length is
refused. -/
def hostAndPort (reported : Value) : Except String Value :=
  match reported with
  | .absent => .ok .absent
  | reported =>
    match reported.items? with
    | some [host, port, _, _] => .ok (.tuple [host, port])
    | some _ => .ok reported
    | none => .error reported.typeName

end RecordMarking
