import RecordMarking.Fault
import RecordMarking.Peer

/-!
# Notices

A notice is one entry of the diagnostic log. It is kept as what happened; `severity`,
`channel` and `text` say how it is written down. The notices about one stream, about the
life of a connection and about delimiting records on a connection go to separate channels.
-/

namespace RecordMarking

/-- How grave a notice is. -/
inductive Severity where
  | debug
  | error
deriving DecidableEq, Repr

/-- What part of the library a notice comes from. -/
inductive Channel where
  | stream
  | connection
  | delimiting
deriving DecidableEq, Repr

/-- Why an endpoint refuses a marker. -/
inductive Rejection where
  | zeroLength
  | tooLarge (length : Nat) (limit : Value)
deriving DecidableEq, Repr

/-- The wording of a rejection. -/
def Rejection.reason : Rejection → String
  | .zeroLength => "Fragment size is zero"
  | .tooLarge length limit =>
    "Fragment size (" ++ toString length ++ ") exceeds maximum record size (" ++
      limit.display ++ ")"

/-- The functions that an endpoint calls back. -/
inductive Callback where
  | onRecord
  | onPeerAvailable
  | onPeerUnavailable
deriving DecidableEq, Repr

/-- The name of a callback. -/
def Callback.name : Callback → String
  | .onRecord => "on_record"
  | .onPeerAvailable => "on_peer_available"
  | .onPeerUnavailable => "on_peer_unavailable"

/-- What happened. -/
inductive Notice where
  /-- A stream ended where a record could have begun. -/
  | streamEnded
  /-- A reader met a fragment without octets. -/
  | zeroLengthRejected
  /-- A reader met a fragment that is too large and starts to read it away. -/
  | discarding (length : Nat) (limit : Value)
  /-- Reading a fragment away failed. -/
  | discardFailed (discarded : Nat) (obstacle : Fault)
  /-- A reader accepted a fragment. -/
  | fragmentRead (length : Nat) (last : Bool)
  /-- A reader completed a record. -/
  | recordRead (length fragments : Nat)
  /-- A record was written in one fragment. -/
  | replyWritten (length : Nat)
  /-- A record was written in fragments. -/
  | recordWritten (length : Nat)
  /-- An endpoint was connected. -/
  | connectionMade (peer : Peer)
  /-- An endpoint lost its connection. -/
  | connectionLost (peer : Peer) (reason : Option Fault)
  /-- An endpoint closes its connection. -/
  | closing (peer : Peer)
  /-- A callback failed, and the failure was contained. -/
  | callbackFailed (callback : Callback) (fault : Fault)
  /-- An endpoint was asked to send something other than octets. -/
  | notOctets (typeName : String)
  /-- An endpoint was asked to send a record without octets. -/
  | nothingToSend
  /-- An endpoint sends a record that takes this many octets on the stream. -/
  | sending (length : Nat)
  /-- An endpoint refuses a marker. -/
  | rejected (rejection : Rejection) (identity : Option String)
  /-- An endpoint completed a record. -/
  | recordReceived (length : Nat)
deriving DecidableEq, Repr

namespace Notice

/-- How grave each notice is. -/
def severity : Notice → Severity
  | .zeroLengthRejected | .discarding .. | .discardFailed .. | .callbackFailed ..
  | .notOctets _ | .nothingToSend | .rejected .. => .error
  | .streamEnded | .fragmentRead .. | .recordRead .. | .replyWritten _ | .recordWritten _
  | .connectionMade _ | .connectionLost .. | .closing _ | .sending _ | .recordReceived _ => .debug

/-- Where each notice comes from. -/
def channel : Notice → Channel
  | .streamEnded | .zeroLengthRejected | .discarding .. | .discardFailed .. | .fragmentRead ..
  | .recordRead .. | .replyWritten _ | .recordWritten _ => .stream
  | .connectionMade _ | .connectionLost .. | .closing _ | .callbackFailed .. => .connection
  | .notOctets _ | .nothingToSend | .sending _ | .rejected .. | .recordReceived _ => .delimiting

/-- The failure that is written down together with a notice. -/
def attachment? : Notice → Option Fault
  | .callbackFailed _ fault => some fault
  | _ => none

/-- A truth value as notices show it. -/
def shownTruth (value : Bool) : String := (Value.truth value).literal

/-- The wording of each notice. -/
def text : Notice → String
  | .streamEnded => "Stream ended on a record boundary"
  | .zeroLengthRejected => "Rejecting zero length fragment"
  | .discarding length limit =>
    (Rejection.tooLarge length limit).reason ++ ". Discarding fragment."
  | .discardFailed discarded obstacle =>
    "Failed to discard fragment after " ++ toString discarded ++ " bytes: " ++ obstacle.message
  | .fragmentRead length last =>
    "Read fragment with " ++ toString length ++ " bytes, last=" ++ shownTruth last
  | .recordRead length fragments =>
    "Read record with " ++ toString length ++ " bytes in " ++ toString fragments ++ " fragments"
  | .replyWritten length => "Wrote reply with " ++ toString length ++ " bytes"
  | .recordWritten length => "Wrote record with " ++ toString length ++ " bytes"
  | .connectionMade peer => "Connection made. " ++ peer.shown
  | .connectionLost peer reason =>
    "Connection lost. " ++ peer.shown ++ ", reason=" ++
      (match reason with
        | some fault => fault.message
        | none => "None")
  | .closing peer => "Closing connection. " ++ peer.shown
  | .callbackFailed callback _ => "Error in " ++ callback.name ++ " callback method"
  | .notOctets typeName =>
    "data must be bytes - can't send record. data=<class '" ++ typeName ++ "'>"
  | .nothingToSend => "data must contain at least 1 byte - can't send record"
  | .sending length => "Sending record with " ++ toString length ++ " bytes"
  | .rejected rejection identity =>
    rejection.reason ++ ". Disconnecting peer " ++ Peer.shownIdentity identity ++ "."
  | .recordReceived length => "Received record with " ++ toString length ++ " bytes"

end Notice

end RecordMarking
