import RecordMarking.Notice

/-!
# Events

A run of any part of the library is observed as a list of events in the order in which they
happen: what is asked of a stream or a transport, what is reported to callbacks, what is
written to the log, and what a program shows to its user.
-/

namespace RecordMarking

/-- A line that a program shows to its user. -/
inductive Announcement where
  /-- A server accepted a client. -/
  | clientConnected (address : Value)
  /-- A server read a record. -/
  | recordReceived (address : Value) (record : Octets)
  /-- A server gives a client up. -/
  | givingUp (address : Value) (fault : Fault)
  /-- A server is done with a client. -/
  | clientDisconnected (address : Value)
  | serverStarted
  | serverStopped
  /-- A client reached its server. -/
  | connected
  /-- A client received a reply. -/
  | replyReceived (reply : String)
  /-- A client is done. -/
  | disconnected
deriving DecidableEq, Repr

/-- The wording of an announcement. -/
def Announcement.text : Announcement → String
  | .clientConnected address => "Client " ++ address.display ++ " connected"
  | .recordReceived address record =>
    "Server received record from " ++ address.display ++ ": " ++ Text.quoteOctets record
  | .givingUp address fault => "Disconnecting " ++ address.display ++ ": " ++ fault.message
  | .clientDisconnected address => "Client " ++ address.display ++ " disconnected"
  | .serverStarted => "Server has started"
  | .serverStopped => "Server has stopped"
  | .connected => "Client connected"
  | .replyReceived reply => "Client received reply: " ++ reply
  | .disconnected => "Client disconnected"

/-- How much of the log a program writes down. -/
inductive LogLevel where
  | debug
  | info
  | error
deriving DecidableEq, Repr

/-- What every callback is handed: the endpoint that calls back, by its number, and the identity
of its peer. -/
structure Caller where
  endpoint : Nat
  identity : Option String
deriving DecidableEq, Repr

/-- An observable effect. -/
inductive Event where
  /-- An entry of the log. -/
  | notice (notice : Notice)
  /-- A stream was asked for up to this many octets. -/
  | request (count : Nat)
  /-- Octets were offered to a stream. -/
  | offer (octets : Octets)
  /-- A stream was asked to pass on what it holds back. -/
  | flush
  /-- A line was shown. -/
  | announce (announcement : Announcement)
  /-- Octets were handed to a numbered transport. -/
  | transportWrite (transport : Nat) (octets : Octets)
  /-- A numbered transport was told to close. -/
  | transportClose (transport : Nat)
  /-- A callback was told that the peer is available. -/
  | peerAvailable (caller : Caller)
  /-- A callback was handed a record. -/
  | record (caller : Caller) (record : Octets)
  /-- A callback was told that the peer is gone. -/
  | peerUnavailable (caller : Caller)
  /-- The log was set up. -/
  | logging (level : LogLevel)
  /-- A connection to a host and port was opened. -/
  | connect (host port : Value)
  /-- A server was bound to a host and port. -/
  | listen (host port : Value)
  /-- A program waited for so many seconds. -/
  | pause (seconds : Nat)
  /-- The handler of a connection failed without containing the failure. -/
  | handlerFailed (fault : Fault)
deriving DecidableEq, Repr

namespace Event

/-- The announcement that an event is. -/
def announced? : Event → Option Announcement
  | .announce announcement => some announcement
  | _ => none

/-- The text that an event shows to the user of a program. -/
def printed? (event : Event) : Option String :=
  event.announced?.map Announcement.text

/-- The record in an event that hands one to a callback. -/
def delivered? : Event → Option Octets
  | .record _ delivered => some delivered
  | _ => none

/-- The number of octets that an event asks a stream for. -/
def requested? : Event → Option Nat
  | .request count => some count
  | _ => none

end Event

/-- The lines that a run shows to the user of a program. -/
def printed (trace : List Event) : List String :=
  trace.filterMap Event.printed?

/-- They are the wordings of its announcements. -/
theorem printed_eq_map (trace : List Event) :
    printed trace = (trace.filterMap Event.announced?).map Announcement.text :=
  List.map_filterMap.symm

end RecordMarking
