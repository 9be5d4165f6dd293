import RecordMarking.Duplex

/-!
# The echo handler

The handler of an echo server sends every record of a client back to it, each in a single
fragment. It reads a record only after the reply to the one before was written. When the
position in the stream can no longer be trusted, because the peer violated the protocol or
the system failed, the client is given up; any other fault is not the handler's to contain.

`replyToAll_eq` is the loop as a program: read a record, and unless there was none, show it,
reply, and go on.
-/

namespace RecordMarking.Echo

/-- Read a record, if there is one more. -/
def nextRequest (limit : Value) : Activity Duplex (Option Octets) :=
  Duplex.receiving (Source.nextRecord limit)

/-- Show a record and send it back. -/
def reply (address : Value) (record : Octets) : Activity Duplex Unit := do
  .announce (.recordReceived address record)
  Duplex.sending (Sink.writeReply record)

/-- Replies do not touch what comes in. -/
theorem input_reply (address : Value) (record : Octets) (duplex : Duplex) :
    ((reply address record).run duplex).state.input = duplex.input := rfl

/-- A record that was read took octets away. -/
theorem unread_nextRequest_lt {limit : Value} {duplex next : Duplex} {record : Octets}
    {trace : List Event}
    (read : (nextRequest limit).run duplex = ⟨.ok (some record), trace, next⟩) :
    next.input.unread < duplex.input.unread := by
  match received : (Source.nextRecord limit).run duplex.input with
  | ⟨result, requests, rest⟩ =>
    simp only [nextRequest, Duplex.run_receiving, received, Outcome.mk.injEq] at read
    obtain ⟨rfl, _, rfl⟩ := read
    exact Source.unread_nextRecord_lt received

/-- One run of `replyToAll`. -/
def replyToAllFrom (address : Value) (limit : Value) (duplex : Duplex) : Outcome Duplex Unit :=
  match _read : (nextRequest limit).run duplex with
  | ⟨.error fault, trace, next⟩ => ⟨.error fault, trace, next⟩
  | ⟨.ok none, trace, next⟩ => ⟨.ok (), trace, next⟩
  | ⟨.ok (some record), trace, next⟩ =>
    match _replied : (reply address record).run next with
    | ⟨.error fault, later, last⟩ => ⟨.error fault, trace ++ later, last⟩
    | ⟨.ok (), later, last⟩ => (replyToAllFrom address limit last).after (trace ++ later)
termination_by duplex.input.unread
decreasing_by
  have untouched := input_reply address record next
  rw [_replied] at untouched
  rw [untouched]
  exact unread_nextRequest_lt _read

/-- Reply to records until there are no more. -/
def replyToAll (address : Value) (limit : Value) : Activity Duplex Unit :=
  ⟨replyToAllFrom address limit⟩

/-- Replying to all records is replying to one and then to the others, unless there is none. -/
theorem replyToAll_eq (address : Value) (limit : Value) :
    replyToAll address limit =
      (do
        match ← nextRequest limit with
        | none => pure ()
        | some record =>
          reply address record
          replyToAll address limit) := by
  ext duplex
  simp only [replyToAll]
  rw [replyToAllFrom]
  split
  · rename_i read
    exact (Activity.run_bind_error read).symm
  · rename_i read
    rw [Activity.run_bind_ok read]
    simp [Outcome.after]
  · rename_i record trace next read
    rw [Activity.run_bind_ok read]
    dsimp only
    split
    · rename_i replied
      rw [Activity.run_bind_error replied]
      rfl
    · rename_i replied
      rw [Activity.run_bind_ok replied, Outcome.after_after]

/-- Whether a fault makes the handler give the client up. -/
def endsConversation (fault : Fault) : Bool :=
  fault.isProtocolViolation || fault.isSystem

/-- Serve one client from its first record to its last. -/
def handle (address : Value) (limit : Value) : Activity Duplex Unit := do
  .announce (.clientConnected address)
  (replyToAll address limit).rescue endsConversation fun fault =>
    .announce (.givingUp address fault)
  .announce (.clientDisconnected address)

end RecordMarking.Echo
