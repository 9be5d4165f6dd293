import RecordMarking.Endpoint.Run

/-!
# What an endpoint does with its transport

Closing and sending use up an answer of the transport, and change nothing else about an
endpoint. `progressed` is the endpoint that is left. The lemmas here give the whole outcome of
closing and sending, so that nothing else has to look into them.
-/

namespace RecordMarking

namespace Verdicts

variable {verdicts : Verdicts}

theorem first_of_accepted (accepted : ∀ verdict ∈ verdicts, verdict = none) :
    verdicts.first = .ok () := by
  match verdicts with
  | [] | none :: _ => rfl
  | some fault :: others => simp at accepted

theorem mem_of_first {fault : Fault} (failed : verdicts.first = .error fault) :
    some fault ∈ verdicts := by
  unfold first at failed
  split at failed
  · simp_all
  · simp at failed

end Verdicts

namespace Endpoint

/-- The same endpoint after so many calls of its callback for records and so many writes and
closes of its transport, and with a new assembler. -/
def progressed (records writes closes : Nat) (assembler : Assembler) (endpoint : Endpoint) :
    Endpoint :=
  { endpoint with
    assembler
    transport := endpoint.transport.map fun transport =>
      { transport with
        writes := transport.writes.drop writes
        closes := transport.closes.drop closes }
    handlers :=
      { endpoint.handlers with
        onRecord := endpoint.handlers.onRecord.map (·.drop records) } }

section Progressed

variable {endpoint : Endpoint} (records writes closes : Nat) (assembler : Assembler)

@[simp] theorem assembler_progressed :
    (endpoint.progressed records writes closes assembler).assembler = assembler := rfl

@[simp] theorem peer_progressed :
    (endpoint.progressed records writes closes assembler).peer = endpoint.peer := rfl

@[simp] theorem number_progressed :
    (endpoint.progressed records writes closes assembler).transport.map Transport.number =
      endpoint.transport.map Transport.number := by
  cases transport : endpoint.transport <;> simp [progressed, transport]

/-- Progress is made step by step. -/
theorem progressed_progressed (more offers ends : Nat) (last : Assembler) :
    (endpoint.progressed records writes closes assembler).progressed more offers ends last =
      endpoint.progressed (records + more) (writes + offers) (closes + ends) last := by
  obtain ⟨_, _, _, _, _, transport, _, ⟨onRecord, _, _⟩⟩ := endpoint
  cases transport <;> cases onRecord <;> simp [progressed]

/-- Without any progress nothing changes but the assembler. -/
theorem progressed_zero :
    endpoint.progressed 0 0 0 assembler = { endpoint with assembler } := by
  obtain ⟨_, _, _, _, _, transport, _, ⟨onRecord, _, _⟩⟩ := endpoint
  cases transport <;> cases onRecord <;> simp [progressed]

@[simp] theorem progressed_self (endpoint : Endpoint) :
    endpoint.progressed 0 0 0 endpoint.assembler = endpoint :=
  progressed_zero endpoint.assembler

end Progressed

/-- What the next close of the transport comes to. -/
def closeResult (endpoint : Endpoint) : Except Fault Unit :=
  match endpoint.transport with
  | none => .ok ()
  | some transport => transport.closes.first

/-- What is observed when the transport is told to close. -/
def closeEvents (endpoint : Endpoint) : List Event :=
  (endpoint.transport.map fun transport => .transportClose transport.number).toList

/-- What the next write to the transport comes to. -/
def writeResult (endpoint : Endpoint) : Except Fault Unit :=
  match endpoint.transport with
  | none => .error .notConnected
  | some transport => transport.writes.first

/-- What is observed when octets are handed to the transport. -/
def writeEvents (octets : Octets) (endpoint : Endpoint) : List Event :=
  (endpoint.transport.map fun transport => .transportWrite transport.number octets).toList

section Outcomes

variable {limit : Int} (endpoint : Endpoint)

theorem run_closeTransport :
    closeTransport.run endpoint =
      ⟨endpoint.closeResult, endpoint.closeEvents,
        endpoint.progressed 0 0 1 endpoint.assembler⟩ := by
  obtain ⟨_, _, _, _, _, transport, _, ⟨onRecord, _, _⟩⟩ := endpoint
  cases transport <;> cases onRecord <;>
    simp [closeTransport, closeResult, closeEvents, progressed, bind, Activity.andThen,
      Outcome.after]

theorem run_close :
    close.run endpoint =
      ⟨endpoint.closeResult, .notice (.closing endpoint.peer) :: endpoint.closeEvents,
        endpoint.progressed 0 0 1 endpoint.assembler⟩ := by
  have noted : (noteOfPeer .closing).run endpoint =
      ⟨.ok (), [.notice (.closing endpoint.peer)], endpoint⟩ := rfl
  rw [close, Activity.run_bind_ok noted, run_closeTransport]
  rfl

theorem run_writeTransport (octets : Octets) :
    (writeTransport octets).run endpoint =
      ⟨endpoint.writeResult, endpoint.writeEvents octets,
        endpoint.progressed 0 1 0 endpoint.assembler⟩ := by
  obtain ⟨_, _, _, _, _, transport, _, ⟨onRecord, _, _⟩⟩ := endpoint
  cases transport <;> cases onRecord <;>
    simp [writeTransport, writeResult, writeEvents, progressed, bind, Activity.andThen,
      Outcome.after, Activity.fail]

variable {endpoint}

/-- A record that can be framed at the endpoint's own limit is handed to the transport. -/
theorem run_send_of_framed (delimits : endpoint.delimiting = true)
    (limited : endpoint.limit = .integer limit) {record framed : Octets}
    (done : frame record (.integer (limit - 1)) = .ok framed) :
    (send (.octets record)).run endpoint =
      ⟨endpoint.writeResult, .notice (.sending framed.length) :: endpoint.writeEvents framed,
        endpoint.progressed 0 1 0 endpoint.assembler⟩ := by
  obtain ⟨nonempty, _⟩ := frame_eq_ok_iff.1 done
  rw [send, Activity.run_bind_ok (Activity.run_get endpoint), delimits]
  cases record with
  | nil => exact absurd rfl nonempty
  | cons octet others =>
    simp [limited, done, bind, Activity.andThen, Activity.note, run_writeTransport, Outcome.after]

/-- A record that cannot be framed is not sent. -/
theorem run_send_of_fault (delimits : endpoint.delimiting = true)
    (limited : endpoint.limit = .integer limit) {record : Octets} {fault : Fault}
    (something : record ≠ []) (failed : frame record (.integer (limit - 1)) = .error fault) :
    (send (.octets record)).run endpoint = ⟨.error fault, [], endpoint⟩ := by
  rw [send, Activity.run_bind_ok (Activity.run_get endpoint), delimits]
  cases record with
  | nil => exact absurd rfl something
  | cons octet others => simp [limited, failed, bind, Activity.andThen, Outcome.after]

/-- Without octets to send, nothing but a notice comes of sending. -/
theorem run_send_of_nothing (delimits : endpoint.delimiting = true) {data : Value}
    (nothing : ∀ record, data = .octets record → record = []) :
    ∃ notice, (∀ reason identity, notice ≠ .rejected reason identity) ∧
      (send data).run endpoint = ⟨.ok (), [.notice notice], endpoint⟩ := by
  rw [send, Activity.run_bind_ok (Activity.run_get endpoint), delimits]
  cases data with
  | octets record =>
    obtain rfl := nothing record rfl
    exact ⟨.nothingToSend, by simp, rfl⟩
  | _ => exact ⟨.notOctets _, by simp, rfl⟩

end Outcomes

/-- The endpoint that has taken over a connection, with what it then knows about its peer. -/
def connectedTo (connection : Connection) (peer : Peer) (endpoint : Endpoint) : Endpoint :=
  { endpoint with
    transport := some ⟨endpoint.connections + 1, connection.writes, connection.closes⟩
    connections := endpoint.connections + 1
    peer }

theorem run_reportedAddress_of_refused {reported : Value} {typeName : String}
    (refused : hostAndPort reported = .error typeName) (endpoint : Endpoint) :
    (reportedAddress reported).run endpoint =
      ⟨.error (.unsizedAddress typeName), [], endpoint⟩ := by
  rw [reportedAddress, refused]
  rfl

theorem run_reportedAddress_of_kept {reported kept : Value}
    (held : hostAndPort reported = .ok kept) (endpoint : Endpoint) :
    (reportedAddress reported).run endpoint = ⟨.ok kept, [], endpoint⟩ := by
  rw [reportedAddress, held]
  rfl

/-- With addresses that are kept, a connection is taken over as a whole. -/
theorem run_adopt_of_kept {connection : Connection} {remoteAddress localAddress : Value}
    (remote : hostAndPort connection.remoteAddress = .ok remoteAddress)
    (own : hostAndPort connection.localAddress = .ok localAddress) (endpoint : Endpoint) :
    let peer : Peer :=
      ⟨some (Peer.identityOf connection.drawn), localAddress, remoteAddress⟩
    (adopt connection).run endpoint =
      ⟨.ok (), [.notice (.connectionMade peer)], endpoint.connectedTo connection peer⟩ := by
  simp [adopt, run_reportedAddress_of_kept remote, run_reportedAddress_of_kept own, bind,
    Activity.andThen, Outcome.after, connectedTo, modifyPeer, noteOfPeer, Activity.note]

/-- A connection is taken over even if one of its addresses is refused. -/
theorem run_adopt (connection : Connection) (endpoint : Endpoint) :
    ∃ result trace peer,
      (adopt connection).run endpoint = ⟨result, trace, endpoint.connectedTo connection peer⟩ ∧
        ∀ event ∈ trace, event = .notice (.connectionMade peer) := by
  cases remote : hostAndPort connection.remoteAddress with
  | error typeName =>
    refine ⟨.error (.unsizedAddress typeName), [], endpoint.peer, ?_, by simp⟩
    simp [adopt, run_reportedAddress_of_refused remote, bind, Activity.andThen, Outcome.after,
      connectedTo]
  | ok remoteAddress =>
    cases own : hostAndPort connection.localAddress with
    | error typeName =>
      refine ⟨.error (.unsizedAddress typeName), [], { endpoint.peer with remoteAddress }, ?_,
        by simp⟩
      simp [adopt, run_reportedAddress_of_kept remote, run_reportedAddress_of_refused own, bind,
        Activity.andThen, Outcome.after, connectedTo, modifyPeer]
    | ok localAddress =>
      exact ⟨.ok (), _, _, run_adopt_of_kept remote own endpoint,
        fun event among => List.mem_singleton.1 among⟩

end Endpoint

end RecordMarking
