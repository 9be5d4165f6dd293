import RecordMarking.Proofs.Frames
import RecordMarking.Proofs.Endpoint.Reception

/-!
# Records travel between endpoints

What an endpoint writes while it works on a connection are the frames of the records that it was
asked to send, whatever else it is doing: `transmits_perform` says so of one task, and
`written_serve` of a whole service. `sent_records_arrive` hands the octets to another endpoint,
which delivers just these records.
-/

namespace RecordMarking

/-- The octets that an event hands to a transport. -/
def Event.written : Event → Octets
  | .transportWrite _ octets => octets
  | _ => []

/-- An action that leaves the limit and the connection of an endpoint as they are. -/
def Action.KeepsConnection : Action → Prop
  | .receive _ | .receiveNumbers _ | .send _ | .close | .raise _ => True
  | .connect _ | .lose _ | .setLimit _ => False

/-- A task that leaves the limit and the connection of an endpoint as they are. -/
def Task.KeepsConnection : Task → Prop
  | .act action => action.KeepsConnection
  | .parse | .endCallback _ => True
  | .dismiss => False

/-- The record that a task is to send: anything that is a sequence of at least one octet. -/
def Task.sent? : Task → Option Octets
  | .act (.send (.octets (octet :: others))) => some (octet :: others)
  | _ => none

/-- The octets that a record takes on the stream at the limit of its sender. -/
def framedBelow (limit : Int) (record : Octets) : Octets :=
  (fragments (limit - 1).toNat record).flatMap Fragment.octets

namespace Endpoint

/-- An endpoint that delimits up to a limit and works on a transport that accepts every write,
while its callback for records keeps the connection. -/
structure Sends (limit : Int) (endpoint : Endpoint) : Prop where
  delimits : endpoint.delimiting = true
  limited : endpoint.limit = .integer limit
  accepts : ∃ transport, endpoint.transport = some transport ∧
    ∀ verdict ∈ transport.writes, verdict = none
  keeps : ∀ calls ∈ endpoint.handlers.onRecord, ∀ call ∈ calls, ∀ reaction ∈ call,
    ∀ record, (Reaction.toAction record reaction).KeepsConnection

section Sends

variable {limit : Int} {endpoint : Endpoint}

theorem sends_progressed (sends : endpoint.Sends limit) (records writes closes : Nat)
    (assembler : Assembler) :
    (endpoint.progressed records writes closes assembler).Sends limit := by
  obtain ⟨delimits, limited, ⟨transport, present, accepts⟩, keeps⟩ := sends
  refine ⟨delimits, limited, ⟨_, congrArg (Option.map _) present, ?_⟩, ?_⟩
  · exact fun verdict among => accepts verdict (List.mem_of_mem_drop among)
  · intro later listed call among
    obtain ⟨calls, before, rfl⟩ := Option.map_eq_some_iff.1 listed
    exact keeps calls before call (List.mem_of_mem_drop among)

/-- An outcome that keeps the connection and writes the frames of some records. -/
structure Transmits (limit : Int) (endpoint : Endpoint) (records : List Octets)
    (outcome : Outcome Endpoint (List Task)) : Prop where
  state_eq : ∃ records writes closes assembler,
    outcome.state = endpoint.progressed records writes closes assembler
  keeps : ∀ tasks, outcome.result = .ok tasks → ∀ task ∈ tasks, task.KeepsConnection
  written_eq : outcome.trace.flatMap Event.written = records.flatMap (framedBelow limit)

theorem writeResult_of_sends (sends : endpoint.Sends limit) : endpoint.writeResult = .ok () := by
  obtain ⟨transport, present, accepts⟩ := sends.accepts
  simp only [writeResult, present]
  exact Verdicts.first_of_accepted accepts

theorem written_closeEvents (endpoint : Endpoint) :
    endpoint.closeEvents.flatMap Event.written = [] := by
  rw [closeEvents]
  cases endpoint.transport <;> rfl

theorem written_writeEvents (sends : endpoint.Sends limit) (octets : Octets) :
    (endpoint.writeEvents octets).flatMap Event.written = octets := by
  obtain ⟨transport, present, _⟩ := sends.accepts
  simp [writeEvents, present, Event.written]

theorem transmits_parse (sends : endpoint.Sends limit) :
    Transmits limit endpoint [] (Task.parse.perform.run endpoint) := by
  obtain ⟨⟨records, closes, assembler, left⟩, keeps⟩ :=
    @progress_of_parse endpoint Task.KeepsConnection sends.keeps trivial trivial
  refine ⟨⟨records, 0, closes, assembler, left⟩, keeps, ?_⟩
  match step : endpoint.assembler.advance endpoint.limit with
  | .starved =>
    rw [run_parse_of_starved step]
    rfl
  | .rejected reason =>
    rw [run_parse_of_rejected step]
    exact written_closeEvents endpoint
  | .failed fault =>
    rw [run_parse_of_failed step]
    rfl
  | .advanced next =>
    rw [run_parse_of_advanced step]
    rfl
  | .completed record next =>
    rw [run_parse_of_completed step]
    cases endpoint.handlers.onRecord <;> rfl

theorem transmits_receive (sends : endpoint.Sends limit) (octets : Octets) :
    Transmits limit endpoint [] ((Task.act (.receive octets)).perform.run endpoint) := by
  rw [run_receive sends.delimits]
  exact ⟨⟨0, 0, 0, _, rfl⟩, by simp [Task.KeepsConnection], rfl⟩

/-- A record below the limit of its sender is framable at any limit that is not lower. -/
theorem framable_of_limit {upper : Int} (enough : 2 ≤ limit) (bounded : limit ≤ 0x80000000)
    (ordered : limit ≤ upper) {record : Octets} (something : record ≠ []) :
    Framable upper record (limit - 1) := by
  refine ⟨something, by omega, ?_, by omega⟩
  rw [Marker.maxLength]
  omega

theorem transmits_send (enough : 2 ≤ limit) (bounded : limit ≤ 0x80000000)
    (sends : endpoint.Sends limit) (data : Value) :
    Transmits limit endpoint (Task.sent? (.act (.send data))).toList
      ((Task.act (.send data)).perform.run endpoint) := by
  by_cases nothing : ∀ record, data = .octets record → record = []
  · obtain ⟨notice, _, ran⟩ := run_send_of_nothing sends.delimits nothing
    have none : Task.sent? (.act (.send data)) = none := by
      cases data with
      | octets record =>
        obtain rfl := nothing record rfl
        rfl
      | _ => rfl
    rw [none, Task.perform, take, run_then_nothing ran]
    exact ⟨⟨0, 0, 0, _, (progressed_self endpoint).symm⟩, by simp [Except.map], rfl⟩
  · obtain ⟨record, rfl, something⟩ : ∃ record, data = .octets record ∧ record ≠ [] := by
      simpa using nothing
    have framed := (framable_of_limit enough bounded (Int.le_refl limit) something).frame_eq
    have ran := run_send_of_framed sends.delimits sends.limited framed
    rw [writeResult_of_sends sends] at ran
    rw [Task.perform, take, run_then_nothing ran]
    have sent : Task.sent? (.act (.send (.octets record))) = some record := by
      cases record with
      | nil => exact absurd rfl something
      | cons octet others => rfl
    rw [sent]
    refine ⟨⟨0, 1, 0, _, rfl⟩, by simp [Except.map], ?_⟩
    rw [Option.toList_some, List.flatMap_singleton]
    exact written_writeEvents sends _

/-- A task that keeps the connection writes the frames of the record that it is to send, if
any. -/
theorem transmits_perform (enough : 2 ≤ limit) (bounded : limit ≤ 0x80000000)
    (sends : endpoint.Sends limit) {task : Task} (keeps : task.KeepsConnection) :
    Transmits limit endpoint task.sent?.toList (task.perform.run endpoint) := by
  have same : endpoint = endpoint.progressed 0 0 0 endpoint.assembler :=
    (progressed_self endpoint).symm
  cases task with
  | parse => exact transmits_parse sends
  | endCallback callback => exact ⟨⟨0, 0, 0, _, same⟩, by rintro tasks ⟨⟩; simp, rfl⟩
  | dismiss => exact keeps.elim
  | act action =>
    cases action with
    | connect | lose | setLimit => exact keeps.elim
    | raise fault => exact ⟨⟨0, 0, 0, _, same⟩, by rintro tasks ⟨⟩, rfl⟩
    | receive octets => exact transmits_receive sends octets
    | receiveNumbers numbers =>
      rw [run_receiveNumbers sends.delimits]
      match octetsOfNumbers numbers with
      | .error fault => exact ⟨⟨0, 0, 0, _, same⟩, by simp, rfl⟩
      | .ok octets => exact transmits_receive sends octets
    | close =>
      rw [Task.perform, take, run_then_nothing (run_close endpoint)]
      exact ⟨⟨0, 0, 1, _, rfl⟩,
        fun tasks done => forall_mem_of_nothing done Task.KeepsConnection,
        written_closeEvents endpoint⟩
    | send data => exact transmits_send enough bounded sends data

/-- The records that tasks are to send. -/
def sentRecords (entries : List (Task × Endpoint)) : List Octets :=
  entries.filterMap fun entry => entry.1.sent?

/-- Tasks that keep the connection write the frames of the records that they are to send. -/
theorem flatMap_observed_written (enough : 2 ≤ limit) (bounded : limit ≤ 0x80000000)
    {entries : List (Task × Endpoint)}
    (transmitting : ∀ entry ∈ entries, entry.1.KeepsConnection ∧ entry.2.Sends limit) :
    entries.flatMap (observed Event.written) =
      (sentRecords entries).flatMap (framedBelow limit) := by
  induction entries with
  | nil => rfl
  | cons entry later inductionHypothesis =>
    obtain ⟨keeps, sends⟩ := transmitting entry (by simp)
    have first := (transmits_perform enough bounded sends keeps).written_eq
    have others := inductionHypothesis fun other among => transmitting other (by simp [among])
    rw [List.flatMap_cons, others, observed, first, sentRecords, sentRecords,
      List.filterMap_cons]
    cases entry.1.sent? <;> simp

theorem maintains_perform (enough : 2 ≤ limit) (bounded : limit ≤ 0x80000000) (task : Task)
    (endpoint : Endpoint) (keeps : task.KeepsConnection) (sends : endpoint.Sends limit) :
    Maintains Task.KeepsConnection (Sends limit) (task.perform.run endpoint) := by
  obtain ⟨⟨records, writes, closes, assembler, left⟩, kept, _⟩ :=
    transmits_perform enough bounded sends keeps
  exact ⟨left ▸ sends_progressed sends records writes closes assembler, kept⟩

end Sends

/-- An endpoint that delimits up to a limit and whose callbacks keep the connection. -/
structure ReadyToSend (limit : Int) (endpoint : Endpoint) : Prop where
  delimits : endpoint.delimiting = true
  limited : endpoint.limit = .integer limit
  keeps : ∀ calls ∈ endpoint.handlers.onRecord, ∀ call ∈ calls, ∀ reaction ∈ call,
    ∀ record, (Reaction.toAction record reaction).KeepsConnection
  arrives : ∀ calls ∈ endpoint.handlers.onPeerAvailable, ∀ call ∈ calls, ∀ action ∈ call,
    action.KeepsConnection

section Serve

variable {limit : Int} {sender : Endpoint} {connection : Connection}

/-- From a new connection on, a sender only performs tasks that keep it. -/
theorem transmitting_of_connect (enough : 2 ≤ limit) (bounded : limit ≤ 0x80000000)
    (ready : sender.ReadyToSend limit) (accepts : ∀ verdict ∈ connection.writes, verdict = none) :
    ((perform [.connect connection]).run sender).state.Sends limit ∧
      ∃ others,
        performed [.act (.connect connection)] sender =
            (.act (.connect connection), sender) :: others ∧
          ∀ entry ∈ others, entry.1.KeepsConnection ∧ entry.2.Sends limit := by
  obtain ⟨peer, calls, left, tasksEq, _⟩ := run_connect connection sender
  rw [run_perform_singleton]
  match done : (Task.act (.connect connection)).perform.run sender with
  | ⟨result, trace, next⟩ =>
    rw [done] at left tasksEq
    have sends : next.Sends limit := by
      rw [show next = _ from left]
      exact ⟨ready.delimits, ready.limited, ⟨_, rfl, accepts⟩, ready.keeps⟩
    cases result with
    | error fault =>
      rw [run_of_escaped done rfl, performed_of_escaped done rfl]
      exact ⟨sends, [], rfl, by simp⟩
    | ok tasks =>
      obtain rfl := tasksEq tasks rfl
      have arrives : ∀ call ∈ sender.handlers.onPeerAvailable.getD [], ∀ action ∈ call,
          (id action).KeepsConnection := forall_mem_getD ready.arrives
      have keeps : ∀ task ∈ callbackTasks id .onPeerAvailable
          (sender.handlers.onPeerAvailable.getD []), task.KeepsConnection :=
        forall_mem_callbackTasks arrives .onPeerAvailable trivial
      obtain ⟨lastly, always⟩ := run_invariant (maintains_perform enough bounded) keeps sends
      rw [run_of_ok done, performed_of_ok done, List.append_nil]
      exact ⟨lastly, _, rfl, always⟩

/-- On one connection a sender writes the frames of the records that it is to send, in order. -/
theorem written_serve (enough : 2 ≤ limit) (bounded : limit ≤ 0x80000000)
    (ready : sender.ReadyToSend limit) (accepts : ∀ verdict ∈ connection.writes, verdict = none)
    {calls : List Action} (keeps : ∀ call ∈ calls, call.KeepsConnection) :
    (serve (.connect connection :: calls) sender).trace.flatMap Event.written =
      (sentRecords (serve (.connect connection :: calls) sender).performed).flatMap
        (framedBelow limit) := by
  obtain ⟨sends, others, listed, arriving⟩ := transmitting_of_connect enough bounded ready accepts
  have later := (serve_invariant (maintains_perform enough bounded) keeps sends).2
  have connecting : observed Event.written (.act (.connect connection), sender) = [] := by
    obtain ⟨peer, _, _, _, announced⟩ := run_connect connection sender
    refine List.flatMap_eq_nil_iff.2 fun event among => ?_
    rcases announced event among with rfl | rfl <;> rfl
  have transmitting := flatMap_observed_written enough bounded
    (List.forall_mem_append.2 ⟨arriving, later⟩)
  rw [flatMap_trace_serve fun _ _ => rfl]
  simp only [serve, listed, List.cons_append, List.flatMap_cons, connecting, List.nil_append]
  exact transmitting

end Serve

/-- Only sequences of at least one octet are records. -/
theorem ne_nil_of_mem_sentRecords {entries : List (Task × Endpoint)} {record : Octets}
    (among : record ∈ sentRecords entries) : record ≠ [] := by
  obtain ⟨entry, _, sent⟩ := List.mem_filterMap.1 among
  unfold Task.sent? at sent
  split at sent
  · simp [← Option.some.inj sent]
  · simp at sent

/-- The frames of records come to these records, and to nothing else. -/
theorem settle_frames {limit : Int} {records : List (Octets × Int)}
    (framable : ∀ entry ∈ records, Framable limit entry.1 entry.2) :
    Assembler.settle limit
        (Assembler.empty.receive
          ((fragmentGroups records).map (·.flatMap Fragment.octets)).flatten) =
      ((records.map Prod.fst).map .record, .empty) := by
  have parted := split_flatten_frames
    fun group among fragment => accepted_of_mem_fragmentGroups framable among
  have grouped := regroup_flatten fun group => formRecord_of_mem_fragmentGroups framable
  rw [map_join_fragmentGroups] at grouped
  generalize ((fragmentGroups records).map (·.flatMap Fragment.octets)).flatten = frames at parted
  have pending : (Assembler.empty.receive frames).pending = frames := rfl
  have short : ([] : Octets).length < Marker.size := by decide
  have kept : (Assembler.empty.receive frames).refusal? limit = none := by
    rw [Assembler.refusal?, pending, parted, front_of_short short]
    rfl
  rw [Assembler.settle_of_no_refusal kept, pending, parted]
  have begun : (Assembler.empty.receive frames).collected = [] := rfl
  rw [begun, grouped, Assembler.waiting_of_short [] short]
  rfl

/-- What one endpoint writes on a connection, whatever else it does there, another endpoint with
no lower limit takes for exactly the records that the first one was asked to send. -/
theorem sent_records_arrive {senderLimit receiverLimit : Int} {sender receiver : Endpoint}
    {connection : Connection} {calls : List Action} {slices : List Octets}
    (enough : 2 ≤ senderLimit) (ordered : senderLimit ≤ receiverLimit)
    (bounded : senderLimit ≤ 0x80000000) (ready : sender.ReadyToSend senderLimit)
    (accepts : ∀ verdict ∈ connection.writes, verdict = none)
    (keeps : ∀ call ∈ calls, call.KeepsConnection) (receptive : receiver.Receptive receiverLimit)
    (fresh : receiver.assembler = .empty)
    (carried : slices.flatten =
      (serve (.connect connection :: calls) sender).trace.flatMap Event.written) :
    let sent := sentRecords (serve (.connect connection :: calls) sender).performed
    let service := serve (slices.map .receive) receiver
    service.trace.filterMap Event.finding? = sent.map .record ∧
      service.endpoint.assembler = .empty ∧ ∀ result ∈ service.results, result = .ok () := by
  intro sent service
  have framable : ∀ entry ∈ sent.map fun record => (record, senderLimit - 1),
      Framable receiverLimit entry.1 entry.2 := by
    intro entry among
    obtain ⟨record, listed, rfl⟩ := List.mem_map.1 among
    exact framable_of_limit enough bounded ordered (ne_nil_of_mem_sentRecords listed)
  have written : slices.flatten =
      ((fragmentGroups (sent.map fun record => (record, senderLimit - 1))).map
        (·.flatMap Fragment.octets)).flatten := by
    rw [carried, written_serve enough bounded ready accepts keeps, fragmentGroups, List.map_map,
      List.map_map, List.flatMap_def]
    rfl
  have settles := settle_frames framable
  rw [← written] at settles
  have kept : (Assembler.empty.receive slices.flatten).refusal? receiverLimit = none := by
    have none := Assembler.reasons_settle receiverLimit (Assembler.empty.receive slices.flatten)
    rw [settles, reasons_records] at none
    exact Option.toList_eq_nil_iff.1 none.symm
  have together :=
    Assembler.settleAll_of_no_refusal (Assembler.settle_empty receiverLimit) kept
  have wellFormed : receiver.assembler.WellFormed receiverLimit :=
    Assembler.wellFormed_of_eq_empty fresh
  obtain ⟨⟨records, writes, closes, left⟩, found, succeeds, _⟩ :=
    receives_serve receptive wellFormed slices
  rw [fresh, together, settles] at left found succeeds
  refine ⟨?_, by rw [left]; rfl, succeeds (.inl (reasons_records _))⟩
  rw [found]
  simp

/-- A sender that sends from its callback and from outside, in between octets that it refuses, and
a receiver that gets what it writes octet by octet. -/
theorem sent_records_arrive_octet_by_octet :
    let sender : Endpoint :=
      ⟨1, true, .integer 3, .empty, .unconnected, none, 0,
        ⟨some [[.echo]], some [[.send (.octets [1, 2, 3])]], none⟩⟩
    let receiver : Endpoint :=
      ⟨2, true, .integer 3, .empty, .unconnected, none, 0, ⟨some [], none, none⟩⟩
    let connection : Connection := ⟨.absent, .absent, ⟨[0, 0, 0, 0, 0], rfl⟩, [], []⟩
    let calls : List Action :=
      [.receive [0x80, 0, 0, 1, 9, 0, 0], .send (.octets []), .send (.text "no octets"),
        .receive [0, 0], .send (.octets [4, 5]), .close]
    let slices := ((serve (.connect connection :: calls) sender).trace.flatMap
      Event.written).map fun octet => [octet]
    (serve (slices.map .receive) receiver).trace.filterMap Event.finding? =
        [.record [1, 2, 3], .record [9], .record [4, 5]] ∧
      (serve (slices.map .receive) receiver).endpoint.assembler = .empty := by
  intro sender receiver connection calls slices
  have ready : sender.ReadyToSend 3 := by
    refine ⟨rfl, rfl, ?_, ?_⟩
    · simp [sender, Reaction.toAction, Action.KeepsConnection]
    · simp [sender, Action.KeepsConnection]
  have keeps : ∀ call ∈ calls, call.KeepsConnection := by simp [calls, Action.KeepsConnection]
  have receptive : receiver.Receptive 3 :=
    ⟨rfl, rfl, ⟨[], rfl, by simp⟩, fun _ present => absurd present (by simp [receiver])⟩
  have carried : slices.flatten =
      (serve (.connect connection :: calls) sender).trace.flatMap Event.written :=
    List.flatMap_singleton' _
  obtain ⟨found, left, _⟩ := sent_records_arrive (by decide) (by decide) (by decide) ready
    (by simp [connection]) keeps receptive rfl carried
  have sent : sentRecords (serve (.connect connection :: calls) sender).performed =
      [[1, 2, 3], [9], [4, 5]] := by decide +kernel
  rw [sent] at found
  exact ⟨found, left⟩

end Endpoint

end RecordMarking
