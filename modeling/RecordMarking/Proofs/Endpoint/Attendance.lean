import RecordMarking.Proofs.Endpoint.Bounds
import RecordMarking.Proofs.Endpoint.Retention

/-!
# What an endpoint does on one connection

Between the arrival of a peer and its departure, an endpoint calls no other callback than the one
for records, hands it itself and the identity of this peer, and closes no other transport than the
one of this connection. `attends_perform` says so of every task that keeps the connection, on an
endpoint of either kind and with any limit, and `attends_run` and `attends_serve` of all that begins
with such tasks.
-/

namespace RecordMarking

/-- The callback that an event calls, and the caller that it is handed. -/
def Event.called? : Event → Option (Callback × Caller)
  | .peerAvailable caller => some (.onPeerAvailable, caller)
  | .record caller _ => some (.onRecord, caller)
  | .peerUnavailable caller => some (.onPeerUnavailable, caller)
  | _ => none

/-- Callbacks that leave the octets of an endpoint, its limit and its connection to others: they
send, close, or fail. -/
structure Handlers.StandAside (handlers : Handlers) : Prop where
  onRecord : ∀ calls ∈ handlers.onRecord, ∀ call ∈ calls, ∀ reaction ∈ call,
    ∀ record, (Reaction.toAction record reaction).StandsAside
  onPeerAvailable : ∀ calls ∈ handlers.onPeerAvailable, ∀ call ∈ calls, ∀ action ∈ call,
    action.StandsAside
  onPeerUnavailable : ∀ calls ∈ handlers.onPeerUnavailable, ∀ call ∈ calls, ∀ action ∈ call,
    action.StandsAside

theorem Action.KeepsConnection.of_standsAside {action : Action} (aside : action.StandsAside) :
    action.KeepsConnection :=
  @keepsConnection_of_standsAside (.act action) aside

/-- An event on the connection of an endpoint: no callback is called but the one for records, with
the endpoint as the caller, and no transport is closed but the own one. -/
structure Event.Attends (endpoint : Endpoint) (event : Event) : Prop where
  called : ∀ called ∈ event.called?, called = (.onRecord, endpoint.caller)
  closed : ∀ number ∈ event.closed?, endpoint.transport.map Transport.number = some number

/-- An event on the connection of an endpoint that calls nobody back. -/
structure Event.Works (endpoint : Endpoint) (event : Event) : Prop where
  silent : event.called? = none
  closed : ∀ number ∈ event.closed?, endpoint.transport.map Transport.number = some number

namespace Endpoint

variable {endpoint : Endpoint}

section Events

variable {event : Event} {trace : List Event}

theorem works_of_quiet (silent : event.called? = none) (unclosed : event.closed? = none) :
    event.Works endpoint :=
  ⟨silent, by simp [unclosed]⟩

theorem attends_of_works (works : event.Works endpoint) : event.Attends endpoint :=
  ⟨by simp [works.silent], works.closed⟩

theorem works_notice (notice : Notice) : (Event.notice notice).Works endpoint :=
  works_of_quiet rfl rfl

theorem works_closeEvents (endpoint : Endpoint) :
    ∀ event ∈ endpoint.closeEvents, event.Works endpoint := by
  rw [closeEvents]
  cases present : endpoint.transport with
  | none => exact List.forall_mem_nil _
  | some transport =>
    refine List.forall_mem_singleton.2 ⟨rfl, ?_⟩
    rintro number ⟨⟩
    exact congrArg (Option.map Transport.number) present

theorem works_writeEvents (octets : Octets) (endpoint : Endpoint) :
    ∀ event ∈ endpoint.writeEvents octets, event.Works endpoint := by
  rw [writeEvents]
  cases endpoint.transport with
  | none => exact List.forall_mem_nil _
  | some transport => exact List.forall_mem_singleton.2 (works_of_quiet rfl rfl)

/-- The callbacks called on a connection are those for records. -/
theorem exists_replicate_of_attends (attends : ∀ event ∈ trace, event.Attends endpoint) :
    ∃ count, trace.filterMap Event.called? =
      List.replicate count (.onRecord, endpoint.caller) := by
  refine ⟨_, List.eq_replicate_of_mem ?_⟩
  intro called among
  obtain ⟨event, listed, calls⟩ := List.mem_filterMap.1 among
  exact (attends event listed).called called calls

theorem filterMap_called?_of_works (works : ∀ event ∈ trace, event.Works endpoint) :
    trace.filterMap Event.called? = [] :=
  List.filterMap_eq_nil_iff.2 fun event among => (works event among).silent

end Events

/-- Whatever is to be sent, sending uses up at most one answer of the transport. If it fails, then
in an ordinary way or as the transport answers. -/
theorem exists_run_send (data : Value) (endpoint : Endpoint) :
    ∃ result trace writes, (send data).run endpoint =
        ⟨result, trace, endpoint.progressed 0 writes 0 endpoint.assembler⟩ ∧
      (∀ event ∈ trace, event.Works endpoint) ∧
      ∀ fault, result = .error fault →
        fault.isOrdinary = true ∨ endpoint.writeResult = .error fault := by
  have refused {fault : Fault} (ran : (send data).run endpoint = ⟨.error fault, [], endpoint⟩)
      (ordinary : fault.isOrdinary = true) :
      ∃ result trace writes, (send data).run endpoint =
          ⟨result, trace, endpoint.progressed 0 writes 0 endpoint.assembler⟩ ∧
        (∀ event ∈ trace, event.Works endpoint) ∧
        ∀ fault, result = .error fault →
          fault.isOrdinary = true ∨ endpoint.writeResult = .error fault := by
    refine ⟨_, [], 0, by rw [ran, progressed_self], List.forall_mem_nil _, ?_⟩
    rintro _ ⟨⟩
    exact .inl ordinary
  cases delimits : endpoint.delimiting with
  | false =>
    refine @refused (.reported .notImplemented []) ?_ rfl
    rw [send, Activity.run_bind_ok (Activity.run_get endpoint), delimits]
    rfl
  | true =>
    by_cases nothing : ∀ record, data = .octets record → record = []
    · obtain ⟨notice, _, ran⟩ := run_send_of_nothing delimits nothing
      exact ⟨.ok (), _, 0, by rw [ran, progressed_self],
        List.forall_mem_singleton.2 (works_notice notice), by simp⟩
    · obtain ⟨record, rfl, something⟩ : ∃ record, data = .octets record ∧ record ≠ [] := by
        simpa using nothing
      obtain ⟨octet, others, rfl⟩ := List.exists_cons_of_ne_nil something
      cases sized : endpoint.limit.pred with
      | error fault =>
        refine @refused fault ?_ (Value.isOrdinary_of_pred sized)
        simp [send, delimits, sized, bind, Activity.andThen, Outcome.after]
      | ok size =>
        cases framed : frame (octet :: others) size with
        | error fault =>
          refine @refused fault ?_ (isOrdinary_of_frame framed)
          simp [send, delimits, sized, framed, bind, Activity.andThen, Outcome.after]
        | ok octets =>
          refine ⟨endpoint.writeResult,
            .notice (.sending octets.length) :: endpoint.writeEvents octets, 1, ?_,
            List.forall_mem_cons.2 ⟨works_notice _, works_writeEvents octets endpoint⟩,
            fun fault failed => .inr failed⟩
          simp [send, delimits, sized, framed, bind, Activity.andThen, Activity.note,
            run_writeTransport, Outcome.after]

/-- Where a fault can come from that an action lets out: it is ordinary, or the action raises it, or
the transport answers with it. -/
def Explains (endpoint : Endpoint) (actions : List Action) (fault : Fault) : Prop :=
  fault.isOrdinary = true ∨ .raise fault ∈ actions ∨
    ∃ transport ∈ endpoint.transport, some fault ∈ transport.writes ++ transport.closes

theorem Explains.mono {actions others : List Action} {fault : Fault}
    (explains : endpoint.Explains actions fault) (part : actions ⊆ others) :
    endpoint.Explains others fault :=
  explains.imp_right (Or.imp_left fun raised => part raised)

theorem explains_closeResult {fault : Fault} (failed : endpoint.closeResult = .error fault)
    (actions : List Action) : endpoint.Explains actions fault := by
  unfold closeResult at failed
  split at failed
  · cases failed
  · rename_i transport present
    exact .inr (.inr ⟨transport, present,
      List.mem_append_right _ (Verdicts.mem_of_first failed)⟩)

theorem explains_writeResult {fault : Fault} (failed : endpoint.writeResult = .error fault)
    (actions : List Action) : endpoint.Explains actions fault := by
  unfold writeResult at failed
  split at failed
  · cases failed
    exact .inl rfl
  · rename_i transport present
    exact .inr (.inr ⟨transport, present,
      List.mem_append_left _ (Verdicts.mem_of_first failed)⟩)

/-- An action that stands aside leaves nothing to be done, calls nobody back, and closes no other
transport than the own one. -/
theorem exists_run_of_standsAside {action : Action} (aside : action.StandsAside)
    (endpoint : Endpoint) :
    ∃ (result : Except Fault Unit) (trace : List Event) (writes closes : Nat),
      (Task.act action).perform.run endpoint =
          ⟨result.map fun _ => [], trace,
            endpoint.progressed 0 writes closes endpoint.assembler⟩ ∧
        (∀ event ∈ trace, event.Works endpoint) ∧
        ∀ fault, result = .error fault → endpoint.Explains [action] fault := by
  cases action with
  | receive | receiveNumbers | connect | lose | setLimit => exact aside.elim
  | raise fault =>
    refine ⟨.error fault, [], 0, 0, by rw [progressed_self]; rfl, List.forall_mem_nil _, ?_⟩
    rintro _ ⟨⟩
    exact .inr (.inl List.mem_cons_self)
  | close =>
    exact ⟨_, _, 0, 1, run_then_nothing (run_close endpoint),
      List.forall_mem_cons.2 ⟨works_notice _, works_closeEvents endpoint⟩,
      fun fault failed => explains_closeResult failed _⟩
  | send data =>
    obtain ⟨result, trace, writes, ran, works, fails⟩ := exists_run_send data endpoint
    refine ⟨result, trace, writes, 0, run_then_nothing ran, works, fun fault failed => ?_⟩
    rcases fails fault failed with ordinary | written
    · exact .inl ordinary
    · exact explains_writeResult written _

/-- What one task on a connection comes to: progress, tasks that keep the connection, and events
that belong to it. -/
structure Attends (endpoint : Endpoint) (outcome : Outcome Endpoint (List Task)) : Prop where
  state_eq : ∃ records writes closes assembler,
    outcome.state = endpoint.progressed records writes closes assembler
  keeps : ∀ tasks, outcome.result = .ok tasks → ∀ task ∈ tasks, task.KeepsConnection
  attends : ∀ event ∈ outcome.trace, event.Attends endpoint

/-- Nothing comes of a task that does nothing. -/
theorem attends_nothing (endpoint : Endpoint) {result : Except Fault (List Task)}
    (nothing : ∀ tasks, result = .ok tasks → tasks = []) :
    Attends endpoint ⟨result, [], endpoint⟩ where
  state_eq := ⟨0, 0, 0, _, (progressed_self endpoint).symm⟩
  keeps := by
    intro tasks done
    rw [nothing tasks done]
    exact List.forall_mem_nil _
  attends := List.forall_mem_nil _

theorem attends_of_standsAside {action : Action} (aside : action.StandsAside)
    (endpoint : Endpoint) : Attends endpoint ((Task.act action).perform.run endpoint) := by
  obtain ⟨result, trace, writes, closes, ran, works, -⟩ := exists_run_of_standsAside aside endpoint
  rw [ran]
  exact ⟨⟨0, writes, closes, _, rfl⟩,
    fun tasks done => forall_mem_of_nothing done Task.KeepsConnection,
    fun event among => attends_of_works (works event among)⟩

theorem attends_receive (octets : Octets) (endpoint : Endpoint) :
    Attends endpoint ((Task.act (.receive octets)).perform.run endpoint) := by
  cases delimits : endpoint.delimiting with
  | true =>
    rw [run_receive delimits]
    exact ⟨⟨0, 0, 0, _, rfl⟩, by simp [Task.KeepsConnection], List.forall_mem_nil _⟩
  | false =>
    have ignored : (Task.act (.receive octets)).perform.run endpoint = ⟨.ok [], [], endpoint⟩ := by
      rw [Task.perform, take, receive, Activity.run_bind_ok (Activity.run_get endpoint), delimits]
      rfl
    rw [ignored]
    exact attends_nothing endpoint (by simp)

theorem attends_receiveNumbers (numbers : List Value) (endpoint : Endpoint) :
    Attends endpoint ((Task.act (.receiveNumbers numbers)).perform.run endpoint) := by
  cases delimits : endpoint.delimiting with
  | true =>
    rw [run_receiveNumbers delimits]
    match octetsOfNumbers numbers with
    | .error fault => exact attends_nothing endpoint (by simp)
    | .ok octets => exact attends_receive octets endpoint
  | false =>
    have ignored : (Task.act (.receiveNumbers numbers)).perform.run endpoint =
        ⟨.ok [], [], endpoint⟩ := by
      rw [Task.perform, take, receiveNumbers, Activity.run_bind_ok (Activity.run_get endpoint),
        delimits]
      rfl
    rw [ignored]
    exact attends_nothing endpoint (by simp)

theorem attends_parse (aside : endpoint.handlers.StandAside) :
    Attends endpoint (Task.parse.perform.run endpoint) := by
  obtain ⟨⟨records, closes, assembler, left⟩, keeps⟩ :=
    @progress_of_parse endpoint Task.KeepsConnection
      (fun calls listed call among reaction reacting record =>
        .of_standsAside (aside.onRecord calls listed call among reaction reacting record))
      trivial trivial
  refine ⟨⟨records, 0, closes, assembler, left⟩, keeps, ?_⟩
  match step : endpoint.assembler.advance endpoint.limit with
  | .starved =>
    rw [run_parse_of_starved step]
    exact List.forall_mem_nil _
  | .rejected reason =>
    rw [run_parse_of_rejected step]
    intro event among
    apply attends_of_works
    cases among with
    | head => exact works_notice _
    | tail _ behind =>
      cases behind with
      | head => exact works_notice _
      | tail _ closing => exact works_closeEvents endpoint event closing
  | .failed fault =>
    rw [run_parse_of_failed step]
    exact List.forall_mem_nil _
  | .advanced next =>
    rw [run_parse_of_advanced step]
    exact List.forall_mem_nil _
  | .completed record next =>
    rw [run_parse_of_completed step]
    refine List.forall_mem_cons.2 ⟨attends_of_works (works_notice _), ?_⟩
    cases endpoint.handlers.onRecord with
    | none => exact List.forall_mem_nil _
    | some calls =>
      exact List.forall_mem_singleton.2 ⟨by simp [Event.called?], by simp [Event.closed?]⟩

/-- Every task that keeps the connection stays with it. -/
theorem attends_perform (aside : endpoint.handlers.StandAside) {task : Task}
    (keeps : task.KeepsConnection) : Attends endpoint (task.perform.run endpoint) := by
  cases task with
  | parse => exact attends_parse aside
  | endCallback callback =>
    have nothing : (Task.endCallback callback).perform.run endpoint = ⟨.ok [], [], endpoint⟩ := rfl
    rw [nothing]
    exact attends_nothing endpoint (by simp)
  | dismiss => exact keeps.elim
  | act action =>
    cases action with
    | connect | lose | setLimit => exact keeps.elim
    | receive octets => exact attends_receive octets endpoint
    | receiveNumbers numbers => exact attends_receiveNumbers numbers endpoint
    | raise fault => exact @attends_of_standsAside (.raise fault) trivial endpoint
    | close => exact @attends_of_standsAside .close trivial endpoint
    | send data => exact @attends_of_standsAside (.send data) trivial endpoint

/-- An endpoint that has made progress since it was another. -/
def Progresses (start endpoint : Endpoint) : Prop :=
  ∃ records writes closes assembler,
    endpoint = start.progressed records writes closes assembler

theorem progresses_self (endpoint : Endpoint) : Progresses endpoint endpoint :=
  ⟨0, 0, 0, _, (progressed_self endpoint).symm⟩

theorem standAside_progressed (aside : endpoint.handlers.StandAside)
    (records writes closes : Nat) (assembler : Assembler) :
    (endpoint.progressed records writes closes assembler).handlers.StandAside where
  onRecord := forall_mem_map_of_subset aside.onRecord fun _ => List.drop_subset _ _
  onPeerAvailable := aside.onPeerAvailable
  onPeerUnavailable := aside.onPeerUnavailable

section Attending

variable {start : Endpoint}

theorem maintains_progress (aside : start.handlers.StandAside) (task : Task)
    (endpoint : Endpoint) (keeps : task.KeepsConnection)
    (progresses : start.Progresses endpoint) :
    Maintains Task.KeepsConnection start.Progresses (task.perform.run endpoint) := by
  obtain ⟨records, writes, closes, assembler, rfl⟩ := progresses
  obtain ⟨⟨more, offers, ends, last, left⟩, kept, _⟩ :=
    attends_perform (standAside_progressed aside records writes closes assembler) keeps
  refine ⟨⟨records + more, writes + offers, closes + ends, last, ?_⟩, kept⟩
  rw [left, progressed_progressed]

/-- A task on an endpoint that has made progress stays with the connection that it began with. -/
theorem attends_of_progresses (aside : start.handlers.StandAside) {entry : Task × Endpoint}
    (current : entry.1.KeepsConnection ∧ start.Progresses entry.2) :
    ∀ event ∈ (entry.1.perform.run entry.2).trace, event.Attends start := by
  obtain ⟨task, endpoint⟩ := entry
  obtain ⟨keeps, records, writes, closes, assembler, rfl⟩ := current
  intro event among
  obtain ⟨called, closed⟩ :=
    (attends_perform (standAside_progressed aside records writes closes assembler) keeps).attends
      event among
  refine ⟨called, ?_⟩
  rwa [number_progressed] at closed

/-- A run of tasks that keep the connection stays with it. -/
theorem attends_run (aside : start.handlers.StandAside) {tasks : List Task}
    (keeps : ∀ task ∈ tasks, task.KeepsConnection) :
    start.Progresses (run tasks start).state ∧
      ∀ event ∈ (run tasks start).trace, event.Attends start := by
  obtain ⟨left, always⟩ := run_invariant (maintains_progress aside) keeps (progresses_self start)
  refine ⟨left, forall_mem_trace_run (fun _ _ => attends_of_works (works_notice _)) ?_⟩
  exact fun entry among => attends_of_progresses aside (always entry among)

/-- Calls that keep the connection stay with it. -/
theorem attends_serve (aside : start.handlers.StandAside) {calls : List Action}
    (keeps : ∀ call ∈ calls, call.KeepsConnection) (progresses : start.Progresses endpoint) :
    start.Progresses (serve calls endpoint).endpoint ∧
      ∀ event ∈ (serve calls endpoint).trace, event.Attends start := by
  obtain ⟨left, always⟩ := serve_invariant (maintains_progress aside) keeps progresses
  refine ⟨left, forall_mem_trace_serve (fun _ _ => attends_of_works (works_notice _)) ?_⟩
  exact fun entry among => attends_of_progresses aside (always entry among)

end Attending

end Endpoint

end RecordMarking
