import RecordMarking.Proofs.Endpoint.Transport

/-!
# The outcomes of the tasks of an endpoint

Each lemma here gives the whole outcome of performing a task, or of the part of it that is not
about the transport, in one of the cases that can occur.
-/

namespace RecordMarking.Endpoint

/-- An activity after which nothing is left to be done. -/
theorem run_then_nothing {activity : Activity Endpoint Unit} {endpoint next : Endpoint}
    {result : Except Fault Unit} {trace : List Event}
    (ran : activity.run endpoint = ⟨result, trace, next⟩) :
    (activity >>= fun _ => pure ([] : List Task)).run endpoint =
      ⟨result.map fun _ => [], trace, next⟩ := by
  cases result with
  | error fault => exact Activity.run_bind_error ran
  | ok value =>
    rw [Activity.run_bind_ok ran]
    simp [Outcome.after, Except.map]

/-- What is left to be done after it is of every kind. -/
theorem forall_mem_of_nothing {result : Except Fault Unit} {tasks : List Task}
    (done : (result.map fun _ => []) = .ok tasks) (kind : Task → Prop) :
    ∀ task ∈ tasks, kind task := by
  cases result with
  | error fault => cases done
  | ok value =>
    cases done
    exact List.forall_mem_nil _

section Receive

variable {endpoint : Endpoint}

theorem run_receive (delimits : endpoint.delimiting = true) (octets : Octets) :
    (Task.act (.receive octets)).perform.run endpoint =
      ⟨.ok [.parse], [], endpoint.progressed 0 0 0 (endpoint.assembler.receive octets)⟩ := by
  rw [progressed_zero, Task.perform, take, Endpoint.receive,
    Activity.run_bind_ok (Activity.run_get endpoint), if_pos delimits]
  rfl

/-- Numbers are taken in as the octets they are, or not at all. -/
theorem run_receiveNumbers (delimits : endpoint.delimiting = true) (numbers : List Value) :
    (Task.act (.receiveNumbers numbers)).perform.run endpoint =
      match octetsOfNumbers numbers with
      | .error fault => ⟨.error fault, [], endpoint⟩
      | .ok octets => (Task.act (.receive octets)).perform.run endpoint := by
  rw [Task.perform, take, receiveNumbers, Activity.run_bind_ok (Activity.run_get endpoint),
    if_pos delimits]
  cases octetsOfNumbers numbers <;> rfl

end Receive

/-- What is observed when a marker is refused. -/
def refusalEvents (reason : Rejection) (endpoint : Endpoint) : List Event :=
  .notice (.rejected reason endpoint.peer.identity) :: .notice (.closing endpoint.peer) ::
    endpoint.closeEvents

section Callbacks

/-- What holds of all calls of a callback, if there is one, holds of all its calls. -/
theorem forall_mem_getD {Call : Type} {calls : Option (List Call)} {property : Call → Prop}
    (each : ∀ listed ∈ calls, ∀ call ∈ listed, property call) :
    ∀ call ∈ calls.getD [], property call := by
  cases calls with
  | none => simp
  | some listed => exact each listed rfl

theorem run_notifyRecord (record : Octets) (endpoint : Endpoint) :
    (notifyRecord record).run endpoint =
      ⟨.ok (callbackTasks (Reaction.toAction record) .onRecord
          (endpoint.handlers.onRecord.getD [])),
        (endpoint.handlers.onRecord.map fun _ => .record endpoint.caller record).toList,
        endpoint.progressed 1 0 0 endpoint.assembler⟩ := by
  obtain ⟨_, _, _, _, _, transport, _, ⟨onRecord, _, _⟩⟩ := endpoint
  cases transport <;> cases onRecord <;>
    simp [notifyRecord, caller, bind, Activity.andThen, Outcome.after, progressed, callbackTasks]

theorem run_notifyPeerAvailable (endpoint : Endpoint) :
    notifyPeerAvailable.run endpoint =
      ⟨.ok (callbackTasks id .onPeerAvailable (endpoint.handlers.onPeerAvailable.getD [])),
        (endpoint.handlers.onPeerAvailable.map fun _ =>
          .peerAvailable endpoint.caller).toList,
        { endpoint with
          handlers :=
            { endpoint.handlers with
              onPeerAvailable := endpoint.handlers.onPeerAvailable.map List.tail } }⟩ := by
  obtain ⟨_, _, _, _, _, _, _, ⟨_, onPeerAvailable, _⟩⟩ := endpoint
  cases onPeerAvailable <;>
    simp [notifyPeerAvailable, caller, bind, Activity.andThen, Outcome.after, callbackTasks]

/-- A new connection is announced to the callback, unless one of its addresses is refused. -/
theorem run_connect (connection : Connection) (endpoint : Endpoint) :
    ∃ peer calls,
      let outcome := (Task.act (.connect connection)).perform.run endpoint
      outcome.state =
          { endpoint.connectedTo connection peer with
            handlers := { endpoint.handlers with onPeerAvailable := calls } } ∧
        (∀ tasks, outcome.result = .ok tasks →
          tasks = callbackTasks id .onPeerAvailable
            (endpoint.handlers.onPeerAvailable.getD [])) ∧
        ∀ event ∈ outcome.trace,
          event = .notice (.connectionMade peer) ∨
            event = .peerAvailable ⟨endpoint.number, peer.identity⟩ := by
  obtain ⟨result, trace, peer, adopted, noted⟩ := run_adopt connection endpoint
  cases result with
  | error fault =>
    have failed : (Task.act (.connect connection)).perform.run endpoint =
        ⟨.error fault, trace, endpoint.connectedTo connection peer⟩ :=
      Activity.run_bind_error adopted
    rw [failed]
    exact ⟨peer, endpoint.handlers.onPeerAvailable, rfl, by simp,
      fun event among => .inl (noted event among)⟩
  | ok value =>
    have notified := run_notifyPeerAvailable (endpoint.connectedTo connection peer)
    rw [Task.perform, take, Activity.run_bind_ok adopted, notified]
    refine ⟨peer, endpoint.handlers.onPeerAvailable.map List.tail, rfl, ?_, ?_⟩
    · rintro tasks ⟨⟩
      rfl
    · intro event among
      rcases List.mem_append.1 among with adopting | announcing
      · exact .inl (noted event adopting)
      · right
        cases listed : endpoint.handlers.onPeerAvailable <;>
          simp_all [connectedTo, caller]

section Kind

variable {kind : Task → Prop}

/-- The tasks of a callback are of a kind if its actions are, and its end is. -/
theorem forall_mem_callbackTasks {Step : Type} {toAction : Step → Action}
    {calls : List (List Step)}
    (acting : ∀ call ∈ calls, ∀ step ∈ call, kind (.act (toAction step)))
    (callback : Callback) (ending : kind (.endCallback callback)) :
    ∀ task ∈ callbackTasks toAction callback calls, kind task := by
  cases calls with
  | nil => simp [callbackTasks]
  | cons call later =>
    intro task among
    rcases List.mem_append.1 among with acted | ended
    · obtain ⟨step, listed, rfl⟩ := List.mem_map.1 acted
      exact acting call (by simp) step listed
    · obtain rfl := List.mem_singleton.1 ended
      exact ending

/-- So are the tasks that a record comes to, if parsing is of that kind. -/
theorem forall_mem_recordTasks {endpoint : Endpoint}
    (acting : ∀ calls ∈ endpoint.handlers.onRecord, ∀ call ∈ calls, ∀ reaction ∈ call,
      ∀ record, kind (.act (Reaction.toAction record reaction)))
    (ending : kind (.endCallback .onRecord)) (parsing : kind .parse) (record : Octets) :
    ∀ task ∈ callbackTasks (Reaction.toAction record) .onRecord
        (endpoint.handlers.onRecord.getD []) ++ [.parse], kind task := by
  intro task among
  rcases List.mem_append.1 among with calling | parsed
  · have each := forall_mem_getD acting
    exact forall_mem_callbackTasks
      (fun call listed reaction reacting => each call listed reaction reacting record)
      .onRecord ending task calling
  · obtain rfl := List.mem_singleton.1 parsed
    exact parsing

end Kind

end Callbacks

section Dismiss

variable {endpoint : Endpoint}

/-- The endpoint that has forgotten its transport and its peer. -/
def forgotten (endpoint : Endpoint) : Endpoint :=
  { endpoint with transport := none, peer := .lost }

/-- The endpoint that was dismissed: one whose transport refuses to close forgets nothing. -/
def dismissed (endpoint : Endpoint) : Endpoint :=
  match endpoint.closeResult with
  | .ok () => endpoint.forgotten
  | .error _ => endpoint.progressed 0 0 1 endpoint.assembler

theorem dismissed_of_closed (closed : endpoint.closeResult = .ok ()) :
    endpoint.dismissed = endpoint.forgotten := by
  rw [dismissed, closed]

theorem dismissed_of_refused {fault : Fault} (refused : endpoint.closeResult = .error fault) :
    endpoint.dismissed = endpoint.progressed 0 0 1 endpoint.assembler := by
  rw [dismissed, refused]

/-- An endpoint that is dismissed tells its transport to close, and then forgets it and the peer. -/
theorem perform_dismiss (endpoint : Endpoint) :
    Task.dismiss.perform.run endpoint =
      ⟨endpoint.closeResult.map fun _ => [], endpoint.closeEvents, endpoint.dismissed⟩ := by
  have closing := run_closeTransport endpoint
  cases ended : endpoint.closeResult with
  | ok value =>
    rw [ended] at closing
    rw [Task.perform, Activity.run_bind_ok closing, dismissed_of_closed ended]
    simp [forget, forgotten, bind, Activity.andThen, Outcome.after, progressed, Except.map]
  | error fault =>
    rw [ended] at closing
    rw [Task.perform, Activity.run_bind_error closing, dismissed_of_refused ended]
    rfl

end Dismiss

section Parse

variable {endpoint : Endpoint}

theorem run_parse_of_starved (step : endpoint.assembler.advance endpoint.limit = .starved) :
    Task.parse.perform.run endpoint = ⟨.ok [], [], endpoint⟩ := by
  simp [Task.perform, parse, step, bind, Activity.andThen, Outcome.after]

theorem run_parse_of_rejected {reason : Rejection}
    (step : endpoint.assembler.advance endpoint.limit = .rejected reason) :
    Task.parse.perform.run endpoint =
      ⟨endpoint.closeResult.map fun _ => [], endpoint.refusalEvents reason,
        endpoint.progressed 0 0 1 .empty⟩ := by
  have closed := run_close { endpoint with assembler := .empty }
  have rejected : (reject reason).run endpoint =
      ⟨endpoint.closeResult, endpoint.refusalEvents reason,
        endpoint.progressed 0 0 1 .empty⟩ := by
    have noted : (noteOfPeer fun peer => .rejected reason peer.identity).run endpoint =
        ⟨.ok (), [.notice (.rejected reason endpoint.peer.identity)], endpoint⟩ := rfl
    have replaced : (setAssembler .empty).run endpoint =
        ⟨.ok (), [], { endpoint with assembler := .empty }⟩ := rfl
    rw [reject, Activity.run_bind_ok noted, Activity.run_bind_ok replaced, closed]
    rfl
  rw [Task.perform, parse, Activity.run_bind_ok (Activity.run_get endpoint)]
  simp only [step, run_then_nothing rejected]
  rfl

theorem run_parse_of_advanced {next : Assembler}
    (step : endpoint.assembler.advance endpoint.limit = .advanced next) :
    Task.parse.perform.run endpoint = ⟨.ok [.parse], [], endpoint.progressed 0 0 0 next⟩ := by
  simp [Task.perform, parse, step, bind, Activity.andThen, Outcome.after, setAssembler,
    progressed_zero]

theorem run_parse_of_failed {fault : Fault}
    (step : endpoint.assembler.advance endpoint.limit = .failed fault) :
    Task.parse.perform.run endpoint = ⟨.error fault, [], endpoint⟩ := by
  simp [Task.perform, parse, step, bind, Activity.andThen, Outcome.after]

theorem run_parse_of_completed {record : Octets} {next : Assembler}
    (step : endpoint.assembler.advance endpoint.limit = .completed record next) :
    Task.parse.perform.run endpoint =
      ⟨.ok (callbackTasks (Reaction.toAction record) .onRecord
          (endpoint.handlers.onRecord.getD []) ++ [.parse]),
        .notice (.recordReceived record.length) ::
          (endpoint.handlers.onRecord.map fun _ =>
            .record endpoint.caller record).toList,
        endpoint.progressed 1 0 0 next⟩ := by
  have notified := run_notifyRecord record { endpoint with assembler := next }
  simp only [Task.perform, parse, step, setAssembler, Activity.note, bind, Activity.andThen,
    Activity.run_get, Activity.run_modify, Activity.run_emit, Activity.run_pure, notified,
    Outcome.after]
  simp [progressed, caller]

/-- A step of parsing makes progress. What it leaves to be done is more parsing, and before that
what the callback for records does. -/
theorem progress_of_parse {kind : Task → Prop}
    (acting : ∀ calls ∈ endpoint.handlers.onRecord, ∀ call ∈ calls, ∀ reaction ∈ call,
      ∀ record, kind (.act (Reaction.toAction record reaction)))
    (ending : kind (.endCallback .onRecord)) (parsing : kind .parse) :
    (∃ records closes assembler, (Task.parse.perform.run endpoint).state =
        endpoint.progressed records 0 closes assembler) ∧
      ∀ tasks, (Task.parse.perform.run endpoint).result = .ok tasks →
        ∀ task ∈ tasks, kind task := by
  match step : endpoint.assembler.advance endpoint.limit with
  | .starved =>
    rw [run_parse_of_starved step]
    refine ⟨⟨0, 0, _, (progressed_self endpoint).symm⟩, ?_⟩
    rintro tasks ⟨⟩
    exact List.forall_mem_nil _
  | .rejected reason =>
    rw [run_parse_of_rejected step]
    exact ⟨⟨0, 1, _, rfl⟩, fun tasks done => forall_mem_of_nothing done kind⟩
  | .failed fault =>
    rw [run_parse_of_failed step]
    exact ⟨⟨0, 0, _, (progressed_self endpoint).symm⟩, by simp⟩
  | .advanced next =>
    rw [run_parse_of_advanced step]
    refine ⟨⟨0, 0, next, rfl⟩, ?_⟩
    rintro tasks ⟨⟩
    exact List.forall_mem_singleton.2 parsing
  | .completed record next =>
    rw [run_parse_of_completed step]
    refine ⟨⟨1, 0, next, rfl⟩, ?_⟩
    rintro tasks ⟨⟩
    exact forall_mem_recordTasks acting ending parsing record

end Parse

end RecordMarking.Endpoint
