import RecordMarking.Proofs.Assembly
import RecordMarking.Proofs.Endpoint.Performed
import RecordMarking.Proofs.Endpoint.Tasks

/-!
# Octets that reach an endpoint

While an endpoint parses received octets, its callback for records may act on it in between. As
long as the callback is unobtrusive, that is, as long as it neither feeds the endpoint nor
reconfigures it, the endpoint finds in the octets just what its assembler comes to:
`parses_run_parse` says so of one call, and `receives_serve` of any number of calls.
-/

namespace RecordMarking

/-- What an event says about received octets. -/
def Event.finding? : Event → Option Finding
  | .record _ delivered => some (.record delivered)
  | .notice (.rejected reason _) => some (.rejection reason)
  | _ => none

/-- The transport that an event tells to close. -/
def Event.closed? : Event → Option Nat
  | .transportClose transport => some transport
  | _ => none

/-- An action that neither feeds an endpoint nor changes its limit or its connection, and that
does not fail but in an ordinary way. -/
def Action.Unobtrusive : Action → Prop
  | .send _ | .close => True
  | .raise fault => fault.isOrdinary = true
  | .receive _ | .receiveNumbers _ | .connect _ | .lose _ | .setLimit _ => False

/-- A reaction whose action is unobtrusive. -/
def Reaction.Unobtrusive : Reaction → Prop
  | .act action => action.Unobtrusive
  | .echo | .echoReversed => True

theorem unobtrusive_toAction (record : Octets) {reaction : Reaction}
    (unobtrusive : reaction.Unobtrusive) : (reaction.toAction record).Unobtrusive := by
  cases reaction with
  | act action => exact unobtrusive
  | echo | echoReversed => trivial

namespace Value

variable {value : Value} {fault : Fault}

theorem isOrdinary_of_comparedBy {relation : Relation}
    (failed : value.comparedBy relation = .error fault) : fault.isOrdinary = true := by
  unfold comparedBy at failed
  split at failed
  · cases failed
  · cases failed
    rfl

theorem isOrdinary_of_whole (failed : value.whole = .error fault) : fault.isOrdinary = true := by
  unfold whole at failed
  split at failed
  · cases failed
  · cases failed
    rfl

theorem isOrdinary_of_pred (failed : value.pred = .error fault) : fault.isOrdinary = true := by
  unfold pred at failed
  split at failed
  all_goals cases failed
  rfl

end Value

/-- The size of fragments is checked in an ordinary way. -/
theorem isOrdinary_of_checkFragmentSize {size : Value} {fault : Fault}
    (failed : checkFragmentSize size = .error fault) : fault.isOrdinary = true := by
  unfold checkFragmentSize at failed
  split at failed
  · rename_i reason compared
    cases failed
    exact Value.isOrdinary_of_comparedBy compared
  · split at failed
    · exact Value.isOrdinary_of_whole failed
    · obtain rfl := Except.error.inj failed
      rfl

namespace Endpoint

/-- An endpoint that delimits up to a limit, with an unobtrusive callback for records, on a
transport, if any, that does not fail but in an ordinary way. -/
structure Receptive (limit : Int) (endpoint : Endpoint) : Prop where
  delimits : endpoint.delimiting = true
  limited : endpoint.limit = .integer limit
  listens : ∃ calls, endpoint.handlers.onRecord = some calls ∧
    ∀ call ∈ calls, ∀ reaction ∈ call, reaction.Unobtrusive
  ordinary : ∀ transport ∈ endpoint.transport, ∀ fault,
    some fault ∈ transport.writes ++ transport.closes → fault.isOrdinary = true

/-- The transport, if any, closes without a fault. -/
def ClosesAccepted (endpoint : Endpoint) : Prop :=
  ∀ transport ∈ endpoint.transport, ∀ verdict ∈ transport.closes, verdict = none

/-- The callback for records only takes note of them. -/
def Collects (endpoint : Endpoint) : Prop :=
  ∀ calls ∈ endpoint.handlers.onRecord, ∀ call ∈ calls, call = []

section Progress

variable {limit : Int} {endpoint : Endpoint} (records writes closes : Nat)
  (assembler : Assembler)

theorem receptive_progressed (receptive : endpoint.Receptive limit) :
    (endpoint.progressed records writes closes assembler).Receptive limit := by
  obtain ⟨delimits, limited, ⟨calls, listens, unobtrusive⟩, ordinary⟩ := receptive
  refine ⟨delimits, limited, ⟨calls.drop records, by simp [progressed, listens], ?_⟩, ?_⟩
  · exact fun call among => unobtrusive call (List.mem_of_mem_drop among)
  · intro later present fault among
    obtain ⟨transport, before, rfl⟩ := Option.map_eq_some_iff.1 present
    refine ordinary transport before fault ?_
    rcases List.mem_append.1 among with written | closed
    · exact List.mem_append_left _ (List.mem_of_mem_drop written)
    · exact List.mem_append_right _ (List.mem_of_mem_drop closed)

theorem closesAccepted_progressed (accepted : endpoint.ClosesAccepted) :
    (endpoint.progressed records writes closes assembler).ClosesAccepted := by
  intro later present verdict among
  obtain ⟨transport, before, rfl⟩ := Option.map_eq_some_iff.1 present
  exact accepted transport before verdict (List.mem_of_mem_drop among)

theorem collects_progressed (collects : endpoint.Collects) :
    (endpoint.progressed records writes closes assembler).Collects := by
  intro later present call among
  obtain ⟨calls, before, rfl⟩ := Option.map_eq_some_iff.1 present
  exact collects calls before call (List.mem_of_mem_drop among)

end Progress

section Unobtrusive

variable {limit : Int} {endpoint : Endpoint}

/-- An outcome that leaves the assembler alone, says nothing about received octets, and fails, if
at all, in an ordinary way. -/
structure Harmless (endpoint : Endpoint) (outcome : Outcome Endpoint (List Task)) : Prop where
  state_eq : ∃ writes closes,
    outcome.state = endpoint.progressed 0 writes closes endpoint.assembler
  finds_nothing : outcome.trace.filterMap Event.finding? = []
  result_eq : outcome.result = .ok [] ∨
    ∃ fault, outcome.result = .error fault ∧ fault.isOrdinary = true

theorem closeResult_of_receptive (receptive : endpoint.Receptive limit) {fault : Fault}
    (failed : endpoint.closeResult = .error fault) : fault.isOrdinary = true := by
  unfold closeResult at failed
  split at failed
  · simp at failed
  · rename_i transport present
    exact receptive.ordinary transport present fault
      (List.mem_append_right _ (Verdicts.mem_of_first failed))

theorem writeResult_of_receptive (receptive : endpoint.Receptive limit) {fault : Fault}
    (failed : endpoint.writeResult = .error fault) : fault.isOrdinary = true := by
  unfold writeResult at failed
  split at failed
  · obtain rfl : Fault.notConnected = fault := by simpa using failed
    rfl
  · rename_i transport present
    exact receptive.ordinary transport present fault
      (List.mem_append_left _ (Verdicts.mem_of_first failed))

/-- Framing fails in an ordinary way. -/
theorem isOrdinary_of_frame {record : Octets} {size : Value} {fault : Fault}
    (failed : frame record size = .error fault) : fault.isOrdinary = true := by
  rw [frame_eq] at failed
  split at failed
  · obtain rfl : Fault.emptyRecord = fault := by simpa using failed
    rfl
  · cases checked : checkFragmentSize size with
    | ok number => simp [checked, Except.map] at failed
    | error reason =>
      obtain rfl : reason = fault := by simpa [checked, Except.map] using failed
      exact isOrdinary_of_checkFragmentSize checked

theorem finding?_closeEvents (endpoint : Endpoint) :
    endpoint.closeEvents.filterMap Event.finding? = [] := by
  rw [closeEvents]
  cases endpoint.transport <;> rfl

theorem finding?_writeEvents (octets : Octets) (endpoint : Endpoint) :
    (endpoint.writeEvents octets).filterMap Event.finding? = [] := by
  rw [writeEvents]
  cases endpoint.transport <;> rfl

/-- A step is harmless if it leaves the assembler alone, says nothing about received octets, and
fails, if at all, in an ordinary way. -/
theorem harmless_of_run {activity : Activity Endpoint (List Task)} {writes closes : Nat}
    {trace : List Event} {result : Except Fault Unit}
    (ran : activity.run endpoint =
      ⟨result.map fun _ => [], trace, endpoint.progressed 0 writes closes endpoint.assembler⟩)
    (nothing : trace.filterMap Event.finding? = [])
    (ordinary : ∀ fault, result = .error fault → fault.isOrdinary = true) :
    Harmless endpoint (activity.run endpoint) := by
  rw [ran]
  refine ⟨⟨writes, closes, rfl⟩, nothing, ?_⟩
  cases result with
  | error fault => exact .inr ⟨fault, rfl, ordinary fault rfl⟩
  | ok value => exact .inl rfl

/-- Sending says nothing about received octets, and fails only if the record cannot be framed or
the transport fails. -/
theorem run_take_send (delimits : endpoint.delimiting = true)
    (limited : endpoint.limit = .integer limit) (data : Value) :
    ∃ (result : Except Fault Unit) (trace : List Event) (writes : Nat),
      (take (.send data)).run endpoint =
          ⟨result.map fun _ => [], trace, endpoint.progressed 0 writes 0 endpoint.assembler⟩ ∧
        trace.filterMap Event.finding? = [] ∧
        ∀ fault, result = .error fault →
          (∃ record, frame record (.integer (limit - 1)) = .error fault) ∨
            endpoint.writeResult = .error fault := by
  by_cases nothing : ∀ record, data = .octets record → record = []
  · obtain ⟨notice, other, ran⟩ := run_send_of_nothing delimits nothing
    refine ⟨.ok (), [.notice notice], 0, ?_, ?_, by simp⟩
    · rw [take, run_then_nothing ran, progressed_self]
    · cases notice <;> simp_all [Event.finding?]
  · obtain ⟨record, rfl, something⟩ : ∃ record, data = .octets record ∧ record ≠ [] := by
      simpa using nothing
    cases framed : frame record (.integer (limit - 1)) with
    | error fault =>
      have ran := run_send_of_fault delimits limited something framed
      refine ⟨.error fault, [], 0, ?_, rfl, ?_⟩
      · rw [take, run_then_nothing ran, progressed_self]
      · rintro _ ⟨⟩
        exact .inl ⟨record, framed⟩
    | ok octets =>
      have ran := run_send_of_framed delimits limited framed
      exact ⟨_, _, 1, run_then_nothing ran, finding?_writeEvents octets endpoint,
        fun fault failed => .inr failed⟩

theorem harmless_send (receptive : endpoint.Receptive limit) (data : Value) :
    Harmless endpoint ((take (.send data)).run endpoint) := by
  obtain ⟨result, trace, writes, ran, silent, fails⟩ :=
    run_take_send receptive.delimits receptive.limited data
  refine harmless_of_run ran silent fun fault failed => ?_
  rcases fails fault failed with ⟨record, framed⟩ | written
  · exact isOrdinary_of_frame framed
  · exact writeResult_of_receptive receptive written

/-- Unobtrusive actions are harmless. -/
theorem harmless_take (receptive : endpoint.Receptive limit) {action : Action}
    (unobtrusive : action.Unobtrusive) : Harmless endpoint ((take action).run endpoint) := by
  cases action with
  | close =>
    exact harmless_of_run (run_then_nothing (run_close endpoint)) (finding?_closeEvents endpoint)
      fun fault failed => closeResult_of_receptive receptive failed
  | raise fault =>
    exact ⟨⟨0, 0, (progressed_self endpoint).symm⟩, rfl, .inr ⟨fault, rfl, unobtrusive⟩⟩
  | send data => exact harmless_send receptive data
  | receive | receiveNumbers | connect | lose | setLimit => exact unobtrusive.elim

/-- An ordinary fault ends the callback that it occurs in. -/
theorem contain_callback {fault : Fault} (ordinary : fault.isOrdinary = true)
    (actions : List Action) (callback : Callback) (rest : List Task) :
    contain fault (actions.map .act ++ .endCallback callback :: rest) = some (callback, rest) := by
  induction actions with
  | nil => exact if_pos ordinary
  | cons action others inductionHypothesis => exact inductionHypothesis

/-- An unobtrusive callback comes and goes without a trace in what the endpoint finds and in its
assembler. -/
theorem run_callback (receptive : endpoint.Receptive limit) {actions : List Action}
    (unobtrusive : ∀ action ∈ actions, action.Unobtrusive) (callback : Callback)
    (rest : List Task) :
    ∃ trace writes closes,
      run (actions.map .act ++ .endCallback callback :: rest) endpoint =
          (run rest (endpoint.progressed 0 writes closes endpoint.assembler)).after trace ∧
        trace.filterMap Event.finding? = [] ∧ (actions = [] → trace = []) := by
  induction actions generalizing endpoint with
  | nil =>
    have done : (Task.endCallback callback).perform.run endpoint = ⟨.ok [], [], endpoint⟩ := rfl
    exact ⟨[], 0, 0, by rw [progressed_self]; exact run_of_ok done, rfl, fun _ => rfl⟩
  | cons action others inductionHypothesis =>
    have harmless : Harmless endpoint ((Task.act action).perform.run endpoint) :=
      harmless_take receptive (unobtrusive action (by simp))
    match ran : (Task.act action).perform.run endpoint with
    | ⟨result, trace, next⟩ =>
      rw [ran] at harmless
      obtain ⟨⟨writes, closes, rfl⟩, silent, rfl | ⟨fault, rfl, ordinary⟩⟩ := harmless
      · obtain ⟨later, offers, ends, continued, quiet, _⟩ := inductionHypothesis
          (receptive_progressed 0 writes closes _ receptive)
          fun other among => unobtrusive other (by simp [among])
        refine ⟨trace ++ later, writes + offers, closes + ends, ?_, ?_, by simp⟩
        · rw [List.map_cons, List.cons_append, run_of_ok ran, List.nil_append, continued,
            Outcome.after_after, progressed_progressed]
          rfl
        · rw [List.filterMap_append, silent, quiet, List.append_nil]
      · have contained := contain_callback ordinary others callback rest
        refine ⟨trace ++ [.notice (.callbackFailed callback fault)], writes, closes, ?_, ?_,
          by simp⟩
        · rw [List.map_cons, List.cons_append, run_of_contained ran contained]
        · rw [List.filterMap_append, silent]
          rfl

/-- So do the tasks of the next call of a callback. -/
theorem run_callbackTasks {Step : Type} {toAction : Step → Action}
    (receptive : endpoint.Receptive limit) (callback : Callback) {calls : List (List Step)}
    (unobtrusive : ∀ call ∈ calls, ∀ step ∈ call, (toAction step).Unobtrusive)
    (rest : List Task) :
    ∃ trace writes closes,
      run (callbackTasks toAction callback calls ++ rest) endpoint =
          (run rest (endpoint.progressed 0 writes closes endpoint.assembler)).after trace ∧
        trace.filterMap Event.finding? = [] ∧ ((∀ call ∈ calls, call = []) → trace = []) := by
  cases calls with
  | nil => exact ⟨[], 0, 0, by rw [progressed_self]; rfl, rfl, fun _ => rfl⟩
  | cons call later =>
    have actions : ∀ action ∈ call.map toAction, action.Unobtrusive := by
      intro action among
      obtain ⟨step, listed, rfl⟩ := List.mem_map.1 among
      exact unobtrusive call (by simp) step listed
    obtain ⟨trace, writes, closes, ran, silent, quiet⟩ :=
      run_callback receptive actions callback rest
    refine ⟨trace, writes, closes, ?_, silent, fun empty => quiet (by simp [empty])⟩
    rw [← ran, callbackTasks, List.append_assoc, List.map_map]
    rfl

end Unobtrusive

/-- A run on an endpoint finds what an assembler comes to, and ends with the events of a refusal
if there is one. -/
structure Parses (limit : Int) (assembler : Assembler) (endpoint : Endpoint)
    (outcome : Outcome Endpoint Unit) : Prop where
  state_eq : ∃ records writes closes,
    outcome.state = endpoint.progressed records writes closes (assembler.settle limit).2
  findings_eq : outcome.trace.filterMap Event.finding? = (assembler.settle limit).1
  refuses : ∀ reason ∈ Finding.reasons (assembler.settle limit).1,
    ∃ before, outcome.trace = before ++ endpoint.refusalEvents reason
  succeeds : Finding.reasons (assembler.settle limit).1 = [] ∨ endpoint.ClosesAccepted →
    outcome.result = .ok ()
  closes_eq : endpoint.Collects →
    outcome.trace.filterMap Event.closed? =
      (Finding.reasons (assembler.settle limit).1).flatMap fun _ =>
        (endpoint.transport.map Transport.number).toList

section Parses

variable {limit : Int} {endpoint : Endpoint}

theorem closeEvents_progressed (records writes closes : Nat) (assembler : Assembler) :
    (endpoint.progressed records writes closes assembler).closeEvents = endpoint.closeEvents := by
  cases transport : endpoint.transport <;> simp [closeEvents, progressed, transport]

theorem closed?_closeEvents (endpoint : Endpoint) :
    endpoint.closeEvents.filterMap Event.closed? =
      (endpoint.transport.map Transport.number).toList := by
  cases transport : endpoint.transport <;> simp [closeEvents, transport, Event.closed?]

theorem closeResult_of_closesAccepted (accepted : endpoint.ClosesAccepted) :
    endpoint.closeResult = .ok () := by
  unfold closeResult
  split
  · rfl
  · rename_i transport present
    exact Verdicts.first_of_accepted (accepted transport present)

/-- What a run finds after some progress counts for the endpoint before it, together with what
was found on the way. -/
theorem Parses.after {outcome : Outcome Endpoint Unit} {records writes closes : Nat}
    {assembler next : Assembler} {trace : List Event}
    {held : Assembler}
    (continued : Parses limit next (endpoint.progressed records writes closes held) outcome)
    (delivered : List Octets)
    (settled : assembler.settle limit =
      (delivered.map .record ++ (next.settle limit).1, (next.settle limit).2))
    (found : trace.filterMap Event.finding? = delivered.map .record)
    (quiet : endpoint.Collects → trace.filterMap Event.closed? = []) :
    Parses limit assembler endpoint (outcome.after trace) := by
  have reasons : Finding.reasons (assembler.settle limit).1 =
      Finding.reasons (next.settle limit).1 := by
    rw [settled, reasons_append, reasons_records, List.nil_append]
  obtain ⟨⟨heard, offers, ends, left⟩, findings, refuses, succeeds, ended⟩ := continued
  refine ⟨?_, ?_, ?_, ?_, ?_⟩
  · rw [progressed_progressed] at left
    exact ⟨_, _, _, by rw [settled]; exact left⟩
  · rw [Outcome.trace_after, List.filterMap_append, found, findings, settled]
  · intro reason among
    obtain ⟨before, ends⟩ := refuses reason (reasons ▸ among)
    refine ⟨trace ++ before, ?_⟩
    rw [Outcome.trace_after, ends, List.append_assoc]
    simp only [refusalEvents, peer_progressed, closeEvents_progressed]
  · intro accepted
    rw [reasons] at accepted
    exact succeeds (accepted.imp_right (closesAccepted_progressed records writes closes held))
  · intro collects
    rw [Outcome.trace_after, List.filterMap_append, quiet collects, reasons,
      ended (collects_progressed records writes closes held collects), number_progressed]
    rfl

/-- What a run finds after some progress counts for the endpoint before it. -/
theorem Parses.of_progressed {outcome : Outcome Endpoint Unit} {records writes closes : Nat}
    {assembler held : Assembler}
    (parses : Parses limit assembler (endpoint.progressed records writes closes held) outcome) :
    Parses limit assembler endpoint outcome := by
  have nothing : ([] : List Event).filterMap Event.closed? = [] := rfl
  exact parses.after [] rfl rfl fun _ => nothing

theorem finding?_refusalEvents (reason : Rejection) (endpoint : Endpoint) :
    (endpoint.refusalEvents reason).filterMap Event.finding? = [.rejection reason] :=
  congrArg (List.cons _) (finding?_closeEvents endpoint)

/-- Parsing finds what the assembler comes to. -/
theorem parses_run_parse (receptive : endpoint.Receptive limit)
    (wellFormed : endpoint.assembler.WellFormed limit) :
    Parses limit endpoint.assembler endpoint (run [.parse] endpoint) := by
  induction size : endpoint.assembler.potential using Nat.strongRecOn generalizing endpoint with
  | ind bound inductionHypothesis =>
    subst size
    have settles := Assembler.settles_of_advance wellFormed
    rw [← receptive.limited] at settles
    match step : endpoint.assembler.advance endpoint.limit with
    | .starved =>
      rw [step] at settles
      have settled : endpoint.assembler.settle limit = ([], endpoint.assembler) := settles
      have ran : run [.parse] endpoint = ⟨.ok (), [], endpoint⟩ :=
        run_singleton (run_parse_of_starved step)
      rw [ran]
      refine ⟨⟨0, 0, 0, ?_⟩, ?_, ?_, fun _ => rfl, ?_⟩
      · rw [settled]
        exact (progressed_self endpoint).symm
      all_goals simp [settled, Finding.reasons]
    | .rejected reason =>
      rw [step] at settles
      have settled : endpoint.assembler.settle limit = ([.rejection reason], .empty) := settles
      have ran : run [.parse] endpoint =
          ⟨endpoint.closeResult, endpoint.refusalEvents reason,
            endpoint.progressed 0 0 1 .empty⟩ := run_singleton (run_parse_of_rejected step)
      rw [ran]
      refine ⟨⟨0, 0, 1, by rw [settled]⟩, ?_, ?_, ?_, ?_⟩
      · rw [settled]
        exact finding?_refusalEvents reason endpoint
      · intro other among
        obtain rfl : other = reason := by simpa [settled, Finding.reasons] using among
        exact ⟨[], rfl⟩
      · rintro (never | accepted)
        · simp [settled, Finding.reasons] at never
        · exact closeResult_of_closesAccepted accepted
      · intro _
        rw [settled]
        exact (closed?_closeEvents endpoint).trans (List.append_nil _).symm
    | .failed fault =>
      rw [step] at settles
      exact settles.elim
    | .advanced next =>
      rw [step] at settles
      obtain ⟨same, nextWellFormed⟩ := settles
      have less := Assembler.potential_lt_of_advanced step
      have continued := inductionHypothesis _ less
        (receptive_progressed 0 0 0 next receptive) nextWellFormed rfl
      have ran : run [.parse] endpoint =
          (run [.parse] (endpoint.progressed 0 0 0 next)).after [] :=
        run_of_ok (run_parse_of_advanced step)
      rw [ran]
      exact continued.after [] same rfl fun _ => rfl
    | .completed record next =>
      rw [step] at settles
      obtain ⟨same, nextWellFormed⟩ := settles
      have less := Assembler.potential_lt_of_completed step
      obtain ⟨calls, listens, unobtrusive⟩ := receptive.listens
      have reactions : ∀ call ∈ calls, ∀ reaction ∈ call,
          (reaction.toAction record).Unobtrusive := fun call among reaction listed =>
        unobtrusive_toAction record (unobtrusive call among reaction listed)
      have ran : run [.parse] endpoint =
          (run (callbackTasks (Reaction.toAction record) .onRecord calls ++ [.parse] ++ [])
            (endpoint.progressed 1 0 0 next)).after
            [.notice (.recordReceived record.length), .record endpoint.caller record] :=
        run_of_ok (by simpa [listens] using run_parse_of_completed step)
      obtain ⟨later, writes, closes, returned, silent, quiet⟩ := run_callbackTasks
        (receptive_progressed 1 0 0 next receptive) .onRecord reactions [.parse]
      rw [List.append_nil, returned, progressed_progressed, Outcome.after_after] at ran
      rw [ran]
      have continued := inductionHypothesis _ less
        (receptive_progressed (1 + 0) (0 + writes) (0 + closes) next receptive) nextWellFormed rfl
      refine continued.after [record] same ?_ fun collects => ?_
      · rw [List.filterMap_append, silent]
        rfl
      · rw [quiet (collects calls listens)]
        rfl

/-- One call finds in its octets, behind those that wait, what the assembler comes to. -/
theorem parses_perform_receive (receptive : endpoint.Receptive limit)
    (wellFormed : endpoint.assembler.WellFormed limit) (octets : Octets) :
    Parses limit (endpoint.assembler.receive octets) endpoint
      ((perform [.receive octets]).run endpoint) := by
  have ran : (perform [.receive octets]).run endpoint =
      (run [.parse] (endpoint.progressed 0 0 0 (endpoint.assembler.receive octets))).after [] :=
    run_of_ok (run_receive receptive.delimits octets)
  have parsed := parses_run_parse
    (receptive_progressed 0 0 0 (endpoint.assembler.receive octets) receptive) wellFormed
  rw [ran]
  exact parsed.of_progressed

end Parses

/-- Calls with octets find what the assembler comes to slice by slice. -/
structure Receives (limit : Int) (slices : List Octets) (endpoint : Endpoint)
    (service : Service) : Prop where
  endpoint_eq : ∃ records writes closes,
    service.endpoint =
      endpoint.progressed records writes closes (endpoint.assembler.settleAll limit slices).2
  findings_eq :
    service.trace.filterMap Event.finding? = (endpoint.assembler.settleAll limit slices).1
  succeeds :
    Finding.reasons (endpoint.assembler.settleAll limit slices).1 = [] ∨
        endpoint.ClosesAccepted →
      ∀ result ∈ service.results, result = .ok ()
  closes_eq : endpoint.Collects →
    service.trace.filterMap Event.closed? =
      (Finding.reasons (endpoint.assembler.settleAll limit slices).1).flatMap fun _ =>
        (endpoint.transport.map Transport.number).toList

/-- An endpoint finds what its assembler comes to slice by slice. -/
theorem receives_serve {limit : Int} {endpoint : Endpoint}
    (receptive : endpoint.Receptive limit) (wellFormed : endpoint.assembler.WellFormed limit)
    (slices : List Octets) :
    Receives limit slices endpoint (serve (slices.map .receive) endpoint) := by
  induction slices generalizing endpoint with
  | nil =>
    refine ⟨⟨0, 0, 0, (progressed_self endpoint).symm⟩, rfl, fun _ => ?_, fun _ => rfl⟩
    simp [serve]
  | cons slice later inductionHypothesis =>
    have first := parses_perform_receive receptive wellFormed slice
    rw [List.map_cons, serve]
    generalize (perform [.receive slice]).run endpoint = outcome at first ⊢
    obtain ⟨result, trace, next⟩ := outcome
    obtain ⟨⟨records, writes, closes, left⟩, found, _, succeeds, closed⟩ := first
    obtain rfl : next = endpoint.progressed records writes closes _ := left
    have others := inductionHypothesis
      (receptive_progressed records writes closes _ receptive)
      (Assembler.wellFormed_settle limit (endpoint.assembler.receive slice))
    obtain ⟨⟨more, offers, ends, last⟩, findings, succeed, ended⟩ := others
    rw [assembler_progressed] at findings last succeed ended
    refine ⟨?_, ?_, ?_, ?_⟩
    · rw [progressed_progressed] at last
      exact ⟨_, _, _, last⟩
    · rw [List.filterMap_append, found, findings]
      rfl
    · intro accepted
      rw [Assembler.settleAll, reasons_append, List.append_eq_nil_iff] at accepted
      refine List.forall_mem_cons.2 ⟨?_, ?_⟩
      · exact succeeds (accepted.imp_left And.left)
      · exact succeed (accepted.imp And.right (closesAccepted_progressed _ _ _ _))
    · intro collects
      rw [List.filterMap_append, closed collects,
        ended (collects_progressed _ _ _ _ collects), number_progressed,
        Assembler.settleAll, reasons_append, List.flatMap_append]

section Connect

variable {limit : Int} {endpoint : Endpoint} {connection : Connection}

/-- A new connection leaves an endpoint receptive, if its callback for the arrival of the peer is
unobtrusive too, and what was received before as it was. -/
theorem receptive_of_connect (delimits : endpoint.delimiting = true)
    (limited : endpoint.limit = .integer limit)
    (listens : ∃ calls, endpoint.handlers.onRecord = some calls ∧
      ∀ call ∈ calls, ∀ reaction ∈ call, reaction.Unobtrusive)
    (ordinary : ∀ fault, some fault ∈ connection.writes ++ connection.closes →
      fault.isOrdinary = true)
    (available : ∀ calls ∈ endpoint.handlers.onPeerAvailable, ∀ call ∈ calls, ∀ action ∈ call,
      action.Unobtrusive) :
    let connected := ((perform [.connect connection]).run endpoint).state
    connected.Receptive limit ∧ connected.assembler = endpoint.assembler ∧
      ∃ writes closes, connected.transport =
        some ⟨endpoint.connections + 1, connection.writes.drop writes,
          connection.closes.drop closes⟩ := by
  obtain ⟨peer, calls, left, tasksEq, _⟩ := run_connect connection endpoint
  rw [run_perform_singleton]
  match done : (Task.act (.connect connection)).perform.run endpoint with
  | ⟨result, trace, next⟩ =>
    rw [done] at left tasksEq
    have receptive : next.Receptive limit := by
      rw [show next = _ from left]
      exact ⟨delimits, limited, listens, by rintro transport ⟨⟩; exact ordinary⟩
    cases result with
    | error fault =>
      rw [run_of_escaped done rfl]
      refine ⟨receptive, ?_, 0, 0, ?_⟩
      all_goals
        rw [show next = _ from left]
        rfl
    | ok tasks =>
      obtain rfl := tasksEq tasks rfl
      have unobtrusive : ∀ call ∈ endpoint.handlers.onPeerAvailable.getD [], ∀ action ∈ call,
          (id action).Unobtrusive := forall_mem_getD available
      obtain ⟨later, writes, closes, returned, _⟩ :=
        run_callbackTasks receptive .onPeerAvailable unobtrusive []
      rw [run_of_ok done, returned, run_nil]
      refine ⟨receptive_progressed 0 writes closes _ receptive, ?_, writes, closes, ?_⟩
      all_goals
        rw [show next = _ from left]
        rfl

end Connect

end Endpoint

end RecordMarking
