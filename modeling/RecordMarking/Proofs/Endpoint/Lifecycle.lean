import RecordMarking.Proofs.Endpoint.Attendance

/-!
# The life of an endpoint, connection by connection

A visit is one connection of an endpoint: the peer arrives, calls from outside follow, and the peer
departs. `hosts_arrival` is a visit up to the departure, and `departs_of_hosts` the departure: the
callback takes its actions, and then the connection is dismissed, unless a fault that is not
ordinary comes out of the callback. `departsOrderly_of_ordinary` says when none does.

`attends_every_visit` puts visits one behind another: each of them has callbacks of its own, in
order, from this endpoint and with the identity that was drawn for it, closes its own transport, and
leaves nothing of the connection behind.
-/

namespace RecordMarking

/-- One connection of an endpoint: the addresses that the transport reports, the octets drawn for
the identity of the peer, the answers of the transport, what is done to the endpoint while it is
connected, and why the connection is lost. -/
structure Visit where
  remoteAddress : Value
  localAddress : Value
  drawn : SizedOctets Peer.identitySize
  writes : Verdicts
  closes : Verdicts
  calls : List Action
  reason : Option Fault

namespace Visit

/-- The connection of a visit. -/
def connection (visit : Visit) : Connection :=
  ⟨visit.remoteAddress, visit.localAddress, visit.drawn, visit.writes, visit.closes⟩

/-- What callbacks should be handed on a visit of a numbered endpoint: this endpoint, and the
hexadecimal text of the octets that were drawn for the visit. -/
def caller (visit : Visit) (number : Nat) : Caller :=
  ⟨number, some (Octets.hex visit.drawn.val)⟩

/-- A visit up to the departure of the peer. -/
def arrival (visit : Visit) : List Action :=
  .connect visit.connection :: visit.calls

/-- A visit from the arrival of the peer to its departure. -/
def actions (visit : Visit) : List Action :=
  visit.arrival ++ [.lose visit.reason]

/-- A visit with addresses that are absent or sized, a transport that closes without a fault, and no
other connection in between. -/
structure Proper (visit : Visit) : Prop where
  remote : visit.remoteAddress = .absent ∨ visit.remoteAddress.items?.isSome
  own : visit.localAddress = .absent ∨ visit.localAddress.items?.isSome
  accepted : ∀ verdict ∈ visit.closes, verdict = none
  calls : ∀ call ∈ visit.calls, call.KeepsConnection

end Visit

/-- An address that is absent or sized is kept. -/
theorem exists_hostAndPort {reported : Value}
    (sized : reported = .absent ∨ reported.items?.isSome) :
    ∃ kept, hostAndPort reported = .ok kept := by
  unfold hostAndPort
  split
  · exact ⟨_, rfl⟩
  · split
    · exact ⟨_, rfl⟩
    · exact ⟨_, rfl⟩
    · simp_all

/-- The calls of callbacks on one connection: the arrival of the peer, so many records, and its
departure, all by one caller. A callback that is missing is not called. -/
def Handlers.lifecycle (handlers : Handlers) (caller : Caller) (records : Nat) :
    List (Callback × Caller) :=
  (if handlers.onPeerAvailable.isSome then [(.onPeerAvailable, caller)] else []) ++
    List.replicate records (.onRecord, caller) ++
      if handlers.onPeerUnavailable.isSome then [(.onPeerUnavailable, caller)] else []

theorem eq_of_mem_lifecycle {handlers : Handlers} {caller : Caller} {records : Nat}
    {called : Callback × Caller} (among : called ∈ handlers.lifecycle caller records) :
    called.2 = caller := by
  rcases List.mem_append.1 among with before | after
  · rcases List.mem_append.1 before with arrival | record
    · split at arrival
      · rw [List.mem_singleton.1 arrival]
      · cases arrival
    · rw [List.eq_of_mem_replicate record]
  · split at after
    · rw [List.mem_singleton.1 after]
    · cases after

namespace Endpoint

variable {endpoint : Endpoint}

/-- The endpoint that has called back for the arrival of its peer. -/
def greeted (endpoint : Endpoint) : Endpoint :=
  { endpoint with
    handlers :=
      { endpoint.handlers with
        onPeerAvailable := endpoint.handlers.onPeerAvailable.map List.tail } }

/-- The endpoint that has called back for the departure of its peer. -/
def departed (endpoint : Endpoint) : Endpoint :=
  { endpoint with
    handlers :=
      { endpoint.handlers with
        onPeerUnavailable := endpoint.handlers.onPeerUnavailable.map List.tail } }

/-- What the callback for the departure of the peer does when it is called next. -/
def parting (endpoint : Endpoint) : List Action :=
  (endpoint.handlers.onPeerUnavailable.getD []).headD []

/-- Only ordinary faults come out of the callback that is called when the peer departs. -/
def DepartsOrderly (endpoint : Endpoint) : Prop :=
  ∀ fault, ((perform endpoint.parting).run endpoint.departed).result = .error fault →
    fault.isOrdinary = true

/-- What is observed when the callback for the arrival of the peer is called, if there is one. -/
def greeting (endpoint : Endpoint) : List Event :=
  (endpoint.handlers.onPeerAvailable.map fun _ => .peerAvailable endpoint.caller).toList

/-- What is observed when the callback for the departure of the peer is called, if there is one. -/
def farewell (endpoint : Endpoint) : List Event :=
  (endpoint.handlers.onPeerUnavailable.map fun _ => .peerUnavailable endpoint.caller).toList

theorem standAside_greeted (aside : endpoint.handlers.StandAside) :
    endpoint.greeted.handlers.StandAside where
  onRecord := aside.onRecord
  onPeerAvailable := forall_mem_map_of_subset aside.onPeerAvailable fun calls =>
    (List.tail_sublist calls).subset
  onPeerUnavailable := aside.onPeerUnavailable

theorem standAside_departed (aside : endpoint.handlers.StandAside) :
    endpoint.departed.handlers.StandAside where
  onRecord := aside.onRecord
  onPeerAvailable := aside.onPeerAvailable
  onPeerUnavailable := forall_mem_map_of_subset aside.onPeerUnavailable fun calls =>
    (List.tail_sublist calls).subset

/-- With addresses that are kept, a new connection is taken over and announced to the callback. -/
theorem run_connect_of_kept {connection : Connection} {remoteAddress localAddress : Value}
    (remote : hostAndPort connection.remoteAddress = .ok remoteAddress)
    (own : hostAndPort connection.localAddress = .ok localAddress) (endpoint : Endpoint) :
    let peer : Peer := ⟨some (Peer.identityOf connection.drawn), localAddress, remoteAddress⟩
    let connected := endpoint.connectedTo connection peer
    (Task.act (.connect connection)).perform.run endpoint =
      ⟨.ok (callbackTasks id .onPeerAvailable (endpoint.handlers.onPeerAvailable.getD [])),
        .notice (.connectionMade peer) :: connected.greeting, connected.greeted⟩ := by
  intro peer connected
  have notified := run_notifyPeerAvailable connected
  rw [Task.perform, take, Activity.run_bind_ok (run_adopt_of_kept remote own endpoint), notified]
  rfl

/-- A visit up to the departure: the peer is announced with its new identity, and from then on the
endpoint stays with the new connection. -/
theorem serve_arrival (aside : endpoint.handlers.StandAside) {visit : Visit}
    (proper : visit.Proper) :
    ∃ peer trace,
      let connected := endpoint.connectedTo visit.connection peer
      connected.caller = visit.caller endpoint.number ∧
        connected.greeted.Progresses (serve visit.arrival endpoint).endpoint ∧
        (serve visit.arrival endpoint).trace =
          .notice (.connectionMade peer) :: connected.greeting ++ trace ∧
        ∀ event ∈ trace, event.Attends connected.greeted := by
  obtain ⟨remoteAddress, remote⟩ := exists_hostAndPort proper.remote
  obtain ⟨localAddress, own⟩ := exists_hostAndPort proper.own
  let peer : Peer := ⟨some (Peer.identityOf visit.drawn), localAddress, remoteAddress⟩
  let connected := endpoint.connectedTo visit.connection peer
  let tasks := callbackTasks id .onPeerAvailable (endpoint.handlers.onPeerAvailable.getD [])
  have ran : (perform [.connect visit.connection]).run endpoint =
      (run tasks connected.greeted).after
        (.notice (.connectionMade peer) :: connected.greeting) := by
    have whole := @run_of_ok _ [] _ _ _ _
      (@run_connect_of_kept visit.connection _ _ remote own endpoint)
    rwa [List.append_nil] at whole
  have greetedAside : connected.greeted.handlers.StandAside := @standAside_greeted connected aside
  have keeps : ∀ task ∈ tasks, task.KeepsConnection :=
    forall_mem_callbackTasks
      (forall_mem_getD fun calls listed call among action taken =>
        .of_standsAside (aside.onPeerAvailable calls listed call among action taken))
      .onPeerAvailable trivial
  obtain ⟨welcomed, welcoming⟩ := attends_run greetedAside keeps
  obtain ⟨attended, attending⟩ := attends_serve greetedAside proper.calls welcomed
  refine ⟨peer, (run tasks connected.greeted).trace ++
    (serve visit.calls (run tasks connected.greeted).state).trace, rfl, ?_, ?_,
    List.forall_mem_append.2 ⟨welcoming, attending⟩⟩
  · rw [Visit.arrival, serve, ran]
    exact attended
  · rw [Visit.arrival, serve, ran]
    exact List.append_assoc _ _ _

section Departure

variable {actions : List Action}

theorem works_of_progressed {records writes closes : Nat} {assembler : Assembler} {event : Event}
    (works : event.Works (endpoint.progressed records writes closes assembler)) :
    event.Works endpoint :=
  ⟨works.silent, number_progressed records writes closes assembler ▸ works.closed⟩

theorem contain_map_act (fault : Fault) (actions : List Action) :
    contain fault (actions.map .act) = none := by
  induction actions with
  | nil => rfl
  | cons action others inductionHypothesis => exact inductionHypothesis

/-- What explains a fault after some progress explains it before. -/
theorem explains_of_progressed {records writes closes : Nat} {assembler : Assembler} {fault : Fault}
    (explains : (endpoint.progressed records writes closes assembler).Explains actions fault) :
    endpoint.Explains actions fault := by
  rcases explains with ordinary | raised | ⟨later, present, answered⟩
  · exact .inl ordinary
  · exact .inr (.inl raised)
  · obtain ⟨transport, before, rfl⟩ := Option.map_eq_some_iff.1 present
    refine .inr (.inr ⟨transport, before, ?_⟩)
    rcases List.mem_append.1 answered with written | closed
    · exact List.mem_append_left _ (List.mem_of_mem_drop written)
    · exact List.mem_append_right _ (List.mem_of_mem_drop closed)

/-- Actions that stand aside use up answers of the transport, whatever comes of them. -/
theorem exists_run_map_act (aside : ∀ action ∈ actions, action.StandsAside)
    (endpoint : Endpoint) :
    ∃ result trace writes closes, run (actions.map .act) endpoint =
        ⟨result, trace, endpoint.progressed 0 writes closes endpoint.assembler⟩ ∧
      (∀ event ∈ trace, event.Works endpoint) ∧
      ∀ fault, result = .error fault → endpoint.Explains actions fault := by
  induction actions generalizing endpoint with
  | nil => exact ⟨.ok (), [], 0, 0, by simp, List.forall_mem_nil _, by simp⟩
  | cons action others inductionHypothesis =>
    obtain ⟨first, later⟩ := List.forall_mem_cons.1 aside
    obtain ⟨result, trace, writes, closes, ran, works, explains⟩ :=
      exists_run_of_standsAside first endpoint
    cases result with
    | error fault =>
      refine ⟨.error fault, trace, writes, closes,
        run_of_escaped ran (contain_map_act fault others), works, ?_⟩
      rintro _ ⟨⟩
      exact (explains fault rfl).mono (by simp)
    | ok value =>
      obtain ⟨last, more, offers, ends, continued, working, explainsLater⟩ :=
        inductionHypothesis later (endpoint.progressed 0 writes closes endpoint.assembler)
      refine ⟨last, trace ++ more, writes + offers, closes + ends, ?_,
        List.forall_mem_append.2
          ⟨works, fun event among => works_of_progressed (working event among)⟩,
        fun fault failed =>
          (explains_of_progressed (explainsLater fault failed)).mono (List.subset_cons_self _ _)⟩
      rw [List.map_cons, run_of_ok ran, List.nil_append, continued, progressed_progressed]
      rfl

/-- What holds of all actions of the callback for the departure holds of those of its next call. -/
theorem forall_mem_parting {property : Action → Prop}
    (each : ∀ calls ∈ endpoint.handlers.onPeerUnavailable, ∀ call ∈ calls, ∀ action ∈ call,
      property action) :
    ∀ action ∈ endpoint.parting, property action := by
  rw [parting]
  cases listed : endpoint.handlers.onPeerUnavailable.getD [] with
  | nil => exact List.forall_mem_nil _
  | cons call later =>
    refine forall_mem_getD each call ?_
    rw [listed]
    exact List.mem_cons_self

/-- The callback for the departure lets out ordinary faults only, if it raises no other one and the
transport answers with no other one. -/
theorem departsOrderly_of_ordinary (aside : endpoint.handlers.StandAside)
    (raises : ∀ fault, .raise fault ∈ endpoint.parting → fault.isOrdinary = true)
    (answers : ∀ transport ∈ endpoint.transport, ∀ fault,
      some fault ∈ transport.writes ++ transport.closes → fault.isOrdinary = true) :
    endpoint.DepartsOrderly := by
  obtain ⟨result, trace, writes, closes, ran, -, explains⟩ :=
    exists_run_map_act (forall_mem_parting aside.onPeerUnavailable) endpoint.departed
  intro fault failed
  rcases explains fault ((congrArg Outcome.result ran).symm.trans failed) with
    ordinary | raised | ⟨transport, present, answered⟩
  · exact ordinary
  · exact raises fault raised
  · exact answers transport present fault answered

/-- What comes of a callback whose actions came to an outcome: an ordinary fault is noted and goes
no further. -/
def guarded (callback : Callback) : Outcome Endpoint Unit → Outcome Endpoint Unit
  | ⟨.ok value, trace, next⟩ => ⟨.ok value, trace, next⟩
  | ⟨.error fault, trace, next⟩ =>
    if fault.isOrdinary then
      ⟨.ok (), trace ++ [.notice (.callbackFailed callback fault)], next⟩
    else ⟨.error fault, trace, next⟩

theorem guarded_of_ordinary {fault : Fault} (ordinary : fault.isOrdinary = true)
    (callback : Callback) (trace : List Event) (next : Endpoint) :
    guarded callback ⟨.error fault, trace, next⟩ =
      ⟨.ok (), trace ++ [.notice (.callbackFailed callback fault)], next⟩ :=
  if_pos ordinary

theorem guarded_of_escaping {fault : Fault} (escaping : ¬ fault.isOrdinary = true)
    (callback : Callback) (trace : List Event) (next : Endpoint) :
    guarded callback ⟨.error fault, trace, next⟩ = ⟨.error fault, trace, next⟩ :=
  if_neg escaping

/-- A callback takes the actions of its next call, under its guard. -/
theorem run_callback_eq_guarded (callback : Callback) (calls : List (List Action))
    (endpoint : Endpoint) :
    run (callbackTasks id callback calls) endpoint =
      guarded callback ((perform (calls.headD [])).run endpoint) := by
  cases calls with
  | nil => simp [callbackTasks, perform, guarded]
  | cons call later =>
    have ended (next : Endpoint) : run [.endCallback callback] next = ⟨.ok (), [], next⟩ :=
      @run_singleton (.endCallback callback) next next [] (.ok ()) rfl
    have whole : run (callbackTasks id callback (call :: later)) endpoint =
        resume [.endCallback callback] ((perform call).run endpoint) :=
      run_append (call.map .act) [.endCallback callback] endpoint
    rw [whole, List.headD_cons]
    obtain ⟨result, trace, next⟩ := (perform call).run endpoint
    cases result with
    | ok value => simp [resume, guarded, ended, Outcome.after]
    | error fault =>
      by_cases ordinary : fault.isOrdinary = true
      · rw [guarded_of_ordinary ordinary]
        simp [resume, contain, ordinary, Outcome.after]
      · rw [guarded_of_escaping ordinary]
        simp [resume, contain, ordinary]

/-- A callback whose actions stand aside ends well, unless a fault that is not ordinary comes out of
them. -/
theorem exists_run_callbackTasks {calls : List (List Action)}
    (aside : ∀ call ∈ calls, ∀ action ∈ call, action.StandsAside) (callback : Callback)
    (endpoint : Endpoint) :
    ∃ result trace writes closes, run (callbackTasks id callback calls) endpoint =
        ⟨result, trace, endpoint.progressed 0 writes closes endpoint.assembler⟩ ∧
      (∀ event ∈ trace, event.Works endpoint) ∧
      ((∀ fault, ((perform (calls.headD [])).run endpoint).result = .error fault →
        fault.isOrdinary = true) → result = .ok ()) := by
  have headAside : ∀ action ∈ calls.headD [], action.StandsAside := by
    cases calls with
    | nil => exact List.forall_mem_nil _
    | cons call later => exact aside call List.mem_cons_self
  obtain ⟨result, trace, writes, closes, ran, works, -⟩ := exists_run_map_act headAside endpoint
  have performed : (perform (calls.headD [])).run endpoint =
      ⟨result, trace, endpoint.progressed 0 writes closes endpoint.assembler⟩ := ran
  rw [run_callback_eq_guarded, performed]
  cases result with
  | ok value => exact ⟨.ok value, trace, writes, closes, rfl, works, fun _ => rfl⟩
  | error fault =>
    by_cases ordinary : fault.isOrdinary = true
    · have noted := @works_notice endpoint (.callbackFailed callback fault)
      exact ⟨.ok (), trace ++ [.notice (.callbackFailed callback fault)], writes, closes,
        guarded_of_ordinary ordinary _ _ _,
        List.forall_mem_append.2 ⟨works, List.forall_mem_singleton.2 noted⟩, fun _ => rfl⟩
    · exact ⟨.error fault, trace, writes, closes, guarded_of_escaping ordinary _ _ _, works,
        fun orderly => absurd (orderly fault rfl) ordinary⟩

theorem run_dismiss (endpoint : Endpoint) :
    run [.dismiss] endpoint =
      ⟨endpoint.closeResult, endpoint.closeEvents, endpoint.dismissed⟩ :=
  run_singleton (perform_dismiss endpoint)

/-- What comes of the callback for the departure of the peer, under its guard. -/
def parted (endpoint : Endpoint) : Outcome Endpoint Unit :=
  guarded .onPeerUnavailable ((perform endpoint.parting).run endpoint.departed)

/-- A departure is the callback for it, behind which the connection is dismissed. -/
theorem run_departure (reason : Option Fault) (endpoint : Endpoint) :
    (perform [.lose reason]).run endpoint =
      (resume [.dismiss] endpoint.parted).after
        (.notice (.connectionLost endpoint.peer reason) :: endpoint.farewell) := by
  have whole := @run_of_ok _ [] _ _ _ _ (run_lose reason endpoint)
  rw [List.append_nil, run_append, run_callback_eq_guarded] at whole
  exact whole

/-- When the peer departs, the callback is called and takes its actions. Then the connection is
closed and forgotten, unless a fault that is not ordinary came out of the callback. -/
theorem perform_lose (aside : endpoint.handlers.StandAside)
    (accepted : endpoint.ClosesAccepted) (reason : Option Fault) :
    ∃ trace writes closes,
      let parted := endpoint.departed.progressed 0 writes closes endpoint.assembler
      let events := .notice (.connectionLost endpoint.peer reason) :: endpoint.farewell ++ trace
      (∀ event ∈ trace, event.Works endpoint) ∧
        ((perform [.lose reason]).run endpoint =
            ⟨.ok (), events ++ endpoint.closeEvents, parted.forgotten⟩ ∨
          ¬ endpoint.DepartsOrderly ∧ ∃ fault,
            (perform [.lose reason]).run endpoint = ⟨.error fault, events, parted⟩) := by
  obtain ⟨result, trace, writes, closes, called, works, orderly⟩ :=
    exists_run_callbackTasks (forall_mem_getD aside.onPeerUnavailable) .onPeerUnavailable
      endpoint.departed
  have ran := run_departure reason endpoint
  rw [parted, parting, ← run_callback_eq_guarded, called] at ran
  refine ⟨trace, writes, closes, fun event among => ?_, ?_⟩
  · obtain ⟨silent, closed⟩ := works event among
    exact ⟨silent, closed⟩
  cases result with
  | ok value =>
    left
    have closed :
        (endpoint.departed.progressed 0 writes closes endpoint.assembler).ClosesAccepted :=
      @closesAccepted_progressed endpoint.departed 0 writes closes endpoint.assembler accepted
    rw [ran, resume, show endpoint.departed.assembler = endpoint.assembler from rfl,
      run_dismiss, dismissed_of_closed (closeResult_of_closesAccepted closed),
      closeResult_of_closesAccepted closed, closeEvents_progressed, Outcome.after_after]
    rfl
  | error fault =>
    right
    refine ⟨fun orderlyDeparture => ?_, fault, ran⟩
    cases orderly orderlyDeparture

end Departure

section Visits

variable {visit : Visit} {start : Endpoint}

/-- An endpoint that has had so many connections since another time, with callbacks that still stand
aside, and of which none was added or taken away. -/
structure Continues (start : Endpoint) (connections : Nat) (endpoint : Endpoint) : Prop where
  same : endpoint.number = start.number
  aside : endpoint.handlers.StandAside
  counted : endpoint.connections = start.connections + connections
  available : endpoint.handlers.onPeerAvailable.isSome = start.handlers.onPeerAvailable.isSome
  unavailable : endpoint.handlers.onPeerUnavailable.isSome = start.handlers.onPeerUnavailable.isSome

theorem continues_self (aside : start.handlers.StandAside) : start.Continues 0 start :=
  ⟨rfl, aside, rfl, rfl, rfl⟩

theorem Continues.trans {middle : Endpoint} {earlier later : Nat}
    (first : start.Continues earlier middle) (second : middle.Continues later endpoint) :
    start.Continues (earlier + later) endpoint where
  same := second.same.trans first.same
  aside := second.aside
  counted := by rw [second.counted, first.counted, Nat.add_assoc]
  available := second.available.trans first.available
  unavailable := second.unavailable.trans first.unavailable

theorem Continues.lifecycle_eq {connections : Nat}
    (continues : start.Continues connections endpoint) (caller : Caller) (records : Nat) :
    endpoint.handlers.lifecycle caller records = start.handlers.lifecycle caller records := by
  rw [Handlers.lifecycle, continues.available, continues.unavailable, Handlers.lifecycle]

/-- An endpoint during a visit, before the departure. -/
structure Hosts (start : Endpoint) (visit : Visit) (endpoint : Endpoint) : Prop where
  continues : start.Continues 1 endpoint
  called : endpoint.caller = visit.caller start.number
  number : endpoint.transport.map Transport.number = some (start.connections + 1)
  accepted : endpoint.ClosesAccepted

theorem called?_greeting (endpoint : Endpoint) :
    endpoint.greeting.filterMap Event.called? =
      if endpoint.handlers.onPeerAvailable.isSome then
        [(.onPeerAvailable, endpoint.caller)] else [] := by
  rw [greeting]
  cases endpoint.handlers.onPeerAvailable <;> rfl

theorem called?_farewell (endpoint : Endpoint) :
    endpoint.farewell.filterMap Event.called? =
      if endpoint.handlers.onPeerUnavailable.isSome then
        [(.onPeerUnavailable, endpoint.caller)] else [] := by
  rw [farewell]
  cases endpoint.handlers.onPeerUnavailable <;> rfl

theorem closed?_greeting (endpoint : Endpoint) :
    endpoint.greeting.filterMap Event.closed? = [] := by
  rw [greeting]
  cases endpoint.handlers.onPeerAvailable <;> rfl

theorem closed?_farewell (endpoint : Endpoint) :
    endpoint.farewell.filterMap Event.closed? = [] := by
  rw [farewell]
  cases endpoint.handlers.onPeerUnavailable <;> rfl

/-- Up to the departure, the callback for the arrival is called first and once, and the one for
records from then on. -/
theorem hosts_arrival (aside : start.handlers.StandAside) (proper : visit.Proper) :
    start.Hosts visit (serve visit.arrival start).endpoint ∧
      (∃ records, (serve visit.arrival start).trace.filterMap Event.called? =
        (if start.handlers.onPeerAvailable.isSome then
          [(.onPeerAvailable, visit.caller start.number)] else []) ++
          List.replicate records (.onRecord, visit.caller start.number)) ∧
      ∀ number ∈ (serve visit.arrival start).trace.filterMap Event.closed?,
        number = start.connections + 1 := by
  obtain ⟨peer, trace, called, ⟨records, writes, closes, assembler, left⟩, observed, attends⟩ :=
    serve_arrival aside proper
  let connected := start.connectedTo visit.connection peer
  have connectedAccepted : connected.greeted.ClosesAccepted := by
    rintro transport ⟨⟩
    exact proper.accepted
  refine ⟨?_, ?_, ?_⟩
  · rw [left]
    exact ⟨⟨rfl, standAside_progressed (@standAside_greeted connected aside) _ _ _ _, rfl,
      Option.isSome_map, rfl⟩, called, rfl, closesAccepted_progressed _ _ _ _ connectedAccepted⟩
  · obtain ⟨count, replicated⟩ := exists_replicate_of_attends attends
    refine ⟨count, ?_⟩
    rw [observed, List.cons_append, List.filterMap_cons_none rfl, List.filterMap_append,
      called?_greeting, replicated, ← called]
    rfl
  · intro number among
    rw [observed, List.cons_append, List.filterMap_cons_none rfl, List.filterMap_append,
      closed?_greeting, List.nil_append] at among
    obtain ⟨event, listed, closing⟩ := List.mem_filterMap.1 among
    exact (Option.some.inj ((attends event listed).closed number closing)).symm

/-- When the peer departs, the callback for that is called once and no other one. Unless a fault
that is not ordinary comes out of it, the departure ends with the close of the transport, and the
endpoint knows neither the transport nor the peer any more. -/
theorem departs_of_hosts (hosts : start.Hosts visit endpoint) (reason : Option Fault) :
    let departure := (perform [.lose reason]).run endpoint
    start.Continues 1 departure.state ∧
      departure.trace.filterMap Event.called? =
        (if start.handlers.onPeerUnavailable.isSome then
          [(.onPeerUnavailable, visit.caller start.number)] else []) ∧
      (∀ number ∈ departure.trace.filterMap Event.closed?, number = start.connections + 1) ∧
      (endpoint.DepartsOrderly →
        departure.result = .ok () ∧
          departure.trace.getLast? = some (.transportClose (start.connections + 1)) ∧
          departure.state.transport = none ∧ departure.state.peer = .lost) := by
  intro departure
  obtain ⟨⟨same, aside, counted, available, unavailable⟩, called, number, accepted⟩ := hosts
  obtain ⟨trace, writes, closes, works, ran⟩ := perform_lose aside accepted reason
  let parted := endpoint.departed.progressed 0 writes closes endpoint.assembler
  have continues : start.Continues 1 parted :=
    ⟨same, standAside_progressed (standAside_departed aside) _ _ _ _, counted, available,
      Option.isSome_map.trans unavailable⟩
  have closing : endpoint.closeEvents = [.transportClose (start.connections + 1)] := by
    obtain ⟨transport, present, numbered⟩ := Option.map_eq_some_iff.1 number
    rw [closeEvents, present, Option.map_some, numbered]
    rfl
  -- However the departure ends, nobody else is called back behind the callback.
  obtain ⟨others, observed, working⟩ : ∃ others,
      departure.trace =
        .notice (.connectionLost endpoint.peer reason) :: (endpoint.farewell ++ others) ∧
        ∀ event ∈ others, event.Works endpoint := by
    rcases ran with completed | ⟨-, fault, escaped⟩
    · refine ⟨trace ++ endpoint.closeEvents, ?_,
        List.forall_mem_append.2 ⟨works, works_closeEvents endpoint⟩⟩
      rw [show departure = _ from completed]
      simp
    · exact ⟨trace, by rw [show departure = _ from escaped]; simp, works⟩
  refine ⟨?_, ?_, ?_, fun orderly => ?_⟩
  · rcases ran with completed | ⟨-, fault, escaped⟩
    · rw [show departure = _ from completed]
      exact ⟨same, continues.aside, continues.counted, continues.available, continues.unavailable⟩
    · rw [show departure = _ from escaped]
      exact continues
  · rw [observed, List.filterMap_cons_none rfl, List.filterMap_append, called?_farewell,
      filterMap_called?_of_works working, List.append_nil, unavailable, called]
  · intro closed among
    rw [observed, List.filterMap_cons_none rfl, List.filterMap_append, closed?_farewell,
      List.nil_append] at among
    obtain ⟨event, listed, ends⟩ := List.mem_filterMap.1 among
    exact (Option.some.inj (number.symm.trans ((working event listed).closed closed ends))).symm
  · rcases ran with completed | ⟨disorderly, -⟩
    · rw [show departure = _ from completed, closing]
      exact ⟨rfl, List.getLast?_concat, rfl, rfl⟩
    · exact absurd orderly disorderly

/-- What one visit comes to on an endpoint, of which the number and that of the visit's transport
are given. -/
structure Attended (handlers : Handlers) (own transport : Nat) (visit : Visit)
    (endpoint : Endpoint) : Prop where
  /-- The peer arrives, records come in, and the peer departs. All callbacks are handed the endpoint
  of that number, and the identity that was drawn for the peer. -/
  callbacks : ∃ records,
    (serve visit.actions endpoint).trace.filterMap Event.called? =
      handlers.lifecycle (visit.caller own) records
  /-- No transport is closed but that of the visit. -/
  closes : ∀ closed ∈ (serve visit.actions endpoint).trace.filterMap Event.closed?,
    closed = transport
  /-- The departure closes that transport, and leaves neither transport nor peer. -/
  departs :
    let attended := (serve visit.arrival endpoint).endpoint
    let departure := (perform [.lose visit.reason]).run attended
    attended.DepartsOrderly →
      departure.result = .ok () ∧ departure.trace.getLast? = some (.transportClose transport) ∧
        departure.state.transport = none ∧ departure.state.peer = .lost

/-- A visit of an endpoint whose callbacks stand aside. -/
theorem attended_of_continues {connections : Nat} (continues : start.Continues connections endpoint)
    (proper : visit.Proper) :
    Attended start.handlers start.number (start.connections + connections + 1) visit endpoint ∧
      start.Continues (connections + 1) (serve visit.actions endpoint).endpoint := by
  obtain ⟨hosts, ⟨records, arrived⟩, ownCloses⟩ := hosts_arrival continues.aside proper
  obtain ⟨left, parted, lastCloses, departs⟩ := departs_of_hosts hosts visit.reason
  let attended := (serve visit.arrival endpoint).endpoint
  have whole : (serve visit.actions endpoint).trace =
      (serve visit.arrival endpoint).trace ++
        ((perform [.lose visit.reason]).run attended).trace := by
    rw [Visit.actions, serve_append]
    simp [serve, attended]
  have last : (serve visit.actions endpoint).endpoint =
      ((perform [.lose visit.reason]).run attended).state := by
    rw [Visit.actions, serve_append]
    rfl
  rw [← continues.counted]
  refine ⟨⟨⟨records, ?_⟩, ?_, departs⟩, last ▸ continues.trans left⟩
  · rw [whole, List.filterMap_append, arrived, parted, ← continues.lifecycle_eq, ← continues.same]
    rfl
  · rw [whole, List.filterMap_append]
    exact List.forall_mem_append.2 ⟨ownCloses, lastCloses⟩

/-- Visits one behind another keep the endpoint ready for the next one. -/
theorem continues_visits {visits : List Visit} {connections : Nat}
    (proper : ∀ visit ∈ visits, visit.Proper) (continues : start.Continues connections endpoint) :
    start.Continues (connections + visits.length)
      (serve (visits.flatMap Visit.actions) endpoint).endpoint := by
  induction visits generalizing connections endpoint with
  | nil => exact continues
  | cons visit later inductionHypothesis =>
    obtain ⟨first, others⟩ := List.forall_mem_cons.1 proper
    obtain ⟨-, left⟩ := attended_of_continues continues first
    have lastly := inductionHypothesis others left
    rw [List.flatMap_cons, serve_append, List.length_cons, Nat.add_comm later.length,
      ← Nat.add_assoc]
    exact lastly

/-- Every callback is handed the endpoint itself and an identity that is there. -/
theorem identified_visits {visits : List Visit} {connections : Nat}
    (proper : ∀ visit ∈ visits, visit.Proper) (continues : start.Continues connections endpoint) :
    ∀ called ∈ (serve (visits.flatMap Visit.actions) endpoint).trace.filterMap Event.called?,
      called.2.endpoint = start.number ∧
        ∃ identity, called.2.identity = some identity ∧
          identity.length = 2 * Peer.identitySize := by
  induction visits generalizing connections endpoint with
  | nil => exact List.forall_mem_nil _
  | cons visit later inductionHypothesis =>
    obtain ⟨first, others⟩ := List.forall_mem_cons.1 proper
    obtain ⟨attended, left⟩ := attended_of_continues continues first
    obtain ⟨records, callbacks⟩ := attended.callbacks
    rw [List.flatMap_cons, serve_append, List.filterMap_append, callbacks]
    refine List.forall_mem_append.2 ⟨?_, inductionHypothesis others left⟩
    intro called among
    rw [eq_of_mem_lifecycle among]
    exact ⟨rfl, _, rfl, Peer.length_identityOf visit.drawn⟩

/-- An endpoint is connected time and again, with callbacks that send, close or fail. On each of its
connections the arrival of the peer is reported once and before all records, and the departure once
and after them. Every callback is handed this endpoint and the identity that was drawn for this
connection, the ten digits of five octets, and so never an absent one. No transport is closed but
that of the connection. The departure closes it and leaves the endpoint without a transport, an
address or an identity, unless a fault that is not ordinary comes out of the callback. -/
theorem attends_every_visit (aside : start.handlers.StandAside) {visits : List Visit}
    (proper : ∀ visit ∈ visits, visit.Proper) :
    (∀ called ∈ (serve (visits.flatMap Visit.actions) start).trace.filterMap Event.called?,
        called.2.endpoint = start.number ∧
          ∃ identity, called.2.identity = some identity ∧
            identity.length = 2 * Peer.identitySize) ∧
      ∀ earlier visit later, visits = earlier ++ visit :: later →
        Attended start.handlers start.number (start.connections + earlier.length + 1) visit
          (serve (earlier.flatMap Visit.actions) start).endpoint := by
  refine ⟨identified_visits proper (continues_self aside), ?_⟩
  rintro earlier visit later rfl
  obtain ⟨before, among⟩ := List.forall_mem_append.1 proper
  have continues := continues_visits before (continues_self aside)
  rw [Nat.zero_add] at continues
  exact (attended_of_continues continues (List.forall_mem_cons.1 among).1).1

/-- Two connections, on which callbacks send, close and fail. The second one is made while a record
of the first is incomplete, and its transport fails to write when the peer departs. -/
theorem attends_second_visit :
    let handlers : Handlers :=
      ⟨some [[.echo, .act .close], [.act (.raise .notConnected)]],
        some [[.send (.octets [1])], [.close, .raise .notConnected]],
        some [[.raise .notConnected], [.send (.octets [2]), .close]]⟩
    let start : Endpoint := ⟨1, true, .integer 16, .empty, .unconnected, none, 0, handlers⟩
    let first : Visit :=
      ⟨.absent, .tuple [.text "127.0.0.1", .integer 6000], ⟨[0, 1, 2, 3, 4], rfl⟩, [], [],
        [.receive [0x80, 0, 0, 1, 7, 0x80], .send (.octets [3])], none⟩
    let second : Visit :=
      ⟨.tuple [.text "::1", .integer 5000, .integer 0, .integer 0], .absent,
        ⟨[5, 6, 7, 8, 9], rfl⟩, [some .notConnected], [none],
        [.receive [0, 0, 1, 8], .close], some .notConnected⟩
    let current := (serve first.actions start).endpoint
    let attended := (serve second.arrival current).endpoint
    let departure := (perform [.lose second.reason]).run attended
    create 1 (.integer 16) handlers = .ok start ∧ attended.DepartsOrderly ∧
      Attended handlers 1 2 second current ∧
      (serve second.actions current).trace.filterMap Event.called? =
        handlers.lifecycle ⟨1, some "0506070809"⟩ 1 ∧
      departure.result = .ok () ∧ departure.trace.getLast? = some (.transportClose 2) := by
  intro handlers start first second current attended departure
  have aside : start.handlers.StandAside := by
    constructor <;> simp [start, handlers, Reaction.toAction, Action.StandsAside]
  have proper : ∀ visit ∈ [first, second], visit.Proper := by
    simp only [List.forall_mem_cons]
    refine ⟨⟨.inl rfl, .inr rfl, by simp [first], ?_⟩, ⟨.inr rfl, .inl rfl, by simp [second], ?_⟩,
      List.forall_mem_nil _⟩
    · simp [first, Action.KeepsConnection]
    · simp [second, Action.KeepsConnection]
  have holds : Attended handlers 1 2 second current :=
    (attends_every_visit aside proper).2 [first] second [] rfl
  have left : attended.handlers = ⟨some [], some [], some [[.send (.octets [2]), .close]]⟩ := by
    decide +kernel
  have carried : attended.transport = some ⟨2, [some .notConnected], []⟩ := by decide +kernel
  have orderly : attended.DepartsOrderly := by
    refine departsOrderly_of_ordinary ?_ ?_ ?_
    · constructor <;> simp [left, Action.StandsAside]
    · simp [parting, left]
    · simp [carried, Fault.isOrdinary]
  obtain ⟨ended, closed, -⟩ := holds.departs orderly
  exact ⟨rfl, orderly, holds, by decide +kernel, ended, closed⟩

end Visits

end Endpoint

end RecordMarking
