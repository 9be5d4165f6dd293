import RecordMarking.Proofs.Endpoint.Lifecycle

/-!
# How a departure ends

When a connection is lost, an endpoint calls into foreign code twice before it forgets the
connection: it calls the callback for the departure, whose guard lets every fault out that is not
ordinary, and it tells the transport to close, which nothing guards.

`run_departure` and `perform_dismiss` give the three ways in which a departure ends, and
`departure_ends` puts them together: only if both calls return, the connection is forgotten. What
becomes of the transport is a matter of all tasks that the callback leads to.
`keepsOrCloses_perform` says of each of them, and `holds_or_closes_run` of a whole run, that the
endpoint holds its transport and its peer until the transport is told to close.

`unclosed_connection_is_kept` has two departures that fail and after which the endpoint is still
connected.
-/

namespace RecordMarking

/-- An action that makes no connection, whatever else it does. -/
def Action.NeverConnects : Action → Prop
  | .connect _ => False
  | .receive _ | .receiveNumbers _ | .send _ | .lose _ | .close | .setLimit _ | .raise _ => True

/-- A task that makes no connection. -/
def Task.NeverConnects : Task → Prop
  | .act action => action.NeverConnects
  | .parse | .dismiss | .endCallback _ => True

theorem Task.NeverConnects.of_keepsConnection {task : Task} (keeps : task.KeepsConnection) :
    task.NeverConnects := by
  cases task with
  | parse | dismiss | endCallback => trivial
  | act action =>
    cases action with
    | connect connection => exact keeps.elim
    | receive | receiveNumbers | send | lose | close | setLimit | raise => trivial

/-- Callbacks that make no connection, whatever else they do. -/
structure Handlers.NeverConnect (handlers : Handlers) : Prop where
  onRecord : ∀ calls ∈ handlers.onRecord, ∀ call ∈ calls, ∀ reaction ∈ call,
    ∀ record, (Reaction.toAction record reaction).NeverConnects
  onPeerAvailable : ∀ calls ∈ handlers.onPeerAvailable, ∀ call ∈ calls, ∀ action ∈ call,
    action.NeverConnects
  onPeerUnavailable : ∀ calls ∈ handlers.onPeerUnavailable, ∀ call ∈ calls, ∀ action ∈ call,
    action.NeverConnects

namespace Endpoint

/-- An endpoint that holds a transport, and knows the peer at its other end. -/
structure Holds (number : Nat) (peer : Peer) (endpoint : Endpoint) : Prop where
  numbered : endpoint.transport.map Transport.number = some number
  known : endpoint.peer = peer

section Holding

variable {number : Nat} {peer : Peer} {endpoint : Endpoint}

theorem Holds.progressed (holds : endpoint.Holds number peer) (records writes closes : Nat)
    (assembler : Assembler) :
    (endpoint.progressed records writes closes assembler).Holds number peer :=
  ⟨(number_progressed records writes closes assembler).trans holds.numbered, holds.known⟩

/-- A transport that is held is told to close when it is closed. -/
theorem Holds.mem_closeEvents (holds : endpoint.Holds number peer) :
    .transportClose number ∈ endpoint.closeEvents := by
  obtain ⟨transport, present, rfl⟩ := Option.map_eq_some_iff.1 holds.numbered
  rw [closeEvents, present]
  exact List.mem_singleton.2 rfl

theorem neverConnect_progressed (never : endpoint.handlers.NeverConnect)
    (records writes closes : Nat) (assembler : Assembler) :
    (endpoint.progressed records writes closes assembler).handlers.NeverConnect where
  onRecord := forall_mem_map_of_subset never.onRecord fun _ => List.drop_subset _ _
  onPeerAvailable := never.onPeerAvailable
  onPeerUnavailable := never.onPeerUnavailable

theorem neverConnect_departed (never : endpoint.handlers.NeverConnect) :
    endpoint.departed.handlers.NeverConnect where
  onRecord := never.onRecord
  onPeerAvailable := never.onPeerAvailable
  onPeerUnavailable := forall_mem_map_of_subset never.onPeerUnavailable fun calls =>
    (List.tail_sublist calls).subset

/-- What a task comes to that makes no connection: nothing that makes one is left, and the transport
and the peer are held until the transport is told to close. -/
structure KeepsOrCloses (number : Nat) (peer : Peer) (outcome : Outcome Endpoint (List Task)) :
    Prop where
  never : outcome.state.handlers.NeverConnect
  tasks : ∀ tasks, outcome.result = .ok tasks → ∀ task ∈ tasks, task.NeverConnects
  held : outcome.state.Holds number peer ∨ .transportClose number ∈ outcome.trace

/-- Progress takes neither the transport nor the peer away. -/
theorem keepsOrCloses_of_progressed (holds : endpoint.Holds number peer)
    (never : endpoint.handlers.NeverConnect) {outcome : Outcome Endpoint (List Task)}
    (progress : ∃ records writes closes assembler,
      outcome.state = endpoint.progressed records writes closes assembler)
    (tasks : ∀ tasks, outcome.result = .ok tasks → ∀ task ∈ tasks, task.NeverConnects) :
    KeepsOrCloses number peer outcome := by
  obtain ⟨records, writes, closes, assembler, left⟩ := progress
  constructor
  · rw [left]
    exact neverConnect_progressed never records writes closes assembler
  · exact tasks
  · rw [left]
    exact .inl (holds.progressed records writes closes assembler)

theorem keepsOrCloses_of_attends (holds : endpoint.Holds number peer)
    (never : endpoint.handlers.NeverConnect) {outcome : Outcome Endpoint (List Task)}
    (attends : Attends endpoint outcome) : KeepsOrCloses number peer outcome :=
  keepsOrCloses_of_progressed holds never attends.state_eq fun tasks done task among =>
    .of_keepsConnection (attends.keeps tasks done task among)

theorem keepsOrCloses_dismiss (holds : endpoint.Holds number peer)
    (never : endpoint.handlers.NeverConnect) :
    KeepsOrCloses number peer (Task.dismiss.perform.run endpoint) := by
  rw [perform_dismiss]
  constructor
  · cases ended : endpoint.closeResult with
    | ok value =>
      rw [dismissed_of_closed ended]
      exact never
    | error fault =>
      rw [dismissed_of_refused ended]
      exact neverConnect_progressed never 0 0 1 endpoint.assembler
  · intro tasks done
    exact forall_mem_of_nothing done Task.NeverConnects
  · exact .inr holds.mem_closeEvents

theorem keepsOrCloses_lose (holds : endpoint.Holds number peer)
    (never : endpoint.handlers.NeverConnect) (reason : Option Fault) :
    KeepsOrCloses number peer ((Task.act (.lose reason)).perform.run endpoint) := by
  rw [run_lose]
  constructor
  · exact neverConnect_departed never
  · rintro tasks ⟨⟩
    refine List.forall_mem_append.2 ⟨?_, List.forall_mem_singleton.2 trivial⟩
    exact forall_mem_callbackTasks (forall_mem_getD never.onPeerUnavailable)
      .onPeerUnavailable trivial
  · exact .inl ⟨holds.numbered, holds.known⟩

/-- No task that makes no connection takes the transport away without telling it to close. -/
theorem keepsOrCloses_perform (holds : endpoint.Holds number peer)
    (never : endpoint.handlers.NeverConnect) {task : Task} (unconnecting : task.NeverConnects) :
    KeepsOrCloses number peer (task.perform.run endpoint) := by
  cases task with
  | parse =>
    obtain ⟨⟨records, closes, assembler, left⟩, tasks⟩ :=
      @progress_of_parse endpoint Task.NeverConnects never.onRecord trivial trivial
    exact keepsOrCloses_of_progressed holds never ⟨records, 0, closes, assembler, left⟩ tasks
  | dismiss => exact keepsOrCloses_dismiss holds never
  | endCallback callback =>
    exact keepsOrCloses_of_attends holds never
      (@attends_nothing endpoint (.ok []) (by simp))
  | act action =>
    cases action with
    | connect connection => exact unconnecting.elim
    | lose reason => exact keepsOrCloses_lose holds never reason
    | setLimit limit =>
      constructor
      · exact never
      · rintro tasks ⟨⟩
        exact List.forall_mem_nil _
      · exact .inl ⟨holds.numbered, holds.known⟩
    | receive octets => exact keepsOrCloses_of_attends holds never (attends_receive octets endpoint)
    | receiveNumbers numbers =>
      exact keepsOrCloses_of_attends holds never (attends_receiveNumbers numbers endpoint)
    | send data =>
      exact keepsOrCloses_of_attends holds never
        (@attends_of_standsAside (.send data) trivial endpoint)
    | close =>
      exact keepsOrCloses_of_attends holds never (@attends_of_standsAside .close trivial endpoint)
    | raise fault =>
      exact keepsOrCloses_of_attends holds never
        (@attends_of_standsAside (.raise fault) trivial endpoint)

/-- Throughout a run in which no connection is made, the transport and the peer are held until the
transport is told to close. -/
theorem holds_or_closes_run {tasks : List Task} (holds : endpoint.Holds number peer)
    (never : endpoint.handlers.NeverConnect)
    (unconnecting : ∀ task ∈ tasks, task.NeverConnects) :
    (run tasks endpoint).state.Holds number peer ∨
      .transportClose number ∈ (run tasks endpoint).trace := by
  fun_induction run tasks endpoint with
  | case1 endpoint => exact .inl holds
  | case2 endpoint task rest more trace next done inductionHypothesis =>
    obtain ⟨first, others⟩ := List.forall_mem_cons.1 unconnecting
    have stepped := keepsOrCloses_perform holds never first
    rw [done] at stepped
    rcases stepped.held with still | closed
    · have later := inductionHypothesis still stepped.never
        (List.forall_mem_append.2 ⟨stepped.tasks more rfl, others⟩)
      exact later.imp_right (List.mem_append_right _)
    · exact .inr (List.mem_append_left _ closed)
  | case3 endpoint task rest fault trace next failed escaped =>
    have stepped := keepsOrCloses_perform holds never (unconnecting task List.mem_cons_self)
    rw [failed] at stepped
    exact stepped.held
  | case4 endpoint task rest fault trace next failed callback below contained
      inductionHypothesis =>
    obtain ⟨first, others⟩ := List.forall_mem_cons.1 unconnecting
    have stepped := keepsOrCloses_perform holds never first
    rw [failed] at stepped
    rcases stepped.held with still | closed
    · have later := inductionHypothesis still stepped.never
        fun other among => others other (mem_of_contain contained among)
      exact later.imp_right (List.mem_append_right _)
    · exact .inr (List.mem_append_left _ (List.mem_append_left _ closed))

end Holding

section Endings

variable {endpoint : Endpoint} {reason : Option Fault}

theorem state_guarded (callback : Callback) (called : Outcome Endpoint Unit) :
    (guarded callback called).state = called.state := by
  match called with
  | ⟨.ok (), trace, next⟩ => rfl
  | ⟨.error fault, trace, next⟩ =>
    rw [guarded]
    split <;> rfl

theorem trace_subset_guarded (callback : Callback) (called : Outcome Endpoint Unit) :
    called.trace ⊆ (guarded callback called).trace := by
  match called with
  | ⟨.ok (), trace, next⟩ => exact List.Subset.refl trace
  | ⟨.error fault, trace, next⟩ =>
    rw [guarded]
    split
    · exact List.subset_append_left trace _
    · exact List.Subset.refl trace

/-- The faults that a guard lets out are those that are not ordinary. -/
theorem result_guarded_eq_error_iff {callback : Callback} {called : Outcome Endpoint Unit}
    {fault : Fault} :
    (guarded callback called).result = .error fault ↔
      called.result = .error fault ∧ fault.isOrdinary = false := by
  match called with
  | ⟨.ok (), trace, next⟩ => simp [guarded]
  | ⟨.error other, trace, next⟩ =>
    by_cases ordinary : other.isOrdinary = true
    · rw [guarded_of_ordinary ordinary]
      constructor
      · intro impossible
        cases impossible
      · rintro ⟨⟨⟩, extraordinary⟩
        rw [ordinary] at extraordinary
        cases extraordinary
    · rw [guarded_of_escaping ordinary]
      constructor
      · rintro ⟨⟩
        exact ⟨rfl, Bool.eq_false_iff.2 ordinary⟩
      · exact And.left

/-- A callback returns under its guard if it fails in an ordinary way at most. -/
theorem result_guarded_of_ordinary {callback : Callback} {called : Outcome Endpoint Unit}
    (ordinary : ∀ fault, called.result = .error fault → fault.isOrdinary = true) :
    (guarded callback called).result = .ok () := by
  cases result : (guarded callback called).result with
  | ok value => rfl
  | error fault =>
    obtain ⟨escaped, extraordinary⟩ := result_guarded_eq_error_iff.1 result
    rw [ordinary fault escaped] at extraordinary
    cases extraordinary

/-- A fault that the callback lets out ends the departure where it is: nothing is closed and nothing
is forgotten. -/
theorem departure_of_escaped {fault : Fault} (escaped : endpoint.parted.result = .error fault) :
    (perform [.lose reason]).run endpoint =
      ⟨.error fault,
        .notice (.connectionLost endpoint.peer reason) :: endpoint.farewell ++
          endpoint.parted.trace,
        endpoint.parted.state⟩ := by
  rw [run_departure]
  match came : endpoint.parted with
  | ⟨.ok (), trace, next⟩ =>
    rw [came] at escaped
    cases escaped
  | ⟨.error other, trace, next⟩ =>
    rw [came] at escaped
    cases escaped
    rfl

/-- When the callback lets nothing out, the departure ends as the dismissal does. -/
theorem departure_of_returned (returned : endpoint.parted.result = .ok ()) :
    (perform [.lose reason]).run endpoint =
      ⟨endpoint.parted.state.closeResult,
        .notice (.connectionLost endpoint.peer reason) :: endpoint.farewell ++
          endpoint.parted.trace ++ endpoint.parted.state.closeEvents,
        endpoint.parted.state.dismissed⟩ := by
  rw [run_departure]
  match came : endpoint.parted with
  | ⟨.error fault, trace, next⟩ =>
    rw [came] at returned
    cases returned
  | ⟨.ok (), trace, next⟩ =>
    rw [resume, run_dismiss, Outcome.after_after]
    rfl

/-- A transport that refuses to close is there, and stays. -/
theorem isSome_of_refused {fault : Fault} (refused : endpoint.closeResult = .error fault) :
    endpoint.dismissed.transport.isSome := by
  rw [dismissed_of_refused refused]
  cases present : endpoint.transport with
  | none =>
    rw [closeResult, present] at refused
    cases refused
  | some transport => simp [progressed, present]

/-- A departure that returns leaves nothing of the connection. -/
theorem forgets_of_returned
    (returned : ((perform [.lose reason]).run endpoint).result = .ok ()) :
    ((perform [.lose reason]).run endpoint).state.transport = none ∧
      ((perform [.lose reason]).run endpoint).state.peer = .lost := by
  cases result : endpoint.parted.result with
  | error fault =>
    rw [departure_of_escaped result] at returned
    cases returned
  | ok value =>
    rw [departure_of_returned result] at returned ⊢
    rw [dismissed_of_closed returned]
    exact ⟨rfl, rfl⟩

/-- If the callbacks make no connection, the transport that was held is told to close, unless a
fault comes out of the callback for the departure. -/
theorem closes_or_escapes (never : endpoint.handlers.NeverConnect) {transport : Transport}
    (present : endpoint.transport = some transport) :
    let departure := (perform [.lose reason]).run endpoint
    .transportClose transport.number ∈ departure.trace ∨
      (∃ fault, endpoint.parted.result = .error fault) ∧
        departure.state.Holds transport.number endpoint.peer := by
  intro departure
  have unconnecting : ∀ task ∈ endpoint.parting.map Task.act, task.NeverConnects :=
    List.forall_mem_map.2 (forall_mem_parting never.onPeerUnavailable)
  have holds : endpoint.departed.Holds transport.number endpoint.peer :=
    ⟨congrArg (Option.map Transport.number) present, rfl⟩
  have ran : endpoint.parted.state.Holds transport.number endpoint.peer ∨
      .transportClose transport.number ∈ endpoint.parted.trace := by
    rw [parted, state_guarded]
    exact (holds_or_closes_run holds (neverConnect_departed never) unconnecting).imp_right
      fun closed => trace_subset_guarded .onPeerUnavailable _ closed
  cases result : endpoint.parted.result with
  | ok value =>
    left
    rw [show departure = _ from departure_of_returned result]
    rcases ran with still | closed
    · exact List.mem_append_right _ still.mem_closeEvents
    · exact List.mem_append_left _ (List.mem_append_right _ closed)
  | error fault =>
    rw [show departure = _ from departure_of_escaped result]
    rcases ran with still | closed
    · exact .inr ⟨⟨fault, rfl⟩, still⟩
    · exact .inl (List.mem_append_right _ closed)

/-- The three ways in which a departure ends. If a fault that is not ordinary comes out of the
callback, the departure neither closes nor forgets the connection. If the callback lets nothing out
and the transport refuses to close, the connection is not forgotten either, and the endpoint still
has a transport. Only if both return, nothing of the connection is left.

As long as the callbacks make no connection, the transport has been told to close in the end, but
for the first way: there the endpoint may still hold it and know its peer, as before. -/
theorem departure_ends (endpoint : Endpoint) (reason : Option Fault) :
    let called := (perform endpoint.parting).run endpoint.departed
    let parted := guarded .onPeerUnavailable called
    let departure := (perform [.lose reason]).run endpoint
    let observed :=
      .notice (.connectionLost endpoint.peer reason) :: endpoint.farewell ++ parted.trace
    (departure.result = .ok () →
        departure.state.transport = none ∧ departure.state.peer = .lost) ∧
      (∀ fault, called.result = .error fault → fault.isOrdinary = false →
        departure = ⟨.error fault, observed, called.state⟩) ∧
      ((∀ fault, called.result = .error fault → fault.isOrdinary = true) →
        (∀ fault, called.state.closeResult = .error fault →
          departure = ⟨.error fault, observed ++ called.state.closeEvents,
              called.state.progressed 0 0 1 called.state.assembler⟩ ∧
            departure.state.transport.isSome) ∧
        (called.state.closeResult = .ok () →
          departure = ⟨.ok (), observed ++ called.state.closeEvents, called.state.forgotten⟩)) ∧
      (endpoint.handlers.NeverConnect → ∀ transport ∈ endpoint.transport,
        .transportClose transport.number ∈ departure.trace ∨
          (∃ fault, called.result = .error fault ∧ fault.isOrdinary = false) ∧
            departure.state.Holds transport.number endpoint.peer) := by
  intro called parted departure observed
  have left : endpoint.parted.state = called.state := state_guarded .onPeerUnavailable called
  refine ⟨forgets_of_returned, ?_, ?_, ?_⟩
  · intro fault escaped extraordinary
    rw [← left]
    exact departure_of_escaped (result_guarded_eq_error_iff.2 ⟨escaped, extraordinary⟩)
  · intro ordinary
    have ended : departure = _ := departure_of_returned (result_guarded_of_ordinary ordinary)
    rw [left] at ended
    constructor
    · intro fault refused
      rw [ended, refused]
      exact ⟨by rw [dismissed_of_refused refused]; rfl, isSome_of_refused refused⟩
    · intro closed
      rw [ended, closed, dismissed_of_closed closed]
      rfl
  · intro never transport present
    refine (closes_or_escapes never present).imp_right ?_
    rintro ⟨⟨fault, escaped⟩, held⟩
    exact ⟨⟨fault, result_guarded_eq_error_iff.1 escaped⟩, held⟩

/-- Three departures, one for each way. The callback of the first sends, loses the connection itself
and then fails in an ordinary way. The transport of the second one refuses to close. A request to
exit comes out of the callback of the third. -/
theorem departure_ends_in_three_ways :
    let connected (closes : Verdicts) (calls : List Action) : Endpoint :=
      ⟨1, true, .integer 16, .empty, ⟨some "00", .absent, .absent⟩, some ⟨1, [], closes⟩, 1,
        ⟨none, none, some [calls]⟩⟩
    let first := connected [] [.send (.octets [2]), .lose none, .raise .notConnected]
    let second := connected [some .notConnected] [.raise .notConnected]
    let third := connected [] [.raise (.reported .exitRequest [])]
    let departure (endpoint : Endpoint) := (perform [.lose none]).run endpoint
    first.handlers.NeverConnect ∧ (departure first).result = .ok () ∧
      (departure first).state.transport = none ∧ (departure first).state.peer = .lost ∧
      .transportClose 1 ∈ (departure first).trace ∧
      (departure second).state.transport.isSome ∧
      (departure third).result = .error (.reported .exitRequest []) ∧
      (departure third).state = third.departed := by
  intro connected first second third departure
  have never : first.handlers.NeverConnect := by
    constructor <;> simp [first, connected, Action.NeverConnects]
  have returned : (departure first).result = .ok () := by decide +kernel
  have failed : ((perform first.parting).run first.departed).result = .error .notConnected := by
    decide +kernel
  obtain ⟨forgets, -, -, closes⟩ := departure_ends first none
  obtain ⟨-, -, ends, -⟩ := departure_ends second none
  obtain ⟨-, escapes, -, -⟩ := departure_ends third none
  refine ⟨never, returned, (forgets returned).1, (forgets returned).2, ?_, ?_, ?_, ?_⟩
  · refine (closes never ⟨1, [], []⟩ rfl).resolve_right ?_
    rintro ⟨⟨fault, escaped, extraordinary⟩, -⟩
    obtain rfl : .notConnected = fault := Except.error.inj (failed.symm.trans escaped)
    cases extraordinary
  · have contained : ((perform second.parting).run second.departed).result =
        .error .notConnected := by decide +kernel
    refine ((ends fun fault escaped => ?_).1 .notConnected (by decide +kernel)).2
    obtain rfl : .notConnected = fault := Except.error.inj (contained.symm.trans escaped)
    rfl
  · rw [show departure third = _ from
      escapes (.reported .exitRequest []) (by decide +kernel) rfl]
  · rw [show departure third = _ from
      escapes (.reported .exitRequest []) (by decide +kernel) rfl]
    decide +kernel

/-- Two endpoints that are created, connected and lose the connection, and are still connected. The
transport of the first refuses to close. From the callback of the second an interruption comes, and
its transport is not even told to close. -/
theorem unclosed_connection_is_kept :
    let connection (closes : Verdicts) : Connection :=
      ⟨.tuple [.text "127.0.0.1", .integer 5000], .tuple [.text "127.0.0.1", .integer 6000],
        ⟨[0, 0, 0, 0, 0], rfl⟩, [], closes⟩
    let peer : Peer :=
      ⟨some "0000000000", .tuple [.text "127.0.0.1", .integer 6000],
        .tuple [.text "127.0.0.1", .integer 5000]⟩
    let created (handlers : Handlers) : Endpoint :=
      ⟨1, true, .integer 16, .empty, .unconnected, none, 0, handlers⟩
    let refusal : Fault := .reported (.system .unspecified) [.text "boom"]
    let interruption : Fault := .reported .interruption []
    let refused :=
      serve [.connect (connection [some refusal]), .lose none] (created ⟨none, none, none⟩)
    let interrupted :=
      serve [.connect (connection []), .lose none]
        (created ⟨none, none, some [[.raise interruption]]⟩)
    create 1 (.integer 16) ⟨none, none, none⟩ = .ok (created ⟨none, none, none⟩) ∧
      refused.results = [.ok (), .error refusal] ∧
      refused.endpoint.transport = some ⟨1, [], []⟩ ∧ refused.endpoint.peer = peer ∧
      interrupted.results = [.ok (), .error interruption] ∧
      interrupted.endpoint.transport = some ⟨1, [], []⟩ ∧ interrupted.endpoint.peer = peer ∧
      .transportClose 1 ∉ interrupted.trace := by
  decide +kernel

end Endings

end Endpoint

end RecordMarking
