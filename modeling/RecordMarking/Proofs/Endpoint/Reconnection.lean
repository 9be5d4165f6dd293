import RecordMarking.Proofs.Residue
import RecordMarking.Proofs.Endpoint.Reception

/-!
# What outlives a connection

With a connection an endpoint forgets its transport and its peer, but not the octets that it holds.
`anonymous` leaves out of an endpoint what the next connection replaces. Nothing that an endpoint
does and nothing that it finds in octets depends on that: the lemmas on `Blind` say so of every
activity, `alike_run` of runs and `sameService_of_anonymous` of calls.

So an endpoint that is connected again behaves like a new one that holds the same octets
(`connection_starts_with_held_octets`), which is not what a new one does that holds nothing
(`lost_marker_is_completed`).
-/

namespace RecordMarking.Endpoint

/-- An endpoint without what it knows of its peer, and without its number and those of its
connections. -/
def anonymous (endpoint : Endpoint) : Endpoint :=
  { endpoint with
    number := 0
    peer := .unconnected
    transport := endpoint.transport.map fun transport => { transport with number := 0 }
    connections := 0 }

@[simp] theorem anonymous_anonymous (endpoint : Endpoint) :
    endpoint.anonymous.anonymous = endpoint.anonymous := by
  cases transport : endpoint.transport <;> simp [anonymous, transport]

/-- Outcomes that differ at most in what an anonymous endpoint leaves out, and in events that say
nothing about received octets. -/
structure Alike {Result : Type} (first second : Outcome Endpoint Result) : Prop where
  result_eq : first.result = second.result
  findings_eq : first.trace.filterMap Event.finding? = second.trace.filterMap Event.finding?
  state_eq : first.state.anonymous = second.state.anonymous

/-- An activity that does not depend on what an anonymous endpoint leaves out. -/
def Blind {Result : Type} (activity : Activity Endpoint Result) : Prop :=
  ∀ endpoint, Alike (activity.run endpoint) (activity.run endpoint.anonymous)

section Alike

variable {Result : Type} {first second third : Outcome Endpoint Result}

theorem Alike.symm (alike : Alike first second) : Alike second first :=
  ⟨alike.result_eq.symm, alike.findings_eq.symm, alike.state_eq.symm⟩

theorem Alike.trans (alike : Alike first second) (further : Alike second third) :
    Alike first third :=
  ⟨alike.result_eq.trans further.result_eq, alike.findings_eq.trans further.findings_eq,
    alike.state_eq.trans further.state_eq⟩

theorem Alike.after (alike : Alike first second) {earlier others : List Event}
    (found : earlier.filterMap Event.finding? = others.filterMap Event.finding?) :
    Alike (first.after earlier) (second.after others) := by
  refine ⟨alike.result_eq, ?_, alike.state_eq⟩
  rw [Outcome.trace_after, Outcome.trace_after, List.filterMap_append, List.filterMap_append,
    found, alike.findings_eq]

/-- On endpoints that are the same anonymously, a blind activity comes to the same. -/
theorem Blind.alike {activity : Activity Endpoint Result} (blind : Blind activity)
    {endpoint other : Endpoint} (same : endpoint.anonymous = other.anonymous) :
    Alike (activity.run endpoint) (activity.run other) := by
  have left := blind endpoint
  rw [same] at left
  exact left.trans (blind other).symm

end Alike

section Blind

variable {First Second : Type}

theorem blind_conclude (result : Except Fault First) : Blind (.conclude result) :=
  fun endpoint => ⟨rfl, rfl, (anonymous_anonymous endpoint).symm⟩

theorem blind_pure (value : First) : Blind (pure value) :=
  blind_conclude (.ok value)

theorem blind_emit (event : Event) : Blind (.emit event) :=
  fun endpoint => ⟨rfl, rfl, (anonymous_anonymous endpoint).symm⟩

/-- A change is blind that does the same to the anonymous endpoint. -/
theorem blind_modify {change : Endpoint → Endpoint}
    (same : ∀ endpoint, (change endpoint).anonymous = (change endpoint.anonymous).anonymous) :
    Blind (.modify change) :=
  fun endpoint => ⟨rfl, rfl, same endpoint⟩

/-- So is a change that has nothing to do with what an anonymous endpoint leaves out. -/
theorem blind_modify_of_commutes {change : Endpoint → Endpoint}
    (commutes : ∀ endpoint, (change endpoint).anonymous = change endpoint.anonymous) :
    Blind (.modify change) :=
  blind_modify fun endpoint => by rw [commutes, commutes, anonymous_anonymous]

theorem blind_setAssembler (assembler : Assembler) : Blind (setAssembler assembler) :=
  blind_modify_of_commutes fun _ => rfl

theorem blind_bind {first : Activity Endpoint First}
    {second : First → Activity Endpoint Second} (blindFirst : Blind first)
    (blindSecond : ∀ value, Blind (second value)) : Blind (first >>= second) := by
  intro endpoint
  have alike := blindFirst endpoint
  match ran : first.run endpoint, again : first.run endpoint.anonymous with
  | ⟨result, trace, next⟩, ⟨_, others, last⟩ =>
    rw [ran, again] at alike
    obtain ⟨rfl, found, same⟩ := alike
    cases result with
    | error fault =>
      rw [Activity.run_bind_error ran, Activity.run_bind_error again]
      exact ⟨rfl, found, same⟩
    | ok value =>
      rw [Activity.run_bind_ok ran, Activity.run_bind_ok again]
      exact ((blindSecond value).alike same).after found

/-- What goes on with the endpoint is blind if it is so with the anonymous endpoint. -/
theorem blind_get {second : Endpoint → Activity Endpoint Second}
    (same : ∀ endpoint, second endpoint = second endpoint.anonymous)
    (blind : ∀ endpoint, Blind (second endpoint)) : Blind (.get >>= second) := by
  intro endpoint
  rw [Activity.run_bind_ok (Activity.run_get endpoint),
    Activity.run_bind_ok (Activity.run_get endpoint.anonymous), ← same endpoint]
  exact (blind endpoint endpoint).after rfl

end Blind

section Activities

theorem blind_noteOfPeer {notice : Peer → Notice}
    (silent : ∀ peer other,
      Event.finding? (.notice (notice peer)) = Event.finding? (.notice (notice other))) :
    Blind (noteOfPeer notice) := by
  intro endpoint
  refine ⟨rfl, ?_, (anonymous_anonymous endpoint).symm⟩
  exact congrArg (List.filterMap id [·]) (silent endpoint.peer _)

theorem blind_modifyPeer (change : Peer → Peer) : Blind (modifyPeer change) :=
  blind_modify fun endpoint => (anonymous_anonymous endpoint).symm

theorem blind_forget : Blind forget :=
  blind_modify fun _ => rfl

theorem blind_closeTransport : Blind closeTransport := by
  intro endpoint
  obtain ⟨_, _, _, _, _, transport, _, _⟩ := endpoint
  cases transport <;> exact ⟨rfl, rfl, rfl⟩

theorem blind_writeTransport (octets : Octets) : Blind (writeTransport octets) := by
  intro endpoint
  obtain ⟨_, _, _, _, _, transport, _, _⟩ := endpoint
  cases transport <;> exact ⟨rfl, rfl, rfl⟩

theorem blind_close : Blind close :=
  blind_bind (blind_noteOfPeer fun _ _ => rfl) fun _ => blind_closeTransport

theorem blind_send (data : Value) : Blind (send data) := by
  refine blind_get (fun _ => rfl) fun endpoint => ?_
  split
  · split
    · exact blind_emit _
    · exact blind_bind (blind_conclude _) fun _ => blind_bind (blind_conclude _) fun _ =>
        blind_bind (blind_emit _) fun _ => blind_writeTransport _
    · exact blind_emit _
  · exact blind_conclude _

theorem blind_adopt (connection : Connection) : Blind (adopt connection) :=
  blind_bind (blind_modify fun _ => rfl) fun _ => blind_bind (blind_conclude _) fun _ =>
    blind_bind (blind_modifyPeer _) fun _ => blind_bind (blind_conclude _) fun _ =>
      blind_bind (blind_modifyPeer _) fun _ => blind_bind (blind_modifyPeer _) fun _ =>
        blind_noteOfPeer fun _ _ => rfl

theorem blind_notifyRecord (record : Octets) : Blind (notifyRecord record) := by
  intro endpoint
  obtain ⟨_, _, _, _, _, transport, _, ⟨onRecord, _, _⟩⟩ := endpoint
  cases transport <;> cases onRecord <;> exact ⟨rfl, rfl, rfl⟩

theorem blind_notifyPeerAvailable : Blind notifyPeerAvailable := by
  intro endpoint
  obtain ⟨_, _, _, _, _, transport, _, ⟨_, onPeerAvailable, _⟩⟩ := endpoint
  cases transport <;> cases onPeerAvailable <;> exact ⟨rfl, rfl, rfl⟩

theorem blind_notifyPeerUnavailable : Blind notifyPeerUnavailable := by
  intro endpoint
  obtain ⟨_, _, _, _, _, transport, _, ⟨_, _, onPeerUnavailable⟩⟩ := endpoint
  cases transport <;> cases onPeerUnavailable <;> exact ⟨rfl, rfl, rfl⟩

theorem blind_receive (octets : Octets) : Blind (receive octets) := by
  refine blind_get (fun _ => rfl) fun endpoint => ?_
  split
  · exact blind_bind (blind_setAssembler _) fun _ => blind_pure _
  · exact blind_pure _

theorem blind_receiveNumbers (numbers : List Value) : Blind (receiveNumbers numbers) := by
  refine blind_get (fun _ => rfl) fun endpoint => ?_
  split
  · exact blind_bind (blind_conclude _) fun _ => blind_receive _
  · exact blind_pure _

theorem blind_parse : Blind parse := by
  refine blind_get (fun _ => rfl) fun endpoint => ?_
  split
  · exact blind_pure _
  · refine blind_bind ?_ fun _ => blind_pure _
    exact blind_bind (blind_noteOfPeer fun _ _ => rfl) fun _ =>
      blind_bind (blind_setAssembler _) fun _ => blind_close
  · exact blind_conclude _
  · exact blind_bind (blind_setAssembler _) fun _ => blind_pure _
  · exact blind_bind (blind_setAssembler _) fun _ => blind_bind (blind_emit _) fun _ =>
      blind_bind (blind_notifyRecord _) fun _ => blind_pure _

theorem blind_take (action : Action) : Blind (take action) := by
  cases action with
  | receive octets => exact blind_receive octets
  | receiveNumbers numbers => exact blind_receiveNumbers numbers
  | send data => exact blind_bind (blind_send data) fun _ => blind_pure _
  | connect connection =>
    exact blind_bind (blind_adopt connection) fun _ => blind_notifyPeerAvailable
  | lose reason =>
    exact blind_bind (blind_noteOfPeer fun _ _ => rfl) fun _ =>
      blind_bind blind_notifyPeerUnavailable fun _ => blind_pure _
  | close => exact blind_bind blind_close fun _ => blind_pure _
  | setLimit limit =>
    exact blind_bind (blind_modify_of_commutes fun _ => rfl) fun _ => blind_pure _
  | raise fault => exact blind_conclude _

/-- No task depends on what an anonymous endpoint leaves out. -/
theorem blind_perform (task : Task) : Blind task.perform := by
  cases task with
  | act action => exact blind_take action
  | parse => exact blind_parse
  | dismiss =>
    exact blind_bind blind_closeTransport fun _ => blind_bind blind_forget fun _ => blind_pure _
  | endCallback callback => exact blind_pure _

end Activities

section Runs

variable {endpoint other : Endpoint}

/-- A task that ends on one endpoint ends alike on any that is the same anonymously. -/
theorem exists_alike_perform {task : Task} {next : Endpoint} {trace : List Event}
    {result : Except Fault (List Task)}
    (ran : task.perform.run endpoint = ⟨result, trace, next⟩)
    (same : endpoint.anonymous = other.anonymous) :
    ∃ others last, task.perform.run other = ⟨result, others, last⟩ ∧
      trace.filterMap Event.finding? = others.filterMap Event.finding? ∧
      next.anonymous = last.anonymous := by
  have alike := (blind_perform task).alike same
  match again : task.perform.run other with
  | ⟨_, others, last⟩ =>
    rw [ran, again] at alike
    obtain ⟨rfl, found, following⟩ := alike
    exact ⟨others, last, rfl, found, following⟩

/-- Runs on endpoints that are the same anonymously come to the same. -/
theorem alike_run {tasks : List Task} (same : endpoint.anonymous = other.anonymous) :
    Alike (run tasks endpoint) (run tasks other) := by
  fun_induction run tasks endpoint generalizing other with
  | case1 endpoint =>
    rw [run_nil]
    exact ⟨rfl, rfl, same⟩
  | case2 endpoint task rest more trace next done inductionHypothesis =>
    obtain ⟨others, last, again, found, following⟩ := exists_alike_perform done same
    rw [run_of_ok again]
    exact (inductionHypothesis following).after found
  | case3 endpoint task rest fault trace next failed escaped =>
    obtain ⟨others, last, again, found, following⟩ := exists_alike_perform failed same
    rw [run_of_escaped again escaped]
    exact ⟨rfl, found, following⟩
  | case4 endpoint task rest fault trace next failed callback below contained inductionHypothesis =>
    obtain ⟨others, last, again, found, following⟩ := exists_alike_perform failed same
    rw [run_of_contained again contained]
    refine (inductionHypothesis following).after ?_
    rw [List.filterMap_append, List.filterMap_append, found]

/-- What calls find in octets. -/
def findingsOf (calls : List Action) (endpoint : Endpoint) : List Finding :=
  (serve calls endpoint).trace.filterMap Event.finding?

theorem findingsOf_cons (call : Action) (later : List Action) (endpoint : Endpoint) :
    findingsOf (call :: later) endpoint =
      (run [.act call] endpoint).trace.filterMap Event.finding? ++
        findingsOf later (run [.act call] endpoint).state :=
  List.filterMap_append

/-- Calls that end alike on two endpoints and find the same. -/
def SameService (calls : List Action) (endpoint other : Endpoint) : Prop :=
  (serve calls endpoint).results = (serve calls other).results ∧
    findingsOf calls endpoint = findingsOf calls other

theorem sameService_cons {call : Action} {later : List Action}
    (first : Alike (run [.act call] endpoint) (run [.act call] other))
    (others : SameService later (run [.act call] endpoint).state (run [.act call] other).state) :
    SameService (call :: later) endpoint other := by
  refine ⟨List.cons_eq_cons.2 ⟨first.result_eq, others.1⟩, ?_⟩
  rw [findingsOf_cons, findingsOf_cons, first.findings_eq, others.2]

/-- Calls come to the same on endpoints that are the same anonymously. -/
theorem sameService_of_anonymous (same : endpoint.anonymous = other.anonymous)
    (calls : List Action) : SameService calls endpoint other := by
  induction calls generalizing endpoint other with
  | nil => exact ⟨rfl, rfl⟩
  | cons call later inductionHypothesis =>
    have first := @alike_run endpoint other [.act call] same
    exact sameService_cons first (inductionHypothesis first.state_eq)

/-- An endpoint that delimits is created with an acceptable limit, and holds nothing. -/
theorem eq_of_create {number : Nat} {limit : Value} {handlers : Handlers} {fresh : Endpoint}
    (made : create number limit handlers = .ok fresh) :
    ∃ bound, limit = .integer bound ∧ 2 ≤ bound ∧
      fresh = ⟨number, true, .integer bound, .empty, .unconnected, none, 0, handlers⟩ := by
  unfold create checkLimit at made
  split at made
  · rename_i bound
    split at made
    · rename_i enough
      obtain rfl := Except.ok.inj made
      exact ⟨bound, rfl, enough, rfl⟩
    · simp [Except.map] at made
  · simp [Except.map] at made

/-- A new connection replaces the transport, whatever it was. -/
theorem run_connect_without_transport (connection : Connection) (endpoint : Endpoint) :
    run [.act (.connect connection)] endpoint =
      run [.act (.connect connection)] { endpoint with transport := none } :=
  run_congr rfl

/-- From a new connection on, an endpoint behaves like a new one that holds the same octets. -/
theorem sameService_connect {number : Nat} {lost fresh : Endpoint}
    (delimits : lost.delimiting = true)
    (made : create number lost.limit lost.handlers = .ok fresh) (connection : Connection)
    (calls : List Action) :
    SameService (.connect connection :: calls) lost
      { fresh with assembler := lost.assembler } := by
  have first : Alike (run [.act (.connect connection)] lost)
      (run [.act (.connect connection)] { fresh with assembler := lost.assembler }) := by
    rw [run_connect_without_transport connection lost,
      run_connect_without_transport connection { fresh with assembler := lost.assembler }]
    refine alike_run ?_
    obtain ⟨bound, limited, _, rfl⟩ := eq_of_create made
    simp only [anonymous, Option.map_none, delimits, limited]
  exact sameService_cons first (sameService_of_anonymous first.state_eq calls)

/-- An endpoint that delimits up to a limit, with unobtrusive callbacks for records and for the
arrival of a peer. -/
structure Reconnectable (limit : Int) (endpoint : Endpoint) : Prop where
  delimits : endpoint.delimiting = true
  limited : endpoint.limit = .integer limit
  listens : ∃ calls, endpoint.handlers.onRecord = some calls ∧
    ∀ call ∈ calls, ∀ reaction ∈ call, reaction.Unobtrusive
  available : ∀ calls ∈ endpoint.handlers.onPeerAvailable, ∀ call ∈ calls, ∀ action ∈ call,
    action.Unobtrusive

/-- What arrives on a new connection comes behind what the endpoint holds. -/
theorem findingsOf_connect {limit : Int} (ready : endpoint.Reconnectable limit)
    (wellFormed : endpoint.assembler.WellFormed limit) {connection : Connection}
    (ordinary : ∀ fault, some fault ∈ connection.writes ++ connection.closes →
      fault.isOrdinary = true) (slices : List Octets) :
    findingsOf (.connect connection :: slices.map .receive) endpoint =
      findingsOf [.connect connection] endpoint ++
        (endpoint.assembler.settleAll limit slices).1 := by
  obtain ⟨delimits, limited, listens, available⟩ := ready
  obtain ⟨receptive, held, -⟩ :=
    receptive_of_connect delimits limited listens ordinary available
  have received := (receives_serve receptive (held ▸ wellFormed) slices).findings_eq
  rw [held] at received
  have nothing : findingsOf [.connect connection] endpoint =
      (run [.act (.connect connection)] endpoint).trace.filterMap Event.finding? := by
    rw [findingsOf_cons]
    exact List.append_nil _
  rw [findingsOf_cons, nothing, ← received]
  rfl

/-- Only what holds nothing finds on every new connection what a new endpoint finds. -/
theorem eq_empty_of_findingsOf_connect {number : Nat} {limit : Int} {lost fresh : Endpoint}
    (ready : lost.Reconnectable limit) (wellFormed : lost.assembler.WellFormed limit)
    (made : create number lost.limit lost.handlers = .ok fresh)
    (same : ∀ connection, ∀ slices : List Octets,
      findingsOf (.connect connection :: slices.map .receive) lost =
        findingsOf (.connect connection :: slices.map .receive) fresh) :
    lost.assembler = .empty := by
  obtain ⟨bound, bounded, enough, rfl⟩ := eq_of_create made
  obtain rfl : bound = limit := Value.integer.inj (bounded.symm.trans ready.limited)
  refine (Assembler.eq_empty_iff_findings_eq enough).2 fun octets => ?_
  let connection : Connection := ⟨.absent, .absent, ⟨[0, 0, 0, 0, 0], rfl⟩, [], []⟩
  have ordinary : ∀ fault, some fault ∈ connection.writes ++ connection.closes →
      fault.isOrdinary = true := by simp [connection]
  have freshReady : Reconnectable bound
      ⟨number, true, .integer bound, .empty, .unconnected, none, 0, lost.handlers⟩ :=
    ⟨rfl, rfl, ready.listens, ready.available⟩
  -- What comes of connecting is found on both, and what comes of the octets behind it.
  have connecting := same connection []
  have receiving := same connection [octets]
  rw [List.map_nil] at connecting
  rw [findingsOf_connect ready wellFormed ordinary, findingsOf_connect freshReady trivial ordinary,
    connecting] at receiving
  simpa [Assembler.settleAll] using List.append_cancel_left receiving

/-- A new connection starts with all the octets that the endpoint holds of earlier ones, and with
nothing else: whatever is called from then on comes to what it would come to on a new endpoint that
holds the same. If the endpoint holds nothing, that is a new endpoint, and if it holds anything, the
octets of the new connection can show it. -/
theorem connection_starts_with_held_octets {number : Nat} {lost fresh : Endpoint}
    (delimits : lost.delimiting = true)
    (made : create number lost.limit lost.handlers = .ok fresh) :
    (∀ connection calls,
        SameService (.connect connection :: calls) lost
          { fresh with assembler := lost.assembler }) ∧
      (lost.assembler = .empty →
        ∀ connection calls, SameService (.connect connection :: calls) lost fresh) ∧
      ∀ limit, lost.Reconnectable limit → lost.assembler.WellFormed limit →
        (∀ connection, ∀ slices : List Octets,
          findingsOf (.connect connection :: slices.map .receive) lost =
            findingsOf (.connect connection :: slices.map .receive) fresh) →
          lost.assembler = .empty := by
  have resumed := sameService_connect delimits made
  refine ⟨resumed, fun clean connection calls => ?_, fun limit ready wellFormed same =>
    eq_empty_of_findingsOf_connect ready wellFormed made same⟩
  obtain ⟨bound, _, _, rfl⟩ := eq_of_create made
  have same := resumed connection calls
  rwa [clean] at same

/-- A connection that is lost behind two octets of a marker: the next one starts with them. -/
theorem connection_starts_with_half_a_marker :
    let first : Connection := ⟨.absent, .absent, ⟨[0, 0, 0, 0, 0], rfl⟩, [], []⟩
    let second : Connection := ⟨.absent, .absent, ⟨[0, 0, 0, 0, 1], rfl⟩, [], []⟩
    let handlers : Handlers := ⟨some [], none, none⟩
    let created : Endpoint := ⟨1, true, .integer 16, .empty, .unconnected, none, 0, handlers⟩
    let lost := (serve [.connect first, .receive [0x80, 0], .lose none] created).endpoint
    create 1 (.integer 16) handlers = .ok created ∧
      findingsOf [.connect second, .receive [0x80, 0, 0, 1, 0x41]] lost =
        findingsOf [.connect second, .receive [0x80, 0, 0, 1, 0x41]]
          { created with assembler := ⟨[0x80, 0], [], .awaitingMarker⟩ } ∧
      ¬ ∀ connection, ∀ slices : List Octets,
        findingsOf (.connect connection :: slices.map .receive) lost =
          findingsOf (.connect connection :: slices.map .receive) created := by
  intro first second handlers created lost
  have left : lost =
      ⟨1, true, .integer 16, ⟨[0x80, 0], [], .awaitingMarker⟩, .lost, none, 1, handlers⟩ := by
    decide +kernel
  have ready : lost.Reconnectable 16 := by
    rw [left]
    exact ⟨rfl, rfl, ⟨[], rfl, by simp⟩, by simp [handlers]⟩
  have made : create 1 lost.limit lost.handlers = .ok created := by
    rw [left]
    decide +kernel
  have delimits : lost.delimiting = true := by rw [left]
  obtain ⟨same, _, clean⟩ := connection_starts_with_held_octets delimits made
  have held : lost.assembler = ⟨[0x80, 0], [], .awaitingMarker⟩ := by rw [left]
  rw [held] at same clean
  refine ⟨by decide +kernel, (same second [.receive [0x80, 0, 0, 1, 0x41]]).2, fun always => ?_⟩
  have never : (⟨[0x80, 0], [], .awaitingMarker⟩ : Assembler) ≠ .empty := by decide
  exact never (clean 16 ready trivial always)

/-- The two octets of the lost connection complete a marker with the first two of the next one. On a
new endpoint a record arrives, here an overlong fragment is refused. -/
theorem lost_marker_is_completed :
    let first : Connection := ⟨.absent, .absent, ⟨[0, 0, 0, 0, 0], rfl⟩, [], []⟩
    let second : Connection := ⟨.absent, .absent, ⟨[0, 0, 0, 0, 1], rfl⟩, [], []⟩
    let created : Endpoint :=
      ⟨1, true, .integer 16, .empty, .unconnected, none, 0, ⟨some [], none, none⟩⟩
    let lost := (serve [.connect first, .receive [0x80, 0], .lose none] created).endpoint
    let calls : List Action := [.connect second, .receive [0x80, 0, 0, 1, 0x41]]
    findingsOf calls created = [.record [0x41]] ∧
      findingsOf calls lost = [.rejection (.tooLarge 0x8000 (.integer 16))] := by
  decide +kernel

end Runs

end RecordMarking.Endpoint
