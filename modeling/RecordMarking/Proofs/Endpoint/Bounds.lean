import RecordMarking.Proofs.Endpoint.Reconnection
import RecordMarking.Proofs.Endpoint.Delivery

/-!
# What an endpoint holds while it waits

A hostile peer can announce fragments of any length and send any octets. As long as nobody assigns
another limit to an endpoint, a fragment that it waits for has octets, and fewer than the limit:
`bounded_perform` says that every task keeps this up, among them the ones by which callbacks fail,
call back or come to a new connection. Each step of parsing that goes on with parsing takes octets
away (`exists_removed_of_parse`), and so an endpoint that parsed all that it could is starving: it
holds less than the marker or the fragment that it waits for.

`starves_between_calls` puts both together for every history of calls.
-/

namespace RecordMarking

namespace Assembler

variable {limit : Int} {assembler next : Assembler}

/-- An assembler that holds too little to get on: a part of a marker, or a part of a fragment that
is shorter than the limit. -/
def Starving (limit : Int) (assembler : Assembler) : Prop :=
  match assembler.phase with
  | .awaitingMarker => assembler.buffer.length < Marker.size
  | .awaitingFragment marker =>
    1 ≤ marker.length ∧ (marker.length : Int) < limit ∧ assembler.buffer.length < marker.length

theorem starving_empty (limit : Int) : empty.Starving limit := Nat.zero_lt_succ 3

/-- A well-formed assembler that cannot get on is starving. -/
theorem starving_of_advance (wellFormed : assembler.WellFormed limit)
    (starved : assembler.advance (.integer limit) = .starved) : assembler.Starving limit := by
  obtain ⟨buffer, collected, phase⟩ := assembler
  cases phase with
  | awaitingMarker =>
    rcases short_or_exists_marker buffer with short | ⟨marker, behind, fits, rfl⟩
    · exact short
    · simp only [advance, List.take_left' marker.length_octets, Marker.ofOctets?_octets fits,
        Value.isReachedBy_integer] at starved
      split at starved
      · cases starved
      · split at starved <;> cases starved
  | awaitingFragment marker =>
    obtain ⟨positive, below, _⟩ := wellFormed
    simp only [advance] at starved
    split at starved
    · rename_i short
      exact ⟨positive, below, short⟩
    · split at starved <;> cases starved

/-- What a starving assembler holds unconsumed. -/
theorem Starving.length_buffer_le (starving : assembler.Starving limit) :
    (assembler.buffer.length : Int) ≤ max 3 (limit - 2) := by
  obtain ⟨buffer, collected, phase⟩ := assembler
  cases phase with
  | awaitingMarker =>
    have short : buffer.length < 4 := starving
    simp only
    omega
  | awaitingFragment marker =>
    obtain ⟨_, below, short⟩ := starving
    simp only at short ⊢
    omega

/-- No fragment is complete in what a starving assembler holds. -/
theorem Starving.blocked (starving : assembler.Starving limit)
    (wellFormed : assembler.WellFormed limit) :
    (front limit assembler.pending).isFragment = false := by
  obtain ⟨buffer, collected, phase⟩ := assembler
  cases phase with
  | awaitingMarker =>
    have short : buffer.length < Marker.size := starving
    rw [pending_awaitingMarker, front_of_short short]
    rfl
  | awaitingFragment marker =>
    obtain ⟨positive, below, short⟩ := starving
    have stands : front limit (pending ⟨buffer, collected, .awaitingFragment marker⟩) =
        marker.front limit buffer := front_marker wellFormed.2.2 buffer
    rw [stands, Marker.front, if_neg (by omega), if_neg (by omega), if_pos short]
    rfl

/-- The assembler that goes on after a step, if one does. -/
def Step.next? : Step → Option Assembler
  | .advanced next | .completed _ next => some next
  | .starved | .rejected _ | .failed _ => none

/-- A step that goes on takes a marker or a fragment off the front, and so at least one octet. -/
theorem exists_removed_of_advance (wellFormed : assembler.WellFormed limit)
    (went : (assembler.advance (.integer limit)).next? = some next) :
    ∃ removed, removed ≠ [] ∧ assembler.buffer = removed ++ next.buffer := by
  obtain ⟨buffer, collected, phase⟩ := assembler
  cases phase with
  | awaitingMarker =>
    rcases short_or_exists_marker buffer with short | ⟨marker, behind, fits, rfl⟩
    · simp only [advance, ofOctets?_take_of_short short] at went
      cases went
    · simp only [advance, List.take_left' marker.length_octets,
        List.drop_left' marker.length_octets, Marker.ofOctets?_octets fits,
        Value.isReachedBy_integer] at went
      split at went
      · cases went
      · split at went
        · cases went
        · cases went
        · cases went
          exact ⟨marker.octets, List.cons_ne_nil _ _, rfl⟩
  | awaitingFragment marker =>
    obtain ⟨positive, _, _⟩ := wellFormed
    simp only [advance] at went
    split at went
    · cases went
    · rename_i enough
      have parts : buffer = buffer.take marker.length ++ buffer.drop marker.length :=
        (List.take_append_drop _ _).symm
      have something : buffer.take marker.length ≠ [] := by
        refine List.ne_nil_of_length_pos ?_
        rw [List.length_take]
        omega
      split at went
      · cases went
        exact ⟨_, something, parts⟩
      · cases went
        exact ⟨_, something, parts⟩

end Assembler

/-- Whether an action leaves the limit of an endpoint as it is. -/
def Action.KeepsLimit : Action → Prop
  | .setLimit _ => False
  | .receive _ | .receiveNumbers _ | .send _ | .connect _ | .lose _ | .close | .raise _ => True

/-- Whether a task leaves the limit of an endpoint as it is. -/
def Task.KeepsLimit : Task → Prop
  | .act action => action.KeepsLimit
  | .parse | .dismiss | .endCallback _ => True

/-- Callbacks that leave the limit as it is, whatever else they do. -/
structure Handlers.KeepLimit (handlers : Handlers) : Prop where
  onRecord : ∀ calls ∈ handlers.onRecord, ∀ call ∈ calls, ∀ reaction ∈ call,
    ∀ record, (Reaction.toAction record reaction).KeepsLimit
  onPeerAvailable : ∀ calls ∈ handlers.onPeerAvailable, ∀ call ∈ calls, ∀ action ∈ call,
    action.KeepsLimit
  onPeerUnavailable : ∀ calls ∈ handlers.onPeerUnavailable, ∀ call ∈ calls, ∀ action ∈ call,
    action.KeepsLimit

theorem Action.KeepsLimit.of_feeds {action : Action} (feeds : action.Feeds) :
    action.KeepsLimit := by
  cases action with
  | setLimit limit => exact feeds.elim
  | _ => trivial

namespace Endpoint

/-- What holds of all calls of a callback still holds when some of them are done. -/
theorem forall_mem_map_of_subset {Call : Type} {listed : Option (List Call)}
    {property : Call → Prop} (each : ∀ calls ∈ listed, ∀ call ∈ calls, property call)
    {shorten : List Call → List Call} (part : ∀ calls, shorten calls ⊆ calls) :
    ∀ calls ∈ listed.map shorten, ∀ call ∈ calls, property call := by
  intro later among call left
  obtain ⟨calls, before, rfl⟩ := Option.map_eq_some_iff.1 among
  exact each calls before call (part calls left)

/-- An endpoint that delimits up to a limit, with callbacks that leave the limit alone, and that
waits for no other fragments than the limit allows. -/
structure Bounded (limit : Int) (endpoint : Endpoint) : Prop where
  delimits : endpoint.delimiting = true
  limited : endpoint.limit = .integer limit
  wellFormed : endpoint.assembler.WellFormed limit
  keeps : endpoint.handlers.KeepLimit

section Tasks

variable {limit : Int} {endpoint : Endpoint}

theorem Bounded.progressed (bounded : endpoint.Bounded limit) (records writes closes : Nat)
    {assembler : Assembler} (wellFormed : assembler.WellFormed limit) :
    (endpoint.progressed records writes closes assembler).Bounded limit where
  delimits := bounded.delimits
  limited := bounded.limited
  wellFormed := wellFormed
  keeps := {
    onRecord := forall_mem_map_of_subset bounded.keeps.onRecord fun _ => List.drop_subset _ _
    onPeerAvailable := bounded.keeps.onPeerAvailable
    onPeerUnavailable := bounded.keeps.onPeerUnavailable }

theorem Bounded.connectedTo (bounded : endpoint.Bounded limit) (connection : Connection)
    (peer : Peer) : (endpoint.connectedTo connection peer).Bounded limit :=
  ⟨bounded.delimits, bounded.limited, bounded.wellFormed, bounded.keeps⟩

theorem Bounded.notified (bounded : endpoint.Bounded limit) :
    ({ endpoint with
      handlers :=
        { endpoint.handlers with
          onPeerAvailable := endpoint.handlers.onPeerAvailable.map List.tail } } :
      Endpoint).Bounded limit where
  delimits := bounded.delimits
  limited := bounded.limited
  wellFormed := bounded.wellFormed
  keeps := {
    onRecord := bounded.keeps.onRecord
    onPeerAvailable := forall_mem_map_of_subset bounded.keeps.onPeerAvailable fun calls =>
      (List.tail_sublist calls).subset
    onPeerUnavailable := bounded.keeps.onPeerUnavailable }

/-- The departure of the peer is announced to the callback, before the connection is dismissed. -/
theorem run_lose (reason : Option Fault) (endpoint : Endpoint) :
    (Task.act (.lose reason)).perform.run endpoint =
      ⟨.ok (callbackTasks id .onPeerUnavailable
          (endpoint.handlers.onPeerUnavailable.getD []) ++ [.dismiss]),
        .notice (.connectionLost endpoint.peer reason) ::
          (endpoint.handlers.onPeerUnavailable.map fun _ =>
            .peerUnavailable endpoint.caller).toList,
        { endpoint with
          handlers :=
            { endpoint.handlers with
              onPeerUnavailable := endpoint.handlers.onPeerUnavailable.map List.tail } }⟩ := by
  obtain ⟨_, _, _, _, _, _, _, ⟨_, _, onPeerUnavailable⟩⟩ := endpoint
  cases onPeerUnavailable <;>
    simp [Task.perform, take, noteOfPeer, Activity.note, notifyPeerUnavailable, bind,
      Activity.andThen, Outcome.after, callbackTasks]

theorem Bounded.departed (bounded : endpoint.Bounded limit) :
    ({ endpoint with
      handlers :=
        { endpoint.handlers with
          onPeerUnavailable := endpoint.handlers.onPeerUnavailable.map List.tail } } :
      Endpoint).Bounded limit where
  delimits := bounded.delimits
  limited := bounded.limited
  wellFormed := bounded.wellFormed
  keeps := {
    onRecord := bounded.keeps.onRecord
    onPeerAvailable := bounded.keeps.onPeerAvailable
    onPeerUnavailable := forall_mem_map_of_subset bounded.keeps.onPeerUnavailable fun calls =>
      (List.tail_sublist calls).subset }

/-- An activity that leaves a bounded endpoint and nothing to be done keeps the bound. -/
theorem maintains_of_run {activity : Activity Endpoint (List Task)} {result : Except Fault Unit}
    {trace : List Event} {next : Endpoint}
    (ran : activity.run endpoint = ⟨result.map fun _ => [], trace, next⟩)
    (bounded : next.Bounded limit) :
    Maintains Task.KeepsLimit (Bounded limit) (activity.run endpoint) := by
  rw [ran]
  cases result with
  | error fault => exact .of_error bounded fault trace
  | ok value => exact .of_ok bounded (List.forall_mem_nil _) trace

theorem maintains_parse (bounded : endpoint.Bounded limit) :
    Maintains Task.KeepsLimit (Bounded limit) (Task.parse.perform.run endpoint) := by
  have settles := Assembler.settles_of_advance bounded.wellFormed
  rw [← bounded.limited] at settles
  match step : endpoint.assembler.advance endpoint.limit with
  | .starved =>
    rw [run_parse_of_starved step]
    exact .of_ok bounded (List.forall_mem_nil _) _
  | .rejected reason =>
    exact maintains_of_run (run_parse_of_rejected step) (bounded.progressed 0 0 1 trivial)
  | .failed fault =>
    rw [step] at settles
    exact settles.elim
  | .advanced next =>
    rw [step] at settles
    rw [run_parse_of_advanced step]
    exact .of_ok (bounded.progressed 0 0 0 settles.2) (List.forall_mem_singleton.2 trivial) _
  | .completed record next =>
    rw [step] at settles
    rw [run_parse_of_completed step]
    refine .of_ok (bounded.progressed 1 0 0 settles.2) ?_ _
    exact forall_mem_recordTasks bounded.keeps.onRecord trivial trivial record

theorem maintains_receive (bounded : endpoint.Bounded limit) (octets : Octets) :
    Maintains Task.KeepsLimit (Bounded limit)
      ((Task.act (.receive octets)).perform.run endpoint) := by
  rw [run_receive bounded.delimits]
  refine .of_ok ?_ (List.forall_mem_singleton.2 trivial) _
  exact bounded.progressed 0 0 0 bounded.wellFormed

theorem maintains_connect (bounded : endpoint.Bounded limit) (connection : Connection) :
    Maintains Task.KeepsLimit (Bounded limit)
      ((Task.act (.connect connection)).perform.run endpoint) := by
  obtain ⟨result, trace, peer, adopted, _⟩ := run_adopt connection endpoint
  have connected := bounded.connectedTo connection peer
  cases result with
  | error fault =>
    have failed : (Task.act (.connect connection)).perform.run endpoint =
        ⟨.error fault, trace, endpoint.connectedTo connection peer⟩ :=
      Activity.run_bind_error adopted
    rw [failed]
    exact .of_error connected fault trace
  | ok value =>
    rw [Task.perform, take, Activity.run_bind_ok adopted, run_notifyPeerAvailable]
    refine .of_ok connected.notified ?_ _
    exact forall_mem_callbackTasks (forall_mem_getD bounded.keeps.onPeerAvailable)
      .onPeerAvailable trivial

theorem maintains_lose (bounded : endpoint.Bounded limit) (reason : Option Fault) :
    Maintains Task.KeepsLimit (Bounded limit)
      ((Task.act (.lose reason)).perform.run endpoint) := by
  rw [run_lose]
  refine .of_ok bounded.departed ?_ _
  refine List.forall_mem_append.2 ⟨?_, List.forall_mem_singleton.2 trivial⟩
  exact forall_mem_callbackTasks (forall_mem_getD bounded.keeps.onPeerUnavailable)
    .onPeerUnavailable trivial

theorem maintains_dismiss (bounded : endpoint.Bounded limit) :
    Maintains Task.KeepsLimit (Bounded limit) (Task.dismiss.perform.run endpoint) := by
  apply maintains_of_run (perform_dismiss endpoint)
  cases ended : endpoint.closeResult with
  | ok value =>
    rw [dismissed_of_closed ended]
    exact ⟨bounded.delimits, bounded.limited, bounded.wellFormed, bounded.keeps⟩
  | error fault =>
    rw [dismissed_of_refused ended]
    exact bounded.progressed 0 0 1 bounded.wellFormed

/-- Every task that leaves the limit alone keeps the bound, also one that fails. -/
theorem bounded_perform (task : Task) (endpoint : Endpoint) (keeps : task.KeepsLimit)
    (bounded : endpoint.Bounded limit) :
    Maintains Task.KeepsLimit (Bounded limit) (task.perform.run endpoint) := by
  cases task with
  | parse => exact maintains_parse bounded
  | dismiss => exact maintains_dismiss bounded
  | endCallback callback =>
    exact .of_ok bounded (List.forall_mem_nil _) _
  | act action =>
    cases action with
    | setLimit limit => exact keeps.elim
    | receive octets => exact maintains_receive bounded octets
    | receiveNumbers numbers =>
      rw [run_receiveNumbers bounded.delimits]
      match octetsOfNumbers numbers with
      | .error fault => exact .of_error bounded fault []
      | .ok octets => exact maintains_receive bounded octets
    | send data =>
      obtain ⟨result, trace, writes, ran, _⟩ :=
        run_take_send bounded.delimits bounded.limited data
      exact maintains_of_run ran (bounded.progressed 0 writes 0 bounded.wellFormed)
    | connect connection => exact maintains_connect bounded connection
    | lose reason => exact maintains_lose bounded reason
    | close =>
      exact maintains_of_run (run_then_nothing (run_close endpoint))
        (bounded.progressed 0 0 1 bounded.wellFormed)
    | raise fault => exact .of_error bounded fault []

/-- A step of parsing that goes on with parsing has taken octets away by then. -/
theorem exists_removed_of_parse (bounded : endpoint.Bounded limit) {tasks : List Task}
    (went : (Task.parse.perform.run endpoint).result = .ok tasks) (again : .parse ∈ tasks) :
    ∃ removed, removed ≠ [] ∧
      endpoint.assembler.buffer =
        removed ++ (Task.parse.perform.run endpoint).state.assembler.buffer := by
  have removes := @Assembler.exists_removed_of_advance limit endpoint.assembler
  rw [← bounded.limited] at removes
  match step : endpoint.assembler.advance endpoint.limit with
  | .starved =>
    rw [run_parse_of_starved step] at went
    cases went
    cases again
  | .rejected reason =>
    rw [run_parse_of_rejected step] at went
    cases closed : endpoint.closeResult with
    | error fault =>
      rw [closed] at went
      cases went
    | ok value =>
      rw [closed] at went
      cases went
      cases again
  | .failed fault =>
    rw [run_parse_of_failed step] at went
    cases went
  | .advanced next =>
    rw [run_parse_of_advanced step]
    exact removes bounded.wellFormed (by rw [step]; rfl)
  | .completed record next =>
    rw [run_parse_of_completed step]
    exact removes bounded.wellFormed (by rw [step]; rfl)

/-- Parsing that leaves nothing to be done leaves a starving endpoint. -/
theorem starving_of_parse (bounded : endpoint.Bounded limit) {trace : List Event}
    {next : Endpoint} (done : Task.parse.perform.run endpoint = ⟨.ok [], trace, next⟩) :
    next.assembler.Starving limit := by
  rcases parse_cases done with ⟨above, more⟩ | ⟨-, ⟨starved, rfl⟩ | dropped⟩
  · simp at more
  · rw [bounded.limited] at starved
    exact Assembler.starving_of_advance bounded.wellFormed starved
  · rw [dropped]
    exact Assembler.starving_empty limit

/-- When a call returns that hands octets to a bounded endpoint, the endpoint is starving. -/
theorem starving_of_returned (bounded : endpoint.Bounded limit) {call : Action}
    (feeds : call.Feeds) (returned : (run [.act call] endpoint).result = .ok ()) :
    (run [.act call] endpoint).state.assembler.Starving limit := by
  obtain ⟨fed, feeding⟩ := run_feeding bounded.delimits feeds returned
  have ran : run [.act call] endpoint = run [.parse] fed := run_of_ok feeding
  have fedBounded := (bounded_perform (.act call) endpoint (.of_feeds feeds) bounded).1
  rw [feeding] at fedBounded
  rw [ran] at returned ⊢
  obtain ⟨before, last, trace, listed, parsed⟩ := exists_last_parse rfl returned
  obtain ⟨_, always⟩ := run_invariant bounded_perform
    (List.forall_mem_singleton.2 (show Task.parse.KeepsLimit from trivial)) fedBounded
  obtain ⟨_, lastBounded⟩ := always (.parse, last) (by simp [listed])
  exact starving_of_parse lastBounded parsed

end Tasks

/-- Whatever has happened to an endpoint while its limit stayed the same: it waits for no fragment
that is empty or reaches the limit, every step of parsing that goes on takes octets away, and when a
call returns that handed octets to it, it is starving. Then it holds no complete fragment, and so no
more octets than a marker or the longest fragment that it waits for leaves missing. -/
theorem starves_between_calls {number : Nat} {limit : Int} {handlers : Handlers}
    {fresh : Endpoint} (made : create number (.integer limit) handlers = .ok fresh)
    (fixed : handlers.KeepLimit)
    {calls : List Action} (keeps : ∀ call ∈ calls, call.KeepsLimit) {call : Action}
    (feeds : call.Feeds) :
    let current := (serve calls fresh).endpoint
    let outcome := (perform [call]).run current
    (outcome.result = .ok () →
      outcome.state.assembler.Starving limit ∧
        (outcome.state.assembler.buffer.length : Int) ≤ max 3 (limit - 2) ∧
        (front limit outcome.state.assembler.pending).isFragment = false) ∧
    ∀ entry ∈ (serve calls fresh).performed ++ performed [.act call] current,
      entry.2.assembler.WellFormed limit ∧
        ∀ tasks, entry.1 = .parse → (Task.parse.perform.run entry.2).result = .ok tasks →
          .parse ∈ tasks →
          ∃ removed, removed ≠ [] ∧
            entry.2.assembler.buffer =
              removed ++ (Task.parse.perform.run entry.2).state.assembler.buffer := by
  intro current outcome
  obtain ⟨bound, same, _, rfl⟩ := eq_of_create made
  cases same
  have initially : Bounded limit
      ⟨number, true, .integer limit, .empty, .unconnected, none, 0, handlers⟩ :=
    ⟨rfl, rfl, trivial, fixed⟩
  obtain ⟨(bounded : current.Bounded limit), before⟩ :=
    serve_invariant bounded_perform keeps initially
  have feeding : ∀ task ∈ [Task.act call], task.KeepsLimit :=
    List.forall_mem_singleton.2 (Action.KeepsLimit.of_feeds feeds)
  obtain ⟨(later : outcome.state.Bounded limit), during⟩ :=
    run_invariant bounded_perform feeding bounded
  constructor
  · intro returned
    have starving : outcome.state.assembler.Starving limit :=
      starving_of_returned bounded feeds returned
    exact ⟨starving, starving.length_buffer_le, starving.blocked later.wellFormed⟩
  · intro entry among
    have entryBounded : entry.2.Bounded limit := by
      rcases List.mem_append.1 among with earlier | now
      · exact (before entry earlier).2
      · exact (during entry now).2
    exact ⟨entryBounded.wellFormed, fun tasks _ went again =>
      exists_removed_of_parse entryBounded went again⟩

/-- A callback feeds the endpoint and has its close fail, another one is interrupted, a marker is
refused, and the connection is lost and made again: then the endpoint waits for a fragment. -/
theorem starves_between_calls_of_hostile_peer :
    let interruption : Fault := .reported .interruption []
    let handlers : Handlers :=
      ⟨some [[.act (.receive [0, 0, 0]), .act .close], [.act (.raise interruption)]],
        some [[.raise .notConnected]], some [[.receive [0x80]]]⟩
    let fresh : Endpoint :=
      ⟨1, true, .integer 4, .empty, .unconnected, none, 0, handlers⟩
    let connection : Connection :=
      ⟨.absent, .absent, ⟨[0, 0, 0, 0, 0], rfl⟩, [], [some .notConnected]⟩
    let calls : List Action :=
      [.connect connection, .receive [0x80, 0, 0, 1, 1],
        .receive [1, 5, 0x80, 0, 0, 1, 6, 0x80, 0, 0], .receive [0], .lose none,
        .connect connection]
    let current := (serve calls fresh).endpoint
    let outcome := (perform [.receive [0, 0, 3, 7, 8]]).run current
    create 1 (.integer 4) handlers = .ok fresh ∧ handlers.KeepLimit ∧
      (serve calls fresh).results =
        [.ok (), .ok (), .error interruption, .ok (), .ok (), .ok ()] ∧
      outcome.result = .ok () ∧ outcome.state.assembler.buffer = [7, 8] ∧
      outcome.state.assembler.Starving 4 ∧
      (front 4 outcome.state.assembler.pending).isFragment = false := by
  intro interruption handlers fresh connection calls current outcome
  have fixed : handlers.KeepLimit := by
    constructor <;> simp [handlers, Reaction.toAction, Action.KeepsLimit]
  have keeps : ∀ call ∈ calls, call.KeepsLimit := by simp [calls, Action.KeepsLimit]
  have made : create 1 (.integer 4) handlers = .ok fresh := rfl
  have returned : outcome.result = .ok () := by decide +kernel
  obtain ⟨returns, _⟩ := starves_between_calls made fixed keeps
    (show (Action.receive [0, 0, 3, 7, 8]).Feeds from trivial)
  obtain ⟨starving, _, blocked⟩ := returns returned
  exact ⟨made, fixed, by decide +kernel, returned, by decide +kernel, starving, blocked⟩

end Endpoint

end RecordMarking
