import Mathlib.Data.List.Basic
import RecordMarking.Proofs.Endpoint.Transfer

/-!
# Every record is delivered once and in order

The callback for records may feed the endpoint that calls it, and it may fail in a way that ends
everything that the endpoint was about to do. Neither loses a record, nor repeats one, because the
assembler is behind the record already when the callback is called.

`handles_perform` says of one task that what it finds and what the assembler comes to afterwards
are what the assembler came to before, with the octets that arrive by the task. `delivering_perform`
adds that up over all tasks performed so far. A run that parses and returns performs a last `parse`
that leaves nothing to be done (`exists_last_parse`), so that nothing more is to be found then:
`delivers_exactly_once` puts both together.
-/

namespace RecordMarking

/-- The octets that a task lets arrive. Numbers arrive only if all of them are octets. -/
def Task.arriving : Task → Octets
  | .act (.receive octets) => octets
  | .act (.receiveNumbers numbers) =>
    match Endpoint.octetsOfNumbers numbers with
    | .ok octets => octets
    | .error _ => []
  | _ => []

/-- An action that hands octets to an endpoint. -/
def Action.Feeds : Action → Prop
  | .receive _ | .receiveNumbers _ => True
  | .send _ | .connect _ | .lose _ | .close | .setLimit _ | .raise _ => False

/-- The records that are complete in octets. -/
def recordsIn (limit : Int) (octets : Octets) : List Octets :=
  (regroup [] (split limit octets).1).1

/-- Octets that arrive later only add to the records that were complete before. -/
theorem recordsIn_prefix_append (limit : Int) (octets more : Octets) :
    recordsIn limit octets <+: recordsIn limit (octets ++ more) := by
  rw [recordsIn, recordsIn, split_append, regroup_append]
  exact List.prefix_append _ _

namespace Assembler

variable {limit : Int} {start middle next : Assembler} {octets more : Octets}
  {found later : List Finding}

/-- With octets that arrive behind those that it holds, an assembler comes to what was found in them
and to what another one still comes to. -/
def Accounts (limit : Int) (start : Assembler) (octets : Octets) (found : List Finding)
    (next : Assembler) : Prop :=
  settle limit (start.receive octets) = (found ++ (settle limit next).1, (settle limit next).2)

/-- An assembler to which nothing happens accounts for it. -/
theorem accounts_self (limit : Int) (assembler : Assembler) :
    Accounts limit assembler [] [] assembler := by
  rw [Accounts, receive_nil, List.nil_append]

/-- Where no marker is refused, none is refused in what arrived first. -/
theorem refusal?_of_append (kept : (start.receive (octets ++ more)).refusal? limit = none) :
    (start.receive octets).refusal? limit = none := by
  match refused : (start.receive octets).refusal? limit with
  | none => rfl
  | some rejection =>
    rw [(settle_receive_append_of_refusal refused more).1] at kept
    simp at kept

/-- What is left to be refused after octets is refused in them. -/
theorem Accounts.refusal?_eq_none (accounts : Accounts limit start octets found next)
    (kept : (start.receive octets).refusal? limit = none) : next.refusal? limit = none := by
  have reasons := reasons_settle limit (start.receive octets)
  rw [accounts, kept, reasons_append, reasons_settle] at reasons
  exact Option.toList_eq_nil_iff.1 (List.append_eq_nil_iff.1 reasons).2

/-- As long as no marker is refused, what arrives in two parts is accounted for part by part. -/
theorem Accounts.append (first : Accounts limit start octets found middle)
    (second : Accounts limit middle more later next)
    (kept : (start.receive (octets ++ more)).refusal? limit = none) :
    Accounts limit start (octets ++ more) (found ++ later) next := by
  have keptFirst := refusal?_of_append kept
  have keptMiddle : (middle.receive []).refusal? limit = none := by
    rw [receive_nil, first.refusal?_eq_none keptFirst]
  have behind := settle_receive_append keptMiddle more
  rw [List.nil_append, receive_nil, second] at behind
  obtain ⟨findings, left⟩ := Prod.mk.inj behind
  rw [Accounts, settle_receive_append keptFirst, first, List.append_assoc, List.append_assoc,
    ← findings, ← left]

end Assembler

namespace Endpoint

/-- The octets that tasks let arrive. -/
def arrived (entries : List (Task × Endpoint)) : Octets :=
  entries.flatMap fun entry => entry.1.arriving

/-- What tasks find in received octets. -/
def found (entries : List (Task × Endpoint)) : List Finding :=
  entries.flatMap (observed fun event => event.finding?.toList)

/-- The records that tasks hand to the callback for records. -/
def delivered (entries : List (Task × Endpoint)) : List Octets :=
  entries.flatMap (observed fun event => event.delivered?.toList)

@[simp] theorem arrived_append (earlier later : List (Task × Endpoint)) :
    arrived (earlier ++ later) = arrived earlier ++ arrived later :=
  List.flatMap_append

theorem found_concat (history : List (Task × Endpoint)) (task : Task) (endpoint : Endpoint) :
    found (history ++ [(task, endpoint)]) =
      found history ++ (task.perform.run endpoint).trace.filterMap Event.finding? := by
  simp [found, observed, List.filterMap_eq_flatMap_toList]

/-- The records that are delivered are those that are found. -/
theorem records_found (entries : List (Task × Endpoint)) :
    Finding.records (found entries) = delivered entries := by
  have event (event : Event) :
      Finding.records event.finding?.toList = event.delivered?.toList := by
    cases event with
    | notice notice => cases notice <;> rfl
    | _ => rfl
  have entry (entry : Task × Endpoint) :
      Finding.records (observed (fun event => event.finding?.toList) entry) =
        observed (fun event => event.delivered?.toList) entry := by
    simp only [observed, Finding.records, List.filterMap_flatMap] at event ⊢
    simp only [event]
  simp only [found, delivered, Finding.records, List.filterMap_flatMap] at entry ⊢
  simp only [entry]

/-- An endpoint that delimits up to a limit and listens with a callback that keeps the
connection. -/
structure Attentive (limit : Int) (endpoint : Endpoint) : Prop where
  delimits : endpoint.delimiting = true
  limited : endpoint.limit = .integer limit
  listens : endpoint.handlers.onRecord.isSome
  keeps : ∀ calls ∈ endpoint.handlers.onRecord, ∀ call ∈ calls, ∀ reaction ∈ call,
    ∀ record, (Reaction.toAction record reaction).KeepsConnection

section Tasks

variable {limit : Int} {endpoint : Endpoint}

theorem attentive_progressed (attentive : endpoint.Attentive limit)
    (records writes closes : Nat) (assembler : Assembler) :
    (endpoint.progressed records writes closes assembler).Attentive limit := by
  obtain ⟨delimits, limited, listens, keeps⟩ := attentive
  refine ⟨delimits, limited, by simpa [progressed] using listens, ?_⟩
  intro later listed call among
  obtain ⟨calls, before, rfl⟩ := Option.map_eq_some_iff.1 listed
  exact keeps calls before call (List.mem_of_mem_drop among)

/-- An outcome that makes nothing but progress, goes on with tasks that keep the connection, and
accounts for the octets that arrive. -/
structure Handles (limit : Int) (arriving : Octets) (endpoint : Endpoint)
    (outcome : Outcome Endpoint (List Task)) : Prop where
  state_eq : ∃ records writes closes assembler,
    outcome.state = endpoint.progressed records writes closes assembler
  wellFormed : outcome.state.assembler.WellFormed limit
  keeps : ∀ tasks, outcome.result = .ok tasks → ∀ task ∈ tasks, task.KeepsConnection
  accounts : endpoint.assembler.Accounts limit arriving
    (outcome.trace.filterMap Event.finding?) outcome.state.assembler

/-- A step that leaves the assembler alone and nothing to be done handles that nothing arrives. -/
theorem handles_of_run {activity : Activity Endpoint (List Task)} {result : Except Fault Unit}
    {trace : List Event} {writes closes : Nat}
    (wellFormed : endpoint.assembler.WellFormed limit)
    (ran : activity.run endpoint =
      ⟨result.map fun _ => [], trace, endpoint.progressed 0 writes closes endpoint.assembler⟩)
    (nothing : trace.filterMap Event.finding? = []) :
    Handles limit [] endpoint (activity.run endpoint) := by
  rw [ran]
  refine ⟨⟨0, writes, closes, _, rfl⟩, wellFormed, ?_, ?_⟩
  · exact fun tasks done => forall_mem_of_nothing done Task.KeepsConnection
  · rw [nothing]
    exact Assembler.accounts_self limit endpoint.assembler

theorem handles_parse (attentive : endpoint.Attentive limit)
    (wellFormed : endpoint.assembler.WellFormed limit) :
    Handles limit [] endpoint (Task.parse.perform.run endpoint) := by
  have settles := Assembler.settles_of_advance wellFormed
  rw [← attentive.limited] at settles
  match step : endpoint.assembler.advance endpoint.limit with
  | .starved =>
    rw [run_parse_of_starved step]
    refine ⟨⟨0, 0, 0, _, (progressed_self endpoint).symm⟩, wellFormed, by simp, ?_⟩
    exact Assembler.accounts_self limit endpoint.assembler
  | .rejected reason =>
    rw [step] at settles
    have settled : endpoint.assembler.settle limit = ([.rejection reason], .empty) := settles
    rw [run_parse_of_rejected step]
    refine ⟨⟨0, 0, 1, _, rfl⟩, trivial, ?_, ?_⟩
    · exact fun tasks done => forall_mem_of_nothing done Task.KeepsConnection
    · rw [finding?_refusalEvents, Assembler.Accounts, Assembler.receive_nil, settled]
      simp
  | .failed fault =>
    rw [step] at settles
    exact settles.elim
  | .advanced next =>
    rw [step] at settles
    obtain ⟨same, nextWellFormed⟩ := settles
    rw [run_parse_of_advanced step]
    refine ⟨⟨0, 0, 0, _, rfl⟩, nextWellFormed, by simp [Task.KeepsConnection], ?_⟩
    rw [Assembler.Accounts, Assembler.receive_nil, same]
    rfl
  | .completed record next =>
    rw [step] at settles
    obtain ⟨same, nextWellFormed⟩ := settles
    rw [run_parse_of_completed step]
    refine ⟨⟨1, 0, 0, _, rfl⟩, nextWellFormed, ?_, ?_⟩
    · rintro tasks ⟨⟩
      exact forall_mem_recordTasks attentive.keeps trivial trivial record
    · obtain ⟨calls, listens⟩ := Option.isSome_iff_exists.1 attentive.listens
      rw [Assembler.Accounts, Assembler.receive_nil, same, listens]
      rfl

theorem handles_receive (attentive : endpoint.Attentive limit)
    (wellFormed : endpoint.assembler.WellFormed limit) (octets : Octets) :
    Handles limit octets endpoint ((Task.act (.receive octets)).perform.run endpoint) := by
  rw [run_receive attentive.delimits]
  exact ⟨⟨0, 0, 0, _, rfl⟩, wellFormed, by simp [Task.KeepsConnection], rfl⟩

/-- A task that keeps the connection accounts for the octets that arrive by it. -/
theorem handles_perform (attentive : endpoint.Attentive limit)
    (wellFormed : endpoint.assembler.WellFormed limit) {task : Task}
    (keeps : task.KeepsConnection) :
    Handles limit task.arriving endpoint (task.perform.run endpoint) := by
  have untouched {result : Except Fault Unit} :
      Handles limit [] endpoint ⟨result.map fun _ => [], [], endpoint⟩ := by
    refine ⟨⟨0, 0, 0, _, (progressed_self endpoint).symm⟩, wellFormed, ?_,
      Assembler.accounts_self limit endpoint.assembler⟩
    exact fun tasks done => forall_mem_of_nothing done Task.KeepsConnection
  cases task with
  | parse => exact handles_parse attentive wellFormed
  | endCallback callback => exact @untouched (.ok ())
  | dismiss => exact keeps.elim
  | act action =>
    cases action with
    | connect | lose | setLimit => exact keeps.elim
    | raise fault => exact @untouched (.error fault)
    | receive octets => exact handles_receive attentive wellFormed octets
    | receiveNumbers numbers =>
      rw [run_receiveNumbers attentive.delimits, Task.arriving]
      match octetsOfNumbers numbers with
      | .error fault => exact @untouched (.error fault)
      | .ok octets => exact handles_receive attentive wellFormed octets
    | close =>
      exact handles_of_run wellFormed (run_then_nothing (run_close endpoint))
        (finding?_closeEvents endpoint)
    | send data =>
      obtain ⟨result, trace, writes, ran, silent, _⟩ :=
        run_take_send attentive.delimits attentive.limited data
      exact handles_of_run wellFormed ran silent

/-- What holds of an endpoint when certain tasks have been performed on it, since it was fresh: it
has found what is not still to be found in the octets that arrived. -/
structure Delivering (limit : Int) (history : List (Task × Endpoint)) (endpoint : Endpoint) :
    Prop where
  attentive : endpoint.Attentive limit
  wellFormed : endpoint.assembler.WellFormed limit
  accounts : (Assembler.empty.receive (arrived history)).refusal? limit = none →
    Assembler.empty.Accounts limit (arrived history) (found history) endpoint.assembler

theorem delivering_of_fresh (attentive : endpoint.Attentive limit)
    (fresh : endpoint.assembler = .empty) : Delivering limit [] endpoint := by
  refine ⟨attentive, Assembler.wellFormed_of_eq_empty fresh, fun _ => ?_⟩
  rw [fresh]
  exact Assembler.accounts_self limit .empty

/-- Every task that keeps the connection adds to what was delivered. -/
theorem delivering_perform (history : List (Task × Endpoint)) (task : Task) (endpoint : Endpoint)
    (keeps : task.KeepsConnection) (delivering : Delivering limit history endpoint) :
    Maintains Task.KeepsConnection (Delivering limit (history ++ [(task, endpoint)]))
      (task.perform.run endpoint) := by
  obtain ⟨attentive, wellFormed, accounts⟩ := delivering
  obtain ⟨⟨records, writes, closes, assembler, left⟩, nextWellFormed, kept, handled⟩ :=
    handles_perform attentive wellFormed keeps
  refine ⟨⟨?_, nextWellFormed, fun unrefused => ?_⟩, kept⟩
  · rw [left]
    exact attentive_progressed attentive records writes closes assembler
  · have bytes : arrived (history ++ [(task, endpoint)]) = arrived history ++ task.arriving := by
      simp [arrived]
    rw [bytes] at unrefused ⊢
    rw [found_concat]
    exact (accounts (Assembler.refusal?_of_append unrefused)).append handled unrefused

/-- What was delivered is a beginning of the records that arrived. -/
theorem Delivering.delivered_prefix {history : List (Task × Endpoint)}
    (delivering : Delivering limit history endpoint)
    (unrefused : (Assembler.empty.receive (arrived history)).refusal? limit = none) :
    delivered history <+: recordsIn limit (arrived history) := by
  have records := Assembler.records_settle limit (Assembler.empty.receive (arrived history))
  rw [delivering.accounts unrefused, records_append, records_found] at records
  exact ⟨_, records⟩

/-- If nothing is left to be found, all records that arrived were delivered. -/
theorem Delivering.delivered_eq {history : List (Task × Endpoint)}
    (delivering : Delivering limit history endpoint)
    (unrefused : (Assembler.empty.receive (arrived history)).refusal? limit = none)
    (settled : endpoint.assembler.settle limit = ([], endpoint.assembler)) :
    delivered history = recordsIn limit (arrived history) := by
  have records := Assembler.records_settle limit (Assembler.empty.receive (arrived history))
  rw [delivering.accounts unrefused, settled, List.append_nil, records_found] at records
  exact records

end Tasks

section LastParse

variable {limit : Int} {endpoint next : Endpoint} {trace : List Event}

/-- Parsing that succeeds goes on with parsing in the end, unless octets are missing or it has
dropped them all. -/
theorem parse_cases {more : List Task}
    (done : Task.parse.perform.run endpoint = ⟨.ok more, trace, next⟩) :
    (∃ above, more = above ++ [.parse]) ∨
      more = [] ∧ (endpoint.assembler.advance endpoint.limit = .starved ∧ next = endpoint ∨
        next.assembler = .empty) := by
  match step : endpoint.assembler.advance endpoint.limit with
  | .starved =>
    rw [run_parse_of_starved step] at done
    cases done
    exact .inr ⟨rfl, .inl ⟨rfl, rfl⟩⟩
  | .rejected reason =>
    rw [run_parse_of_rejected step] at done
    cases closed : endpoint.closeResult with
    | error fault => simp [closed, Except.map] at done
    | ok value =>
      rw [closed] at done
      cases done
      exact .inr ⟨rfl, .inr rfl⟩
  | .failed fault => simp [run_parse_of_failed step] at done
  | .advanced following =>
    rw [run_parse_of_advanced step] at done
    cases done
    exact .inl ⟨[], rfl⟩
  | .completed record following =>
    rw [run_parse_of_completed step] at done
    cases done
    exact .inl ⟨_, rfl⟩

/-- Parsing that leaves nothing to be done leaves nothing to be found. -/
theorem settled_of_parse (limited : endpoint.limit = .integer limit)
    (wellFormed : endpoint.assembler.WellFormed limit)
    (done : Task.parse.perform.run endpoint = ⟨.ok [], trace, next⟩) :
    next.assembler.settle limit = ([], next.assembler) := by
  rcases parse_cases done with ⟨above, more⟩ | ⟨-, ⟨starved, rfl⟩ | dropped⟩
  · simp at more
  · have settles := Assembler.settles_of_advance wellFormed
    rwa [← limited, starved] at settles
  · rw [dropped]
    exact Assembler.settle_empty limit

/-- A run that returns, with parsing at the bottom of its stack, performs a `parse` at last that
leaves nothing to be done. -/
theorem exists_last_parse {tasks : List Task} (bottom : tasks.getLast? = some .parse)
    (returned : (run tasks endpoint).result = .ok ()) :
    ∃ before last trace, performed tasks endpoint = before ++ [(.parse, last)] ∧
      Task.parse.perform.run last = ⟨.ok [], trace, (run tasks endpoint).state⟩ := by
  fun_induction run tasks endpoint with
  | case1 endpoint => simp at bottom
  | case2 endpoint task rest more trace next done inductionHypothesis =>
    rw [performed_of_ok done]
    by_cases ended : more ++ rest = []
    · obtain ⟨rfl, rfl⟩ := List.append_eq_nil_iff.1 ended
      obtain rfl : task = .parse := by simpa using bottom
      exact ⟨[], endpoint, trace, by simp, by simpa using done⟩
    · have below : (more ++ rest).getLast? = some .parse := by
        cases rest with
        | nil =>
          obtain rfl : task = .parse := by simpa using bottom
          obtain ⟨above, rfl⟩ := (parse_cases done).resolve_right fun nothing =>
            ended (by rw [nothing.1]; rfl)
          simp
        | cons other others => simpa using bottom
      obtain ⟨before, last, trace, listed, parsed⟩ := inductionHypothesis below returned
      exact ⟨(task, endpoint) :: before, last, trace, by rw [listed]; rfl, parsed⟩
  | case3 endpoint task rest fault trace next failed escaped => simp at returned
  | case4 endpoint task rest fault trace next failed callback below contained inductionHypothesis =>
    rw [performed_of_contained failed contained]
    -- The end of the callback is not at the bottom, so the bottom is left.
    obtain ⟨above, rfl⟩ := exists_of_contain contained
    have left : below.getLast? = some .parse := by
      rw [← List.cons_append, List.getLast?_append] at bottom
      cases below with
      | nil => simp at bottom
      | cons other others => simpa using bottom
    obtain ⟨before, last, trace, listed, parsed⟩ := inductionHypothesis left returned
    exact ⟨(task, endpoint) :: before, last, trace, by rw [listed]; rfl, parsed⟩

end LastParse

section Serve

variable {limit : Int} {endpoint : Endpoint}

theorem delivering_serve {calls : List Action} (attentive : endpoint.Attentive limit)
    (fresh : endpoint.assembler = .empty) (keeps : ∀ call ∈ calls, call.KeepsConnection) :
    Delivering limit (serve calls endpoint).performed (serve calls endpoint).endpoint :=
  (serve_history delivering_perform keeps (delivering_of_fresh attentive fresh)).1

/-- At every moment there is an endpoint that has delivered as it should. -/
theorem exists_delivering {calls : List Action} (attentive : endpoint.Attentive limit)
    (fresh : endpoint.assembler = .empty) (keeps : ∀ call ∈ calls, call.KeepsConnection)
    {before after : List (Task × Endpoint)}
    (moment : (serve calls endpoint).performed = before ++ after) :
    ∃ current, Delivering limit before current := by
  cases after with
  | nil =>
    rw [List.append_nil] at moment
    exact ⟨_, moment ▸ delivering_serve attentive fresh keeps⟩
  | cons entry others =>
    have always :=
      (serve_history delivering_perform keeps (delivering_of_fresh attentive fresh)).2
    exact ⟨entry.2, (always before entry others moment).2⟩

/-- A call that hands octets to an endpoint and returns has parsed them. -/
theorem run_feeding (delimits : endpoint.delimiting = true) {call : Action} (feeds : call.Feeds)
    (returned : (run [.act call] endpoint).result = .ok ()) :
    ∃ next, (Task.act call).perform.run endpoint = ⟨.ok [.parse], [], next⟩ := by
  cases call with
  | send | connect | lose | close | setLimit | raise => exact feeds.elim
  | receive octets => exact ⟨_, run_receive delimits octets⟩
  | receiveNumbers numbers =>
    have ran := run_receiveNumbers delimits numbers
    match read : octetsOfNumbers numbers with
    | .error fault =>
      simp only [read] at ran
      have escaped : contain fault [] = none := rfl
      simp [run_of_escaped ran escaped] at returned
    | .ok octets =>
      simp only [read, run_receive delimits] at ran
      exact ⟨_, ran⟩

/-- When a call returns that hands octets to an endpoint, nothing is left to be found. -/
theorem delivering_of_returned {history : List (Task × Endpoint)} {call : Action}
    (delivering : Delivering limit history endpoint) (feeds : call.Feeds)
    (keeps : call.KeepsConnection) (returned : (run [.act call] endpoint).result = .ok ()) :
    let next := (run [.act call] endpoint).state
    Delivering limit (history ++ performed [.act call] endpoint) next ∧
      next.assembler.settle limit = ([], next.assembler) := by
  have ofKind : ∀ task ∈ [Task.act call], task.KeepsConnection :=
    List.forall_mem_singleton.2 keeps
  obtain ⟨lastly, always⟩ := run_history delivering_perform ofKind delivering
  refine ⟨lastly, ?_⟩
  obtain ⟨fed, feeding⟩ := run_feeding delivering.attentive.delimits feeds returned
  have ran : run [.act call] endpoint = run [.parse] fed := run_of_ok feeding
  rw [ran] at returned ⊢
  obtain ⟨before, last, trace, listed, parsed⟩ := exists_last_parse rfl returned
  have whole : performed [.act call] endpoint =
      ((.act call, endpoint) :: before) ++ (.parse, last) :: [] := by
    rw [performed_of_ok feeding, List.append_nil, listed]
    rfl
  have current := (always _ _ _ whole).2
  exact settled_of_parse current.attentive.limited current.wellFormed parsed

/-- As long as no marker is refused in all the octets that arrive, and whatever the callback for
records does on the connection and however it fails, an endpoint has at every moment delivered the
first of the records that are complete in the octets that arrived until then, in order and each of
them once. Whenever a call returns that handed octets to it from outside, it has delivered all of
them. -/
theorem delivers_exactly_once {calls : List Action} (attentive : endpoint.Attentive limit)
    (fresh : endpoint.assembler = .empty) (keeps : ∀ call ∈ calls, call.KeepsConnection)
    (unrefused : (Assembler.empty.receive
      (arrived (serve calls endpoint).performed)).refusal? limit = none) :
    let service := serve calls endpoint
    service.trace.filterMap Event.delivered? = delivered service.performed ∧
      (∀ before after, service.performed = before ++ after →
        delivered before <+: recordsIn limit (arrived before) ∧
          recordsIn limit (arrived before) <+: recordsIn limit (arrived service.performed)) ∧
      ∀ earlier call later, calls = earlier ++ call :: later → call.Feeds →
        ((perform [call]).run (serve earlier endpoint).endpoint).result = .ok () →
          let soFar := (serve (earlier ++ [call]) endpoint).performed
          soFar <+: service.performed ∧ delivered soFar = recordsIn limit (arrived soFar) := by
  intro service
  have unrefusedBefore {before after : List (Task × Endpoint)}
      (moment : service.performed = before ++ after) :
      (Assembler.empty.receive (arrived before)).refusal? limit = none := by
    rw [moment, arrived_append] at unrefused
    exact Assembler.refusal?_of_append unrefused
  refine ⟨?_, fun before after moment => ⟨?_, ?_⟩, ?_⟩
  · rw [List.filterMap_eq_flatMap_toList, flatMap_trace_serve fun _ _ => rfl]
    rfl
  · obtain ⟨current, delivering⟩ := exists_delivering attentive fresh keeps moment
    exact delivering.delivered_prefix (unrefusedBefore moment)
  · rw [moment, arrived_append]
    exact recordsIn_prefix_append limit _ _
  · intro earlier call later parts feeds returned soFar
    have moment : service.performed =
        soFar ++ (serve later (serve (earlier ++ [call]) endpoint).endpoint).performed := by
      simp only [service, soFar, parts, List.append_cons earlier call later, serve_append]
    have now : soFar = (serve earlier endpoint).performed ++
        performed [.act call] (serve earlier endpoint).endpoint := by
      simp only [soFar, serve_append, serve, List.append_nil]
    refine ⟨⟨_, moment.symm⟩, ?_⟩
    have keepsEarlier : ∀ other ∈ earlier, other.KeepsConnection :=
      fun other among => keeps other (by simp [parts, among])
    obtain ⟨delivering, settled⟩ := delivering_of_returned
      (delivering_serve attentive fresh keepsEarlier) feeds (keeps call (by simp [parts])) returned
    have unrefusedNow := unrefusedBefore moment
    rw [now] at unrefusedNow ⊢
    exact delivering.delivered_eq unrefusedNow settled

/-- The callback feeds the endpoint when it is handed the first record, and is interrupted when it
is handed the second one in between. That ends the call before the third record, which has arrived
by then and is delivered in the next call. -/
theorem delivers_exactly_once_interrupted :
    let interruption : Fault := .reported .interruption []
    let reactions : List (List Reaction) :=
      [[.act (.receive [0, 0, 1, 3]), .act .close], [.act (.raise interruption)],
        [.act (.raise .notConnected)], [.echo]]
    let endpoint : Endpoint :=
      ⟨1, true, .integer 4, .empty, .unconnected, none, 0, ⟨some reactions, none, none⟩⟩
    let calls : List Action :=
      [.receive [0x80, 0, 0, 1, 1, 0x80, 0, 0, 1, 2, 0x80], .receive [0x80, 0, 0, 1, 4]]
    (serve calls endpoint).results = [.error interruption, .ok ()] ∧
      delivered (serve calls endpoint).performed =
        recordsIn 4 (arrived (serve calls endpoint).performed) ∧
      (serve calls endpoint).trace.filterMap Event.delivered? = [[1], [2], [3], [4]] := by
  intro interruption reactions endpoint calls
  have attentive : endpoint.Attentive 4 := by
    refine ⟨rfl, rfl, rfl, ?_⟩
    simp [endpoint, reactions, Reaction.toAction, Action.KeepsConnection]
  have keeps : ∀ call ∈ calls, call.KeepsConnection := by simp [calls, Action.KeepsConnection]
  have unrefused : (Assembler.empty.receive
      (arrived (serve calls endpoint).performed)).refusal? 4 = none := by decide +kernel
  obtain ⟨_, _, returning⟩ := delivers_exactly_once attentive rfl keeps unrefused
  have returned := returning [_] _ [] rfl trivial (by decide +kernel)
  exact ⟨by decide +kernel, returned.2, by decide +kernel⟩

end Serve

end Endpoint

end RecordMarking
