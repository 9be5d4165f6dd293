import RecordMarking.Proofs.Partition
import RecordMarking.Proofs.Endpoint.Delivery
import RecordMarking.Proofs.Endpoint.Rejection

/-!
# What an endpoint holds between its calls

A call that returns has done with its octets all that can be done with them, as long as the
callback for records stands aside, that is, leaves the octets, the limit and the connection to
others: `settle_of_returned` says so of one call, and `settleAll_of_returned` of any number.

Hence the assembler of an endpoint that has refused no marker is a function of the octets that it
has received. `state_of_received` says which one, and what was delivered until then.
-/

namespace RecordMarking

/-- An action that leaves the octets of an endpoint, its limit and its connection to others. It may
fail in any way. -/
def Action.StandsAside : Action → Prop
  | .send _ | .close | .raise _ => True
  | .receive _ | .receiveNumbers _ | .connect _ | .lose _ | .setLimit _ => False

/-- A task that leaves arriving octets, the limit and the connection to others. -/
def Task.StandsAside : Task → Prop
  | .act action => action.StandsAside
  | .parse | .endCallback _ => True
  | .dismiss => False

theorem keepsConnection_of_standsAside {task : Task} (aside : task.StandsAside) :
    task.KeepsConnection := by
  cases task with
  | parse | endCallback => trivial
  | dismiss => exact aside.elim
  | act action =>
    cases action with
    | send | close | raise => trivial
    | receive | receiveNumbers | connect | lose | setLimit => exact aside.elim

theorem arriving_of_standsAside {task : Task} (aside : task.StandsAside) : task.arriving = [] := by
  cases task with
  | parse | endCallback | dismiss => rfl
  | act action =>
    cases action with
    | send | close | raise => rfl
    | receive | receiveNumbers | connect | lose | setLimit => exact aside.elim

/-- What is found on the way to another assembler, and then by it, is found altogether. -/
theorem Assembler.Accounts.trans {limit : Int} {start middle next : Assembler} {octets : Octets}
    {found later : List Finding} (first : Accounts limit start octets found middle)
    (second : Accounts limit middle [] later next) :
    Accounts limit start octets (found ++ later) next := by
  rw [Accounts, receive_nil] at second
  rw [Accounts, first, second, List.append_assoc]

namespace Endpoint

/-- An endpoint that delimits up to a limit and listens with a callback that stands aside. -/
structure Undisturbed (limit : Int) (endpoint : Endpoint) : Prop where
  delimits : endpoint.delimiting = true
  limited : endpoint.limit = .integer limit
  listens : endpoint.handlers.onRecord.isSome
  aside : ∀ calls ∈ endpoint.handlers.onRecord, ∀ call ∈ calls, ∀ reaction ∈ call,
    ∀ record, (Reaction.toAction record reaction).StandsAside

section Undisturbed

variable {limit : Int} {endpoint : Endpoint}

theorem Undisturbed.attentive (undisturbed : endpoint.Undisturbed limit) :
    endpoint.Attentive limit := by
  obtain ⟨delimits, limited, listens, aside⟩ := undisturbed
  refine ⟨delimits, limited, listens, ?_⟩
  intro calls listed call among reaction reacting record
  exact @keepsConnection_of_standsAside (.act (Reaction.toAction record reaction))
    (aside calls listed call among reaction reacting record)

theorem undisturbed_progressed (undisturbed : endpoint.Undisturbed limit)
    (records writes closes : Nat) (assembler : Assembler) :
    (endpoint.progressed records writes closes assembler).Undisturbed limit := by
  obtain ⟨delimits, limited, listens, aside⟩ := undisturbed
  refine ⟨delimits, limited, by simpa [progressed] using listens, ?_⟩
  intro later listed call among
  obtain ⟨calls, before, rfl⟩ := Option.map_eq_some_iff.1 listed
  exact aside calls before call (List.mem_of_mem_drop among)

theorem standsAside_of_parse (undisturbed : endpoint.Undisturbed limit) {tasks : List Task}
    (done : (Task.parse.perform.run endpoint).result = .ok tasks) :
    ∀ task ∈ tasks, task.StandsAside :=
  (@progress_of_parse endpoint Task.StandsAside undisturbed.aside trivial trivial).2 tasks done

/-- What a task that stands aside leaves to be done stands aside again. -/
theorem standsAside_of_perform (undisturbed : endpoint.Undisturbed limit) {task : Task}
    (aside : task.StandsAside) {tasks : List Task}
    (done : (task.perform.run endpoint).result = .ok tasks) :
    ∀ other ∈ tasks, other.StandsAside := by
  cases task with
  | parse => exact standsAside_of_parse undisturbed done
  | endCallback callback => exact @forall_mem_of_nothing (.ok ()) tasks done Task.StandsAside
  | dismiss => exact aside.elim
  | act action =>
    cases action with
    | receive | receiveNumbers | connect | lose | setLimit => exact aside.elim
    | raise fault => exact @forall_mem_of_nothing (.error fault) tasks done Task.StandsAside
    | close =>
      have ran : (Task.act .close).perform.run endpoint = _ :=
        run_then_nothing (run_close endpoint)
      rw [ran] at done
      exact forall_mem_of_nothing done Task.StandsAside
    | send data =>
      obtain ⟨result, trace, writes, ran, -⟩ :=
        run_take_send undisturbed.delimits undisturbed.limited data
      rw [Task.perform, ran] at done
      exact forall_mem_of_nothing done Task.StandsAside

/-- What holds of an endpoint when tasks that stand aside have been performed on it since it had a
certain assembler: it has found what is not still to be found in the octets of that assembler. -/
structure Pursues (limit : Int) (start : Assembler) (history : List (Task × Endpoint))
    (endpoint : Endpoint) : Prop where
  undisturbed : endpoint.Undisturbed limit
  wellFormed : endpoint.assembler.WellFormed limit
  accounts : start.Accounts limit [] (found history) endpoint.assembler

/-- Every task that stands aside adds to what was found. -/
theorem pursues_perform {start : Assembler} (history : List (Task × Endpoint)) (task : Task)
    (endpoint : Endpoint) (aside : task.StandsAside)
    (pursues : Pursues limit start history endpoint) :
    Maintains Task.StandsAside (Pursues limit start (history ++ [(task, endpoint)]))
      (task.perform.run endpoint) := by
  obtain ⟨undisturbed, wellFormed, accounts⟩ := pursues
  obtain ⟨⟨records, writes, closes, assembler, left⟩, nextWellFormed, -, handled⟩ :=
    handles_perform undisturbed.attentive wellFormed (keepsConnection_of_standsAside aside)
  refine ⟨⟨?_, nextWellFormed, ?_⟩, fun tasks done => standsAside_of_perform undisturbed aside done⟩
  · rw [left]
    exact undisturbed_progressed undisturbed records writes closes assembler
  · rw [arriving_of_standsAside aside] at handled
    rw [found_concat]
    exact accounts.trans handled

/-- What is found in a run is what its tasks find. -/
theorem filterMap_finding?_run (tasks : List Task) (endpoint : Endpoint) :
    (run tasks endpoint).trace.filterMap Event.finding? = found (performed tasks endpoint) := by
  rw [List.filterMap_eq_flatMap_toList, flatMap_trace_run fun _ _ => rfl]
  rfl

/-- A call that returns has found in its octets, behind those that wait, what the assembler comes
to, and leaves what it comes to. -/
theorem settle_of_returned (undisturbed : endpoint.Undisturbed limit)
    (wellFormed : endpoint.assembler.WellFormed limit) {octets : Octets}
    (returned : ((perform [.receive octets]).run endpoint).result = .ok ()) :
    let call := (perform [.receive octets]).run endpoint
    call.state.Undisturbed limit ∧
      (endpoint.assembler.receive octets).settle limit =
        (call.trace.filterMap Event.finding?, call.state.assembler) := by
  intro call
  have ran : call = run [.parse]
      (endpoint.progressed 0 0 0 (endpoint.assembler.receive octets)) :=
    run_of_ok (run_receive undisturbed.delimits octets)
  rw [show (perform [.receive octets]).run endpoint = call from rfl, ran] at returned
  rw [ran]
  generalize fed : endpoint.progressed 0 0 0 (endpoint.assembler.receive octets) = start at *
  have received : start.assembler = endpoint.assembler.receive octets := by rw [← fed]; rfl
  have initially : Pursues limit start.assembler [] start := by
    refine ⟨?_, ?_, Assembler.accounts_self limit start.assembler⟩
    · rw [← fed]
      exact undisturbed_progressed undisturbed 0 0 0 _
    · rw [received]
      exact wellFormed
  obtain ⟨lastly, always⟩ := run_history pursues_perform
    (List.forall_mem_singleton.2 (show Task.parse.StandsAside from trivial)) initially
  obtain ⟨before, last, trace, listed, parsed⟩ := exists_last_parse rfl returned
  have current := (always before (.parse, last) [] listed).2
  have settled := settled_of_parse current.undisturbed.limited current.wellFormed parsed
  refine ⟨lastly.undisturbed, ?_⟩
  have accounts := lastly.accounts
  rw [Assembler.Accounts, Assembler.receive_nil, settled, List.append_nil, List.nil_append]
    at accounts
  rw [← received, accounts, filterMap_finding?_run]

/-- Calls that return have found slice by slice what the assembler comes to, and leave what it
comes to. -/
theorem settleAll_of_returned (undisturbed : endpoint.Undisturbed limit)
    (wellFormed : endpoint.assembler.WellFormed limit) {slices : List Octets}
    (returned : ∀ result ∈ (serve (slices.map .receive) endpoint).results, result = .ok ()) :
    endpoint.assembler.settleAll limit slices =
      (endpoint.findings slices, (serve (slices.map .receive) endpoint).endpoint.assembler) := by
  induction slices generalizing endpoint with
  | nil => rfl
  | cons slice later inductionHypothesis =>
    obtain ⟨first, others⟩ := List.forall_mem_cons.1 returned
    obtain ⟨stays, settled⟩ := settle_of_returned undisturbed wellFormed first
    have nextWellFormed := Assembler.wellFormed_settle limit (endpoint.assembler.receive slice)
    rw [settled] at nextWellFormed
    have rest := inductionHypothesis stays nextWellFormed others
    rw [Assembler.settleAll, settled]
    simp only [rest, findings, List.map_cons, serve, List.filterMap_append]

/-- Calls that return and refuse no marker have found what the assembler comes to with all their
octets together, and leave what it comes to with them. -/
theorem settle_flatten_of_returned (undisturbed : endpoint.Undisturbed limit)
    (fresh : endpoint.assembler = .empty) {slices : List Octets}
    (returned : ∀ result ∈ (serve (slices.map .receive) endpoint).results, result = .ok ())
    (unrejected : Finding.reasons (endpoint.findings slices) = []) :
    (Assembler.empty.receive slices.flatten).refusal? limit = none ∧
      (Assembler.empty.receive slices.flatten).settle limit =
        (endpoint.findings slices, (serve (slices.map .receive) endpoint).endpoint.assembler) := by
  have settled := Assembler.settle_empty limit
  have all := settleAll_of_returned undisturbed (Assembler.wellFormed_of_eq_empty fresh) returned
  rw [fresh] at all
  have kept := Assembler.toList_refusal?_flatten settled slices
  rw [all, unrejected, List.take_nil, Option.toList_eq_nil_iff] at kept
  exact ⟨kept, by rw [← Assembler.settleAll_of_no_refusal settled kept, all]⟩

/-- The records among the findings of a trace are those that were delivered. -/
theorem records_filterMap_finding? (trace : List Event) :
    Finding.records (trace.filterMap Event.finding?) = trace.filterMap Event.delivered? := by
  induction trace with
  | nil => rfl
  | cons event later inductionHypothesis =>
    cases event with
    | notice notice => cases notice <;> exact inductionHypothesis
    | record identity delivered => exact congrArg (List.cons delivered) inductionHypothesis
    | _ => exact inductionHypothesis

/-- As long as no marker is refused, whatever the callback for records does that stands aside, what
was delivered and what the assembler holds is what the octets leave that were received until then:
the records of the complete fragments in them, the fragments of the record that has begun, and the
rest, which waits. The octets divide in one way only, so that any other slicing of them leads to
the same. -/
theorem state_of_received (undisturbed : endpoint.Undisturbed limit)
    (fresh : endpoint.assembler = .empty) {slices : List Octets}
    (returned : ∀ result ∈ (serve (slices.map .receive) endpoint).results, result = .ok ())
    (unrejected : Finding.reasons (endpoint.findings slices) = []) :
    let service := serve (slices.map .receive) endpoint
    (∃ groups unfinished rest,
      Assembler.Retains slices.flatten groups unfinished rest
          (service.trace.filterMap Event.delivered?) service.endpoint.assembler ∧
        ∀ fragments other, Divides slices.flatten fragments other →
          fragments = groups.flatten ++ unfinished ∧ other = rest) ∧
      ∀ (again : Endpoint) (others : List Octets), again.Undisturbed limit →
        again.assembler = .empty → others.flatten = slices.flatten →
        (∀ result ∈ (serve (others.map .receive) again).results, result = .ok ()) →
          let second := serve (others.map .receive) again
          second.endpoint.assembler = service.endpoint.assembler ∧
            second.trace.filterMap Event.delivered? =
              service.trace.filterMap Event.delivered? := by
  intro service
  obtain ⟨kept, settled⟩ := settle_flatten_of_returned undisturbed fresh returned unrejected
  constructor
  · obtain ⟨groups, unfinished, rest, retains⟩ := Assembler.exists_retains kept
    rw [settled, findings, records_filterMap_finding?] at retains
    refine ⟨groups, unfinished, rest, retains, ?_⟩
    intro fragments other divides
    exact divides_unique divides retains.divides
  · intro again others undisturbedAgain freshAgain alike returnedAgain second
    have all := settleAll_of_returned undisturbedAgain
      (Assembler.wellFormed_of_eq_empty freshAgain) returnedAgain
    rw [freshAgain, Assembler.settleAll_of_no_refusal (Assembler.settle_empty limit)
      (alike ▸ kept), alike, settled] at all
    obtain ⟨found, left⟩ := Prod.mk.inj all
    refine ⟨left.symm, ?_⟩
    have delivered := congrArg Finding.records found
    simp only [findings, records_filterMap_finding?] at delivered
    exact delivered.symm

/-- The callback fails when it is handed the first record, in a run that ends within the last
fragment of the second one. A marker is cut by the slices, and one of them is empty. -/
theorem state_of_received_within_fragment :
    let reactions : List (List Reaction) := [[.act (.raise .notConnected)]]
    let endpoint : Endpoint :=
      ⟨1, true, .integer 4, .empty, .unconnected, none, 0, ⟨some reactions, none, none⟩⟩
    let slices : List Octets :=
      [[0x80, 0], [], [0, 1, 0x41, 0, 0, 0, 2, 0x42, 0x43, 0x80, 0, 0, 3, 0x44]]
    let octetByOctet : List Octets := slices.flatten.map fun octet => [octet]
    let service := serve (slices.map .receive) endpoint
    let held : Assembler := ⟨[0x44], [0x42, 0x43], .awaitingFragment ⟨3, true⟩⟩
    create 1 (.integer 4) endpoint.handlers = .ok endpoint ∧
      service.endpoint.assembler = held ∧
      (∃ groups unfinished rest,
        Assembler.Retains slices.flatten groups unfinished rest [[0x41]] held) ∧
      (serve (octetByOctet.map .receive) endpoint).endpoint.assembler = held := by
  intro reactions endpoint slices octetByOctet service held
  have undisturbed : endpoint.Undisturbed 4 := by
    refine ⟨rfl, rfl, rfl, ?_⟩
    simp [endpoint, reactions, Reaction.toAction, Action.StandsAside]
  have returned : ∀ result ∈ service.results, result = .ok () := by decide +kernel
  have unrejected : Finding.reasons (endpoint.findings slices) = [] := by decide +kernel
  have delivered : service.trace.filterMap Event.delivered? = [[0x41]] := by decide +kernel
  have holds : service.endpoint.assembler = held := by decide +kernel
  obtain ⟨⟨groups, unfinished, rest, retains, -⟩, alike⟩ :=
    state_of_received undisturbed rfl returned unrejected
  obtain ⟨same, -⟩ := alike endpoint octetByOctet undisturbed rfl rfl (by decide +kernel)
  exact ⟨rfl, holds, ⟨groups, unfinished, rest, delivered ▸ holds ▸ retains⟩, same.trans holds⟩

end Undisturbed

end Endpoint

end RecordMarking
