import RecordMarking.Endpoint.Basic

/-!
# Tasks of an endpoint

While an endpoint works, it has a stack of things to do. Performing the topmost task changes
the endpoint and may put further tasks on the stack: received octets have to be parsed, a
callback has to take its actions before the endpoint goes on, and the end of a callback is
itself a task, because it is where an ordinary fault stops.

Every task has a weight, and `Task.paid_perform` says that performing a task costs more weight than
the tasks that it leaves: this is why the work of an endpoint ends, however its callbacks call
back into it.
-/

namespace RecordMarking

/-- Something an endpoint has to do. -/
inductive Task where
  | act (action : Action)
  /-- Take complete records out of the received octets. -/
  | parse
  /-- Close and forget a connection that was lost. -/
  | dismiss
  /-- A callback is done. -/
  | endCallback (callback : Callback)
deriving DecidableEq, Repr

namespace Action

/-- The weight of an action pays for parsing the octets it brings. -/
def weight : Action → Nat
  | .receive octets => 2 * octets.length + 3
  | .receiveNumbers numbers => 2 * numbers.length + 3
  | _ => 3

/-- A record is sent back at the weight of any action. -/
def reactionWeight : Reaction → Nat
  | .act action => action.weight
  | .echo | .echoReversed => 3

@[simp] theorem weight_toAction (record : Octets) (reaction : Reaction) :
    (reaction.toAction record).weight = reactionWeight reaction := by
  cases reaction <;> rfl

end Action

/-- The weight of a task. -/
def Task.weight : Task → Nat
  | .act action => action.weight
  | .parse | .dismiss | .endCallback _ => 1

/-- The weight of all items of a list together. -/
def weightOf {Item : Type} (weight : Item → Nat) : List Item → Nat
  | [] => 0
  | item :: rest => weight item + weightOf weight rest

/-- Lists weigh together what they weigh apart. -/
theorem weightOf_append {Item : Type} (weight : Item → Nat) (first second : List Item) :
    weightOf weight (first ++ second) = weightOf weight first + weightOf weight second := by
  induction first with
  | nil => simp [weightOf]
  | cons item rest inductionHypothesis =>
    simp only [List.cons_append, weightOf, inductionHypothesis]
    omega

/-- The weight of a stack of tasks. -/
def Task.totalWeight : List Task → Nat :=
  weightOf Task.weight

@[simp] theorem Task.totalWeight_nil : Task.totalWeight [] = 0 := rfl

@[simp] theorem Task.totalWeight_cons (task : Task) (tasks : List Task) :
    Task.totalWeight (task :: tasks) = task.weight + Task.totalWeight tasks := rfl

@[simp] theorem Task.totalWeight_append (first second : List Task) :
    Task.totalWeight (first ++ second) = Task.totalWeight first + Task.totalWeight second :=
  weightOf_append Task.weight first second

/-- The weight of what a callback is still going to do. Each call pays for its end. -/
def callbackWeight {Step : Type} (weight : Step → Nat) : Option (List (List Step)) → Nat
  | none => 0
  | some calls => weightOf (fun call => weightOf weight call + 1) calls

/-- The weight of what all callbacks are still going to do. -/
def Handlers.weight (handlers : Handlers) : Nat :=
  callbackWeight Action.reactionWeight handlers.onRecord +
    callbackWeight Action.weight handlers.onPeerAvailable +
    callbackWeight Action.weight handlers.onPeerUnavailable

/-- What an endpoint can still do by itself. -/
def Endpoint.weight (endpoint : Endpoint) : Nat :=
  endpoint.assembler.potential + endpoint.handlers.weight

/-- The tasks of the next call of a callback that is still going to do something. -/
def callbackTasks {Step : Type} (toAction : Step → Action) (callback : Callback) :
    List (List Step) → List Task
  | [] => []
  | call :: _ => call.map (fun step => .act (toAction step)) ++ [.endCallback callback]

namespace Endpoint

/-- Call the callback for a record, if there is one. -/
def notifyRecord (record : Octets) : Activity Endpoint (List Task) := do
  let endpoint ← .get
  match endpoint.handlers.onRecord with
  | none => pure []
  | some calls =>
    .emit (.record endpoint.caller record)
    .modify fun endpoint =>
      { endpoint with handlers := { endpoint.handlers with onRecord := some calls.tail } }
    pure (callbackTasks (Reaction.toAction record) .onRecord calls)

/-- Call the callback for the arrival of the peer, if there is one. -/
def notifyPeerAvailable : Activity Endpoint (List Task) := do
  let endpoint ← .get
  match endpoint.handlers.onPeerAvailable with
  | none => pure []
  | some calls =>
    .emit (.peerAvailable endpoint.caller)
    .modify fun endpoint =>
      { endpoint with handlers := { endpoint.handlers with onPeerAvailable := some calls.tail } }
    pure (callbackTasks id .onPeerAvailable calls)

/-- Call the callback for the departure of the peer, if there is one. -/
def notifyPeerUnavailable : Activity Endpoint (List Task) := do
  let endpoint ← .get
  match endpoint.handlers.onPeerUnavailable with
  | none => pure []
  | some calls =>
    .emit (.peerUnavailable endpoint.caller)
    .modify fun endpoint =>
      { endpoint with
        handlers := { endpoint.handlers with onPeerUnavailable := some calls.tail } }
    pure (callbackTasks id .onPeerUnavailable calls)

/-- Take in octets. An endpoint that keeps book only lets them go. -/
def receive (octets : Octets) : Activity Endpoint (List Task) := do
  let endpoint ← .get
  if endpoint.delimiting then
    setAssembler (endpoint.assembler.receive octets)
    pure [.parse]
  else pure []

/-- The octet that a value is the number of. -/
def octetOfNumber (value : Value) : Except Fault UInt8 :=
  match value.whole with
  | .error fault => .error fault
  | .ok number =>
    if 0 ≤ number ∧ number < 256 then .ok (UInt8.ofNat number.toNat)
    else .error .octetOutOfRange

/-- The octets that values are the numbers of, if all of them are. -/
def octetsOfNumbers : List Value → Except Fault Octets
  | [] => .ok []
  | value :: rest =>
    match octetOfNumber value with
    | .error fault => .error fault
    | .ok octet => (octetsOfNumbers rest).map (octet :: ·)

/-- Take in numbers in place of octets: all of them or, if one is no octet, none. -/
def receiveNumbers (numbers : List Value) : Activity Endpoint (List Task) := do
  let endpoint ← .get
  if endpoint.delimiting then
    let octets ← .conclude (octetsOfNumbers numbers)
    receive octets
  else pure []

/-- Refuse a marker: drop all received octets and the current record, and close. -/
def reject (rejection : Rejection) : Activity Endpoint Unit := do
  noteOfPeer fun peer => .rejected rejection peer.identity
  setAssembler .empty
  close

/-- Take the next step in parsing. After a rejection the parsing stops, and otherwise it goes
on, after the callback if a record is complete. -/
def parse : Activity Endpoint (List Task) := do
  let endpoint ← .get
  match endpoint.assembler.advance endpoint.limit with
  | .starved => pure []
  | .rejected rejection =>
    reject rejection
    pure []
  | .failed fault => .fail fault
  | .advanced next =>
    setAssembler next
    pure [.parse]
  | .completed record next =>
    setAssembler next
    .note (.recordReceived record.length)
    let tasks ← notifyRecord record
    pure (tasks ++ [.parse])

/-- Take one action. -/
def take : Action → Activity Endpoint (List Task)
  | .receive octets => receive octets
  | .receiveNumbers numbers => receiveNumbers numbers
  | .send data => do
    send data
    pure []
  | .connect connection => do
    adopt connection
    notifyPeerAvailable
  | .lose reason => do
    noteOfPeer fun peer => .connectionLost peer reason
    let tasks ← notifyPeerUnavailable
    pure (tasks ++ [.dismiss])
  | .close => do
    close
    pure []
  | .setLimit limit => do
    .modify fun endpoint => { endpoint with limit }
    pure []
  | .raise fault => .fail fault

end Endpoint

/-- Perform one task. The result is what has to be done next, before all else. -/
def Task.perform : Task → Activity Endpoint (List Task)
  | .act action => Endpoint.take action
  | .parse => Endpoint.parse
  | .dismiss => do
    Endpoint.closeTransport
    Endpoint.forget
    pure []
  | .endCallback _ => pure []

namespace Endpoint

/-- An activity that neither pays nor earns: it leaves what the endpoint can still do as it
was, whether it succeeds or not. -/
def Steady {Result : Type} (activity : Activity Endpoint Result) : Prop :=
  ∀ endpoint, (activity.run endpoint).state.weight = endpoint.weight

section

variable {First Second : Type}

theorem steady_conclude (result : Except Fault First) : Steady (.conclude result) := fun _ => rfl

theorem steady_emit (event : Event) : Steady (.emit event) := fun _ => rfl

theorem steady_pure (value : First) : Steady (pure value) := fun _ => rfl

theorem steady_get : Steady .get := fun _ => rfl

theorem steady_bind {first : Activity Endpoint First} {second : First → Activity Endpoint Second}
    (steadyFirst : Steady first) (steadySecond : ∀ value, Steady (second value)) :
    Steady (first >>= second) := by
  intro endpoint
  have begun := steadyFirst endpoint
  match ran : first.run endpoint with
  | ⟨.error fault, trace, next⟩ =>
    rw [ran] at begun
    rw [Activity.run_bind_error ran]
    exact begun
  | ⟨.ok value, trace, next⟩ =>
    rw [ran] at begun
    rw [Activity.run_bind_ok ran]
    exact (steadySecond value next).trans begun

end

theorem steady_modifyPeer (change : Peer → Peer) : Steady (modifyPeer change) := fun _ => rfl

theorem steady_noteOfPeer (notice : Peer → Notice) : Steady (noteOfPeer notice) :=
  steady_bind steady_get fun _ => steady_emit _

theorem steady_forget : Steady forget := fun _ => rfl

theorem steady_closeTransport : Steady closeTransport := by
  refine steady_bind steady_get fun endpoint => ?_
  split
  · exact steady_pure _
  · exact steady_bind (steady_emit _) fun _ => steady_bind (fun _ => rfl) fun _ =>
      steady_conclude _

theorem steady_writeTransport (octets : Octets) : Steady (writeTransport octets) := by
  refine steady_bind steady_get fun endpoint => ?_
  split
  · exact steady_conclude _
  · exact steady_bind (steady_emit _) fun _ => steady_bind (fun _ => rfl) fun _ =>
      steady_conclude _

theorem steady_close : Steady close :=
  steady_bind (steady_noteOfPeer _) fun _ => steady_closeTransport

theorem steady_send (data : Value) : Steady (send data) := by
  refine steady_bind steady_get fun endpoint => ?_
  split
  · split
    · exact steady_emit _
    · exact steady_bind (steady_conclude _) fun _ => steady_bind (steady_conclude _) fun _ =>
        steady_bind (steady_emit _) fun _ => steady_writeTransport _
    · exact steady_emit _
  · exact steady_conclude _

theorem steady_adopt (connection : Connection) : Steady (adopt connection) :=
  steady_bind (fun _ => rfl) fun _ => steady_bind (steady_conclude _) fun _ =>
    steady_bind (steady_modifyPeer _) fun _ => steady_bind (steady_conclude _) fun _ =>
      steady_bind (steady_modifyPeer _) fun _ => steady_bind (steady_modifyPeer _) fun _ =>
        steady_noteOfPeer _

/-- What an outcome leaves to be done, by the endpoint itself and by the tasks in the result,
weighs less than a budget. -/
def Paid (budget : Nat) (outcome : Outcome Endpoint (List Task)) : Prop :=
  match outcome.result with
  | .ok tasks => outcome.state.weight + Task.totalWeight tasks < budget
  | .error _ => outcome.state.weight < budget

@[simp] theorem paid_after {budget : Nat} {trace : List Event}
    {outcome : Outcome Endpoint (List Task)} :
    Paid budget (outcome.after trace) ↔ Paid budget outcome := Iff.rfl

/-- A steady activity in front changes nothing about what is paid. -/
theorem paid_bind {First : Type} {budget : Nat} {endpoint : Endpoint}
    {first : Activity Endpoint First} {second : First → Activity Endpoint (List Task)}
    (steady : Steady first) (affordable : endpoint.weight < budget)
    (continued : ∀ value next, next.weight = endpoint.weight →
      Paid budget ((second value).run next)) :
    Paid budget ((first >>= second).run endpoint) := by
  have begun := steady endpoint
  match ran : first.run endpoint with
  | ⟨.error fault, trace, next⟩ =>
    rw [ran] at begun
    rw [Activity.run_bind_error ran]
    simpa [Paid, begun] using affordable
  | ⟨.ok value, trace, next⟩ =>
    rw [ran] at begun
    rw [Activity.run_bind_ok ran]
    exact continued value next begun

/-- The tasks of a callback are paid by the call that is taken from what it is going to do. -/
theorem totalWeight_callbackTasks {Step : Type} {weight : Step → Nat} {toAction : Step → Action}
    (agree : ∀ step, (toAction step).weight = weight step) (callback : Callback)
    (calls : List (List Step)) :
    Task.totalWeight (callbackTasks toAction callback calls) +
        callbackWeight weight (some calls.tail) = callbackWeight weight (some calls) := by
  cases calls with
  | nil => rfl
  | cons call rest =>
    have steps : Task.totalWeight (call.map fun step => .act (toAction step)) =
        weightOf weight call := by
      induction call with
      | nil => rfl
      | cons step others inductionHypothesis =>
        simp only [List.map_cons, Task.totalWeight_cons, Task.weight, agree, inductionHypothesis,
          weightOf]
    simp only [callbackTasks, Task.totalWeight_append, steps, Task.totalWeight_cons, Task.weight,
      Task.totalWeight_nil, callbackWeight, List.tail_cons, weightOf]

theorem paid_notifyRecord (record : Octets) {endpoint : Endpoint} {budget : Nat}
    (affordable : endpoint.weight < budget) :
    Paid budget ((notifyRecord record).run endpoint) := by
  unfold notifyRecord
  rw [Activity.run_bind_ok (Activity.run_get endpoint), paid_after]
  split
  · simpa [Paid] using affordable
  · rename_i calls present
    have balance := totalWeight_callbackTasks (Action.weight_toAction record) .onRecord calls
    simp only [weight, Handlers.weight, present] at affordable
    simp only [bind, Activity.andThen, Activity.run_emit, Activity.run_modify, Activity.run_pure,
      Paid, Outcome.after, weight, Handlers.weight]
    omega

theorem paid_notifyPeerAvailable {endpoint : Endpoint} {budget : Nat}
    (affordable : endpoint.weight < budget) : Paid budget (notifyPeerAvailable.run endpoint) := by
  unfold notifyPeerAvailable
  rw [Activity.run_bind_ok (Activity.run_get endpoint), paid_after]
  split
  · simpa [Paid] using affordable
  · rename_i calls present
    have balance := @totalWeight_callbackTasks Action Action.weight id (fun _ => rfl)
      .onPeerAvailable calls
    simp only [weight, Handlers.weight, present] at affordable
    simp only [bind, Activity.andThen, Activity.run_emit, Activity.run_modify, Activity.run_pure,
      Paid, Outcome.after, weight, Handlers.weight]
    omega

theorem paid_notifyPeerUnavailable {endpoint : Endpoint} {budget : Nat}
    (affordable : endpoint.weight < budget) :
    Paid budget (notifyPeerUnavailable.run endpoint) := by
  unfold notifyPeerUnavailable
  rw [Activity.run_bind_ok (Activity.run_get endpoint), paid_after]
  split
  · simpa [Paid] using affordable
  · rename_i calls present
    have balance := @totalWeight_callbackTasks Action Action.weight id (fun _ => rfl)
      .onPeerUnavailable calls
    simp only [weight, Handlers.weight, present] at affordable
    simp only [bind, Activity.andThen, Activity.run_emit, Activity.run_modify, Activity.run_pure,
      Paid, Outcome.after, weight, Handlers.weight]
    omega

/-- A further task at the end is paid from a larger budget. -/
theorem paid_append {budget : Nat} {endpoint : Endpoint} {task : Task}
    {activity : Activity Endpoint (List Task)} (paid : Paid budget (activity.run endpoint)) :
    Paid (budget + task.weight)
      ((activity >>= fun tasks => pure (tasks ++ [task])).run endpoint) := by
  match ran : activity.run endpoint with
  | ⟨.error fault, trace, next⟩ =>
    rw [ran] at paid
    rw [Activity.run_bind_error ran]
    simp only [Paid] at paid ⊢
    omega
  | ⟨.ok tasks, trace, next⟩ =>
    rw [ran] at paid
    rw [Activity.run_bind_ok ran, paid_after]
    simp only [Paid, Activity.run_pure, Task.totalWeight_append, Task.totalWeight_cons,
      Task.totalWeight_nil] at paid ⊢
    omega

theorem weight_receive (octets : Octets) (endpoint : Endpoint) :
    ({ endpoint with assembler := endpoint.assembler.receive octets } : Endpoint).weight =
      endpoint.weight + 2 * octets.length := by
  simp only [weight, Assembler.potential_receive]
  omega

theorem paid_receive (octets : Octets) {endpoint : Endpoint} {budget : Nat}
    (affordable : endpoint.weight + 2 * octets.length + 1 < budget) :
    Paid budget ((receive octets).run endpoint) := by
  unfold receive
  rw [Activity.run_bind_ok (Activity.run_get endpoint), paid_after]
  have more := weight_receive octets endpoint
  split
  · simp only [setAssembler, bind, Activity.andThen, Activity.run_modify, Activity.run_pure,
      Paid, Outcome.after, more, Task.totalWeight_cons, Task.totalWeight_nil, Task.weight]
    omega
  · simp only [Paid, Activity.run_pure, Task.totalWeight_nil]
    omega

/-- As many octets as numbers. -/
theorem length_of_octetsOfNumbers {numbers : List Value} {octets : Octets}
    (read : octetsOfNumbers numbers = .ok octets) : octets.length = numbers.length := by
  induction numbers generalizing octets with
  | nil =>
    simp only [octetsOfNumbers, Except.ok.injEq] at read
    simp [← read]
  | cons number rest inductionHypothesis =>
    simp only [octetsOfNumbers] at read
    split at read
    · simp at read
    · match later : octetsOfNumbers rest with
      | .error fault => simp [later, Except.map] at read
      | .ok more =>
        simp only [later, Except.map, Except.ok.injEq] at read
        simp [← read, inductionHypothesis later]

/-- A change of the endpoint in front is followed by what is paid after the change. -/
theorem paid_modify {budget : Nat} {endpoint : Endpoint} {change : Endpoint → Endpoint}
    {second : Unit → Activity Endpoint (List Task)}
    (continued : Paid budget ((second ()).run (change endpoint))) :
    Paid budget ((Activity.modify change >>= second).run endpoint) := continued

theorem paid_pure {budget : Nat} {endpoint : Endpoint} {tasks : List Task}
    (enough : endpoint.weight + Task.totalWeight tasks < budget) :
    Paid budget ((pure tasks : Activity Endpoint (List Task)).run endpoint) := enough

/-- Replacing the assembler changes what the endpoint can do by the difference. -/
theorem weight_setAssembler (assembler : Assembler) (endpoint : Endpoint) :
    ({ endpoint with assembler } : Endpoint).weight + endpoint.assembler.potential =
      endpoint.weight + assembler.potential := by
  simp only [weight]
  omega

theorem paid_parse (endpoint : Endpoint) :
    Paid (endpoint.weight + Task.parse.weight) (parse.run endpoint) := by
  unfold parse
  rw [Activity.run_bind_ok (Activity.run_get endpoint), paid_after]
  split
  · exact paid_pure (by simp [Task.weight])
  · simp only [reject, bind_assoc]
    refine paid_bind (steady_noteOfPeer _) (by simp [Task.weight]) fun _ noted same => ?_
    have less := weight_setAssembler .empty noted
    simp only [Assembler.potential_empty] at less
    refine paid_modify (paid_bind steady_close (by simp only [Task.weight]; omega)
      fun _ closed equal => paid_pure ?_)
    simp only [Task.weight, Task.totalWeight_nil]
    omega
  · show endpoint.weight < _
    simp [Task.weight]
  · rename_i next step
    have less := Assembler.potential_lt_of_advanced step
    have balance := weight_setAssembler next endpoint
    refine paid_modify (paid_pure ?_)
    simp only [Task.weight, Task.totalWeight_cons, Task.totalWeight_nil]
    omega
  · rename_i record next step
    have less := Assembler.potential_lt_of_completed step
    have balance := weight_setAssembler next endpoint
    refine paid_modify (paid_bind (steady_emit _) (by simp only [Task.weight]; omega)
      fun _ noted same => paid_append (paid_notifyRecord record ?_))
    omega

/-- Taking an action leaves less to be done than the action weighs. -/
theorem paid_take (action : Action) (endpoint : Endpoint) :
    Paid (endpoint.weight + action.weight) ((take action).run endpoint) := by
  cases action with
  | receive octets => exact paid_receive octets (by simp only [Action.weight]; omega)
  | receiveNumbers numbers =>
    simp only [take, receiveNumbers]
    rw [Activity.run_bind_ok (Activity.run_get endpoint), paid_after]
    split
    · match read : octetsOfNumbers numbers with
      | .error fault =>
        show endpoint.weight < _
        simp only [Action.weight]
        omega
      | .ok octets =>
        have length := length_of_octetsOfNumbers read
        rw [Activity.run_bind_ok (Activity.run_conclude _ endpoint), paid_after]
        exact paid_receive octets (by simp only [Action.weight]; omega)
    · exact paid_pure (by simp [Action.weight])
  | send data =>
    exact paid_bind (steady_send data) (by simp [Action.weight]) fun _ next same =>
      paid_pure (by simp [Action.weight, same])
  | connect connection =>
    exact paid_bind (steady_adopt connection) (by simp [Action.weight]) fun _ next same =>
      paid_notifyPeerAvailable (by simp [Action.weight, same])
  | lose reason =>
    refine paid_bind (steady_noteOfPeer _) (by simp [Action.weight]) fun _ next same => ?_
    have paid := @paid_append (endpoint.weight + 2) next .dismiss notifyPeerUnavailable
      (paid_notifyPeerUnavailable (by omega))
    exact paid
  | close =>
    exact paid_bind steady_close (by simp [Action.weight]) fun _ next same =>
      paid_pure (by simp [Action.weight, same])
  | setLimit limit =>
    have same : ({ endpoint with limit } : Endpoint).weight = endpoint.weight := rfl
    exact paid_modify (paid_pure (by simp [Action.weight, same]))
  | raise fault =>
    show endpoint.weight < _
    simp [Action.weight]

end Endpoint

/-- Performing a task leaves less to be done than the task weighs. -/
theorem Task.paid_perform (task : Task) (endpoint : Endpoint) :
    Endpoint.Paid (endpoint.weight + task.weight) (task.perform.run endpoint) := by
  cases task with
  | act action => exact Endpoint.paid_take action endpoint
  | parse => exact Endpoint.paid_parse endpoint
  | dismiss =>
    exact Endpoint.paid_bind Endpoint.steady_closeTransport (by simp [weight])
      fun _ next same => Endpoint.paid_bind Endpoint.steady_forget (by simp [weight, same])
        fun _ last equal => Endpoint.paid_pure (by simp [weight, same, equal])
  | endCallback callback => exact Endpoint.paid_pure (by simp [weight])

end RecordMarking
