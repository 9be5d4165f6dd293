import RecordMarking.Event

/-!
# Activities

An activity is a computation that may change a state, is observed through events, and ends
with a result or a fault. A fault keeps the state and the events that came before it:
octets that were read stay read. `Outcome` is one run, `Activity` the computation, and the
monad laws say that activities compose like statements.
-/

namespace RecordMarking

/-- Results can be compared when values and errors can. -/
instance decidableEqExcept {Error Value : Type} [DecidableEq Error] [DecidableEq Value] :
    DecidableEq (Except Error Value)
  | .ok left, .ok right => decidable_of_iff (left = right) (by simp)
  | .error left, .error right => decidable_of_iff (left = right) (by simp)
  | .ok _, .error _ => .isFalse (by simp)
  | .error _, .ok _ => .isFalse (by simp)

/-- One finished run: how it ended, what was observed on the way, and the state it left. -/
structure Outcome (State Result : Type) where
  result : Except Fault Result
  trace : List Event
  state : State
deriving DecidableEq, Repr

namespace Outcome

variable {State Result : Type}

/-- The same run with more events in front. -/
def after (trace : List Event) (outcome : Outcome State Result) : Outcome State Result :=
  { outcome with trace := trace ++ outcome.trace }

@[simp] theorem result_after (trace : List Event) (outcome : Outcome State Result) :
    (outcome.after trace).result = outcome.result := rfl

@[simp] theorem state_after (trace : List Event) (outcome : Outcome State Result) :
    (outcome.after trace).state = outcome.state := rfl

@[simp] theorem trace_after (trace : List Event) (outcome : Outcome State Result) :
    (outcome.after trace).trace = trace ++ outcome.trace := rfl

/-- Events added in front twice are added in front together. -/
theorem after_after (first second : List Event) (outcome : Outcome State Result) :
    (outcome.after second).after first = outcome.after (first ++ second) := by
  simp [after, List.append_assoc]

end Outcome

/-- A computation with a state, observable events and faults. -/
structure Activity (State Result : Type) where
  run : State → Outcome State Result

namespace Activity

variable {State Result Next : Type}

/-- Run the second computation on what the first one leaves, unless the first one fails. -/
def andThen (first : Activity State Result) (second : Result → Activity State Next) :
    Activity State Next where
  run state :=
    match first.run state with
    | ⟨.ok value, trace, middle⟩ => ((second value).run middle).after trace
    | ⟨.error fault, trace, middle⟩ => ⟨.error fault, trace, middle⟩

instance : Monad (Activity State) where
  pure value := ⟨fun state => ⟨.ok value, [], state⟩⟩
  bind := andThen

/-- End with a result or a fault that is already known. -/
def conclude (result : Except Fault Result) : Activity State Result :=
  ⟨fun state => ⟨result, [], state⟩⟩

/-- End with a fault. -/
def fail (fault : Fault) : Activity State Result :=
  conclude (.error fault)

/-- Let an event be observed. -/
def emit (event : Event) : Activity State Unit :=
  ⟨fun state => ⟨.ok (), [event], state⟩⟩

/-- Write a notice to the log. -/
def note (notice : Notice) : Activity State Unit :=
  emit (.notice notice)

/-- Show a line. -/
def announce (announcement : Announcement) : Activity State Unit :=
  emit (.announce announcement)

/-- The current state. -/
def get : Activity State State :=
  ⟨fun state => ⟨.ok state, [], state⟩⟩

/-- Change the state. -/
def modify (change : State → State) : Activity State Unit :=
  ⟨fun state => ⟨.ok (), [], change state⟩⟩

/-- Handle the faults of a kind, on the state that the failed computation leaves. Other
faults go on. -/
def rescue (kind : Fault → Bool) (activity : Activity State Result)
    (handler : Fault → Activity State Result) : Activity State Result where
  run state :=
    match activity.run state with
    | ⟨.ok value, trace, middle⟩ => ⟨.ok value, trace, middle⟩
    | ⟨.error fault, trace, middle⟩ =>
      if kind fault then ((handler fault).run middle).after trace
      else ⟨.error fault, trace, middle⟩

/-- Run a computation on a part of the state. -/
def within {Part : Type} (part : State → Part) (replace : Part → State → State)
    (activity : Activity Part Result) : Activity State Result where
  run state :=
    let outcome := activity.run (part state)
    ⟨outcome.result, outcome.trace, replace outcome.state state⟩

/-- Activities are equal when they run alike. -/
@[ext] theorem ext {left right : Activity State Result}
    (alike : ∀ state, left.run state = right.run state) : left = right := by
  cases left
  cases right
  exact congrArg mk (funext alike)

@[simp] theorem run_pure (value : Result) (state : State) :
    (pure value : Activity State Result).run state = ⟨.ok value, [], state⟩ := rfl

@[simp] theorem run_conclude (result : Except Fault Result) (state : State) :
    (conclude result).run state = ⟨result, [], state⟩ := rfl

@[simp] theorem run_fail (fault : Fault) (state : State) :
    (fail fault : Activity State Result).run state = ⟨.error fault, [], state⟩ := rfl

@[simp] theorem run_get (state : State) :
    (get : Activity State State).run state = ⟨.ok state, [], state⟩ := rfl

@[simp] theorem run_modify (change : State → State) (state : State) :
    (modify change).run state = ⟨.ok (), [], change state⟩ := rfl

@[simp] theorem run_emit (event : Event) (state : State) :
    (emit event).run state = ⟨.ok (), [event], state⟩ := rfl

/-- A sequence whose first part succeeds continues from the state that part leaves. -/
theorem run_bind_ok {first : Activity State Result} {second : Result → Activity State Next}
    {state middle : State} {value : Result} {trace : List Event}
    (ran : first.run state = ⟨.ok value, trace, middle⟩) :
    (first >>= second).run state = ((second value).run middle).after trace := by
  simp only [bind, andThen, ran]

/-- A sequence whose first part fails goes no further. -/
theorem run_bind_error {first : Activity State Result} {second : Result → Activity State Next}
    {state middle : State} {fault : Fault} {trace : List Event}
    (ran : first.run state = ⟨.error fault, trace, middle⟩) :
    (first >>= second).run state = ⟨.error fault, trace, middle⟩ := by
  simp only [bind, andThen, ran]

/-- What succeeds needs no rescue. -/
theorem run_rescue_ok {kind : Fault → Bool} {activity : Activity State Result}
    {handler : Fault → Activity State Result} {state middle : State} {value : Result}
    {trace : List Event} (ran : activity.run state = ⟨.ok value, trace, middle⟩) :
    (rescue kind activity handler).run state = ⟨.ok value, trace, middle⟩ := by
  simp only [rescue, ran]

/-- A fault of the kind is handled. -/
theorem run_rescue_handled {kind : Fault → Bool} {activity : Activity State Result}
    {handler : Fault → Activity State Result} {state middle : State} {fault : Fault}
    {trace : List Event} (ran : activity.run state = ⟨.error fault, trace, middle⟩)
    (ofKind : kind fault = true) :
    (rescue kind activity handler).run state = ((handler fault).run middle).after trace := by
  simp only [rescue, ran, ofKind, if_true]

/-- A fault of another kind goes on. -/
theorem run_rescue_unhandled {kind : Fault → Bool} {activity : Activity State Result}
    {handler : Fault → Activity State Result} {state middle : State} {fault : Fault}
    {trace : List Event} (ran : activity.run state = ⟨.error fault, trace, middle⟩)
    (otherKind : kind fault = false) :
    (rescue kind activity handler).run state = ⟨.error fault, trace, middle⟩ := by
  simp [rescue, ran, otherKind]

/-- Doing nothing with the result of an activity is that activity. -/
theorem id_map_eq (activity : Activity State Result) : id <$> activity = activity := by
  ext state
  match ran : activity.run state with
  | ⟨.ok value, trace, middle⟩ =>
    exact (run_bind_ok ran).trans (congrArg (Outcome.mk _ · _) (List.append_nil trace))
  | ⟨.error fault, trace, middle⟩ => exact run_bind_error ran

/-- Wrapping a result changes neither what is observed nor the state. -/
theorem run_map (wrap : Result → Next) (activity : Activity State Result) (state : State) :
    (wrap <$> activity).run state =
      ⟨(activity.run state).result.map wrap, (activity.run state).trace,
        (activity.run state).state⟩ := by
  match ran : activity.run state with
  | ⟨.ok value, trace, middle⟩ =>
    exact (run_bind_ok ran).trans (congrArg (Outcome.mk _ · _) (List.append_nil trace))
  | ⟨.error fault, trace, middle⟩ => exact run_bind_error ran

/-- A sequence of three activities may be grouped either way. -/
theorem bind_bind {Last : Type} (first : Activity State Result)
    (second : Result → Activity State Next) (third : Next → Activity State Last) :
    first >>= second >>= third = first >>= fun value => second value >>= third := by
  ext state
  match ran : first.run state with
  | ⟨.error fault, trace, middle⟩ =>
    rw [run_bind_error (run_bind_error ran), run_bind_error ran]
  | ⟨.ok value, trace, middle⟩ =>
    rw [run_bind_ok ran]
    match continued : (second value).run middle with
    | ⟨.error fault, later, last⟩ =>
      rw [run_bind_error continued,
        run_bind_error ((run_bind_ok ran).trans (congrArg (Outcome.after trace) continued))]
      rfl
    | ⟨.ok next, later, last⟩ =>
      rw [run_bind_ok continued,
        run_bind_ok ((run_bind_ok ran).trans (congrArg (Outcome.after trace) continued)),
        Outcome.after_after]

instance : LawfulMonad (Activity State) :=
  .mk' (Activity State) id_map_eq (fun _ _ => rfl) bind_bind

/-- A sequence succeeds only if both parts do. -/
theorem exists_of_run_bind_ok {first : Activity State Result}
    {second : Result → Activity State Next} {state last : State} {next : Next}
    {whole : List Event} (ran : (first >>= second).run state = ⟨.ok next, whole, last⟩) :
    ∃ value trace middle later, first.run state = ⟨.ok value, trace, middle⟩ ∧
      (second value).run middle = ⟨.ok next, later, last⟩ ∧ whole = trace ++ later := by
  match begun : first.run state with
  | ⟨.error fault, trace, middle⟩ => simp [run_bind_error begun] at ran
  | ⟨.ok value, trace, middle⟩ =>
    rw [run_bind_ok begun] at ran
    match continued : (second value).run middle with
    | ⟨ended, later, final⟩ =>
      rw [continued] at ran
      simp only [Outcome.after, Outcome.mk.injEq] at ran
      obtain ⟨rfl, rfl, rfl⟩ := ran
      exact ⟨value, trace, middle, later, rfl, continued, rfl⟩

end Activity

end RecordMarking
