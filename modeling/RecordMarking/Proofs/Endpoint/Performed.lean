import RecordMarking.Endpoint.Run

/-!
# What an endpoint performs

`performed` lists the tasks of a run in the order in which they are performed, each with the
endpoint it is performed on. `run_invariant` carries an invariant from every single task to
every moment of a run, and `flatMap_trace_run` reads the trace of a run off its tasks.

`run_append` cuts a run where the upper ones of its tasks end.

`serve` lets one call after the other reach an endpoint from outside, whether or not the earlier
ones failed, and has the same two properties.
-/

namespace RecordMarking.Endpoint

section Run

variable {task : Task} {rest : List Task} {endpoint next : Endpoint} {trace : List Event}

theorem run_of_ok {more : List Task} (done : task.perform.run endpoint = ⟨.ok more, trace, next⟩) :
    run (task :: rest) endpoint = (run (more ++ rest) next).after trace := by
  rw [run]
  split <;> simp_all

theorem run_of_escaped {fault : Fault}
    (failed : task.perform.run endpoint = ⟨.error fault, trace, next⟩)
    (escaped : contain fault rest = none) :
    run (task :: rest) endpoint = ⟨.error fault, trace, next⟩ := by
  rw [run]
  split
  · simp_all
  · split <;> simp_all

theorem run_of_contained {fault : Fault} {callback : Callback} {below : List Task}
    (failed : task.perform.run endpoint = ⟨.error fault, trace, next⟩)
    (contained : contain fault rest = some (callback, below)) :
    run (task :: rest) endpoint =
      (run below next).after (trace ++ [.notice (.callbackFailed callback fault)]) := by
  rw [run]
  split
  · simp_all
  · split <;> simp_all

@[simp] theorem run_nil (endpoint : Endpoint) : run [] endpoint = ⟨.ok (), [], endpoint⟩ := by
  rw [run]

/-- A task that leaves nothing to be done is all of its run. -/
theorem run_singleton {result : Except Fault Unit}
    (ended : task.perform.run endpoint = ⟨result.map fun _ => [], trace, next⟩) :
    run [task] endpoint = ⟨result, trace, next⟩ := by
  cases result with
  | error fault => exact run_of_escaped ended rfl
  | ok value =>
    have ran := @run_of_ok task [] endpoint next trace [] ended
    simpa [Outcome.after] using ran

/-- A run begins with its first task, and goes on with what that leaves. -/
theorem run_congr {other : Endpoint}
    (same : task.perform.run endpoint = task.perform.run other) :
    run (task :: rest) endpoint = run (task :: rest) other := by
  match ended : task.perform.run other with
  | ⟨.ok more, trace, next⟩ => rw [run_of_ok ended, run_of_ok (same.trans ended)]
  | ⟨.error fault, trace, next⟩ =>
    match contained : contain fault rest with
    | none => rw [run_of_escaped ended contained, run_of_escaped (same.trans ended) contained]
    | some (callback, below) =>
      rw [run_of_contained ended contained, run_of_contained (same.trans ended) contained]

/-- What comes of lower tasks when a run of the upper ones has ended: all of them are performed, or
those below the callback that contains a fault. -/
def resume (below : List Task) : Outcome Endpoint Unit → Outcome Endpoint Unit
  | ⟨.ok (), trace, next⟩ => (run below next).after trace
  | ⟨.error fault, trace, next⟩ =>
    match contain fault below with
    | none => ⟨.error fault, trace, next⟩
    | some (callback, rest) =>
      (run rest next).after (trace ++ [.notice (.callbackFailed callback fault)])

theorem resume_after (below : List Task) (trace : List Event) (outcome : Outcome Endpoint Unit) :
    resume below (outcome.after trace) = (resume below outcome).after trace := by
  match outcome with
  | ⟨.ok (), later, next⟩ => exact (Outcome.after_after trace later _).symm
  | ⟨.error fault, later, next⟩ =>
    cases contained : contain fault below with
    | none => simp only [resume, Outcome.after, contained]
    | some found =>
      simp only [resume, Outcome.after, contained, List.append_assoc]

theorem contain_append_of_none {fault : Fault} {above : List Task}
    (escaped : contain fault above = none) (below : List Task) :
    contain fault (above ++ below) = contain fault below := by
  fun_induction contain fault above with
  | case1 => rfl
  | case2 found rest ordinary => cases escaped
  | case3 found rest other inductionHypothesis =>
    rw [List.cons_append, contain, if_neg other]
    exact inductionHypothesis escaped
  | case4 task rest other inductionHypothesis =>
    rw [List.cons_append, contain]
    · exact inductionHypothesis escaped
    · exact other

theorem contain_append_of_some {fault : Fault} {above rest : List Task} {callback : Callback}
    (contained : contain fault above = some (callback, rest)) (below : List Task) :
    contain fault (above ++ below) = some (callback, rest ++ below) := by
  fun_induction contain fault above with
  | case1 => cases contained
  | case2 found later ordinary =>
    cases contained
    rw [List.cons_append, contain, if_pos ordinary]
  | case3 found later other inductionHypothesis =>
    rw [List.cons_append, contain, if_neg other]
    exact inductionHypothesis contained
  | case4 task later other inductionHypothesis =>
    rw [List.cons_append, contain]
    · exact inductionHypothesis contained
    · exact other

/-- A run of tasks with further tasks below them is a run of the upper ones, after which the lower
ones are resumed. -/
theorem run_append (above below : List Task) (endpoint : Endpoint) :
    run (above ++ below) endpoint = resume below (run above endpoint) := by
  fun_induction run above endpoint with
  | case1 endpoint => rfl
  | case2 endpoint task rest more trace next done inductionHypothesis =>
    rw [List.cons_append, run_of_ok done, ← List.append_assoc, inductionHypothesis, resume_after]
  | case3 endpoint task rest fault trace next failed escaped =>
    have same := contain_append_of_none escaped below
    rw [List.cons_append, resume]
    cases contained : contain fault below with
    | none => exact run_of_escaped failed (same.trans contained)
    | some found => exact run_of_contained failed (same.trans contained)
  | case4 endpoint task rest fault trace next failed callback lower contained
      inductionHypothesis =>
    rw [List.cons_append, run_of_contained failed (contain_append_of_some contained below),
      inductionHypothesis, resume_after]

theorem run_perform_singleton (action : Action) (endpoint : Endpoint) :
    (perform [action]).run endpoint = run [.act action] endpoint := rfl

/-- The tasks of a run in order, each with the endpoint that it is performed on. -/
def performed (tasks : List Task) (endpoint : Endpoint) : List (Task × Endpoint) :=
  match tasks with
  | [] => []
  | task :: rest =>
    match _performed : task.perform.run endpoint with
    | ⟨.ok more, _, next⟩ => (task, endpoint) :: performed (more ++ rest) next
    | ⟨.error fault, _, next⟩ =>
      match _contained : contain fault rest with
      | none => [(task, endpoint)]
      | some (_, below) => (task, endpoint) :: performed below next
termination_by endpoint.weight + Task.totalWeight tasks
decreasing_by
  · have paid := task.paid_perform endpoint
    rw [_performed] at paid
    simp only [Paid] at paid
    simp only [Task.totalWeight_append, Task.totalWeight_cons]
    omega
  · have paid := task.paid_perform endpoint
    have less := totalWeight_of_contain _contained
    rw [_performed] at paid
    simp only [Paid] at paid
    simp only [Task.totalWeight_cons]
    omega

@[simp] theorem performed_nil (endpoint : Endpoint) : performed [] endpoint = [] := by
  rw [performed]

theorem performed_of_ok {more : List Task}
    (done : task.perform.run endpoint = ⟨.ok more, trace, next⟩) :
    performed (task :: rest) endpoint = (task, endpoint) :: performed (more ++ rest) next := by
  rw [performed]
  split <;> simp_all

theorem performed_of_escaped {fault : Fault}
    (failed : task.perform.run endpoint = ⟨.error fault, trace, next⟩)
    (escaped : contain fault rest = none) :
    performed (task :: rest) endpoint = [(task, endpoint)] := by
  rw [performed]
  split
  · simp_all
  · split <;> simp_all

theorem performed_of_contained {fault : Fault} {callback : Callback} {below : List Task}
    (failed : task.perform.run endpoint = ⟨.error fault, trace, next⟩)
    (contained : contain fault rest = some (callback, below)) :
    performed (task :: rest) endpoint = (task, endpoint) :: performed below next := by
  rw [performed]
  split
  · simp_all
  · split <;> simp_all

/-- The tasks that are left when a fault is contained are those below the end of the callback. -/
theorem exists_of_contain {fault : Fault} {tasks below : List Task} {callback : Callback}
    (contained : contain fault tasks = some (callback, below)) :
    ∃ above, tasks = above ++ .endCallback callback :: below := by
  fun_induction contain fault tasks with
  | case1 => simp at contained
  | case2 found rest =>
    obtain ⟨rfl, rfl⟩ : found = callback ∧ rest = below := by simpa using contained
    exact ⟨[], rfl⟩
  | case3 found rest _ inductionHypothesis =>
    obtain ⟨above, rfl⟩ := inductionHypothesis contained
    exact ⟨.endCallback found :: above, rfl⟩
  | case4 other rest _ inductionHypothesis =>
    obtain ⟨above, rfl⟩ := inductionHypothesis contained
    exact ⟨other :: above, rfl⟩

theorem mem_of_contain {fault : Fault} {tasks below : List Task} {callback : Callback}
    (contained : contain fault tasks = some (callback, below)) {task : Task}
    (left : task ∈ below) : task ∈ tasks := by
  obtain ⟨above, rfl⟩ := exists_of_contain contained
  simp [left]

end Run

/-- An outcome leaves an endpoint with a property and only tasks of a kind. -/
def Maintains (kind : Task → Prop) (property : Endpoint → Prop)
    (outcome : Outcome Endpoint (List Task)) : Prop :=
  property outcome.state ∧ ∀ tasks, outcome.result = .ok tasks → ∀ task ∈ tasks, kind task

section Invariant

variable {kind : Task → Prop} {property : Endpoint → Prop}

theorem Maintains.of_ok {tasks : List Task} {next : Endpoint} (kept : property next)
    (ofKind : ∀ task ∈ tasks, kind task) (trace : List Event) :
    Maintains kind property ⟨.ok tasks, trace, next⟩ := by
  refine ⟨kept, ?_⟩
  rintro given ⟨⟩
  exact ofKind

theorem Maintains.of_error {next : Endpoint} (kept : property next) (fault : Fault)
    (trace : List Event) : Maintains kind property ⟨.error fault, trace, next⟩ :=
  ⟨kept, by simp⟩

/-- What holds from the second task on holds from the first on. -/
theorem history_cons {property : List (Task × Endpoint) → Endpoint → Prop}
    {history others : List (Task × Endpoint)} {first : Task × Endpoint} {last : Endpoint}
    (initially : kind first.1 ∧ property history first.2)
    (later : property (history ++ [first] ++ others) last ∧
      ∀ before entry after, others = before ++ entry :: after →
        kind entry.1 ∧ property (history ++ [first] ++ before) entry.2) :
    property (history ++ first :: others) last ∧
      ∀ before entry after, first :: others = before ++ entry :: after →
        kind entry.1 ∧ property (history ++ before) entry.2 := by
  refine ⟨by simpa using later.1, fun before entry after parts => ?_⟩
  cases before with
  | nil =>
    obtain ⟨rfl, rfl⟩ : first = entry ∧ others = after := by simpa using parts
    simpa using initially
  | cons head before =>
    obtain ⟨rfl, rest⟩ : first = head ∧ others = before ++ entry :: after := by simpa using parts
    simpa using later.2 before entry after rest

/-- A property of an endpoint and of the tasks that were performed before, which every task of a
kind maintains, holds whenever a task is performed, and in the end. -/
theorem run_history {property : List (Task × Endpoint) → Endpoint → Prop}
    (step : ∀ history task endpoint, kind task → property history endpoint →
      Maintains kind (property (history ++ [(task, endpoint)])) (task.perform.run endpoint))
    {tasks : List Task} {endpoint : Endpoint} (ofKind : ∀ task ∈ tasks, kind task)
    {history : List (Task × Endpoint)} (initially : property history endpoint) :
    property (history ++ performed tasks endpoint) (run tasks endpoint).state ∧
      ∀ before entry after, performed tasks endpoint = before ++ entry :: after →
        kind entry.1 ∧ property (history ++ before) entry.2 := by
  fun_induction run tasks endpoint generalizing history with
  | case1 endpoint => exact ⟨by simpa using initially, by simp⟩
  | case2 endpoint task rest more trace next done inductionHypothesis =>
    have first := ofKind task (by simp)
    obtain ⟨kept, added⟩ := step history task endpoint first initially
    rw [done] at kept added
    have onStack : ∀ other ∈ more ++ rest, kind other := by
      intro other among
      rcases List.mem_append.1 among with new | old
      · exact added more rfl other new
      · exact ofKind other (by simp [old])
    rw [performed_of_ok done]
    exact history_cons ⟨first, initially⟩ (inductionHypothesis onStack kept)
  | case3 endpoint task rest fault trace next failed escaped =>
    have first := ofKind task (by simp)
    have kept := (step history task endpoint first initially).1
    rw [failed] at kept
    rw [performed_of_escaped failed escaped]
    exact history_cons ⟨first, initially⟩ ⟨by simpa using kept, by simp⟩
  | case4 endpoint task rest fault trace next failed callback below contained inductionHypothesis =>
    have first := ofKind task (by simp)
    have kept := (step history task endpoint first initially).1
    rw [failed] at kept
    rw [performed_of_contained failed contained]
    exact history_cons ⟨first, initially⟩ (inductionHypothesis
      (fun other among => ofKind other (by simp [mem_of_contain contained among])) kept)

/-- What every task of a kind maintains holds whenever a task is performed, and in the end. -/
theorem run_invariant
    (step : ∀ task endpoint, kind task → property endpoint →
      Maintains kind property (task.perform.run endpoint))
    {tasks : List Task} {endpoint : Endpoint} (ofKind : ∀ task ∈ tasks, kind task)
    (initially : property endpoint) :
    property (run tasks endpoint).state ∧
      ∀ entry ∈ performed tasks endpoint, kind entry.1 ∧ property entry.2 := by
  have always := @run_history kind (fun _ => property) (fun _ => step) tasks endpoint ofKind []
    initially
  refine ⟨always.1, fun entry among => ?_⟩
  obtain ⟨before, after, parts⟩ := List.append_of_mem among
  exact always.2 before entry after parts

end Invariant

section Observation

variable {Observed : Type} {observe : Event → List Observed}

/-- What is observed of a task. -/
def observed (observe : Event → List Observed) (entry : Task × Endpoint) : List Observed :=
  (entry.1.perform.run entry.2).trace.flatMap observe

/-- What is observed of a run is what is observed of its tasks, unless the observation is about
contained faults. -/
theorem flatMap_trace_run
    (ignored : ∀ callback fault, observe (.notice (.callbackFailed callback fault)) = [])
    (tasks : List Task) (endpoint : Endpoint) :
    (run tasks endpoint).trace.flatMap observe =
      (performed tasks endpoint).flatMap (observed observe) := by
  fun_induction run tasks endpoint with
  | case1 endpoint => simp
  | case2 endpoint task rest more trace next done inductionHypothesis =>
    rw [performed_of_ok done, Outcome.trace_after, List.flatMap_append, inductionHypothesis,
      List.flatMap_cons, observed, done]
  | case3 endpoint task rest fault trace next failed escaped =>
    rw [performed_of_escaped failed escaped, List.flatMap_singleton, observed, failed]
  | case4 endpoint task rest fault trace next failed callback below contained inductionHypothesis =>
    rw [performed_of_contained failed contained, Outcome.trace_after, List.flatMap_append,
      inductionHypothesis, List.flatMap_cons, observed, failed, List.flatMap_append,
      List.flatMap_singleton, ignored, List.append_nil]

end Observation

/-- What came of calls from outside: how each of them ended, what was observed, which tasks were
performed on which endpoint, and the endpoint that they left. -/
structure Service where
  results : List (Except Fault Unit)
  trace : List Event
  performed : List (Task × Endpoint)
  endpoint : Endpoint

/-- Let calls reach an endpoint one after the other. -/
def serve : List Action → Endpoint → Service
  | [], endpoint => ⟨[], [], [], endpoint⟩
  | call :: later, endpoint =>
    let outcome := (perform [call]).run endpoint
    let service := serve later outcome.state
    { service with
      results := outcome.result :: service.results
      trace := outcome.trace ++ service.trace
      performed := performed [.act call] endpoint ++ service.performed }

/-- What comes of calls is what comes of the earlier ones, and then of the later ones. -/
theorem serve_append (earlier later : List Action) (endpoint : Endpoint) :
    serve (earlier ++ later) endpoint =
      let first := serve earlier endpoint
      let second := serve later first.endpoint
      ⟨first.results ++ second.results, first.trace ++ second.trace,
        first.performed ++ second.performed, second.endpoint⟩ := by
  induction earlier generalizing endpoint with
  | nil => rfl
  | cons call others inductionHypothesis =>
    simp [serve, inductionHypothesis]

/-- A property of an endpoint and of the tasks that were performed before, which every task of a
kind maintains, holds throughout all calls. -/
theorem serve_history {kind : Task → Prop} {property : List (Task × Endpoint) → Endpoint → Prop}
    (step : ∀ history task endpoint, kind task → property history endpoint →
      Maintains kind (property (history ++ [(task, endpoint)])) (task.perform.run endpoint))
    {calls : List Action} {endpoint : Endpoint} (ofKind : ∀ call ∈ calls, kind (.act call))
    {history : List (Task × Endpoint)} (initially : property history endpoint) :
    property (history ++ (serve calls endpoint).performed) (serve calls endpoint).endpoint ∧
      ∀ before entry after, (serve calls endpoint).performed = before ++ entry :: after →
        kind entry.1 ∧ property (history ++ before) entry.2 := by
  induction calls generalizing endpoint history with
  | nil => exact ⟨by simpa [serve] using initially, by simp [serve]⟩
  | cons call later inductionHypothesis =>
    obtain ⟨between, first⟩ := run_history step
      (List.forall_mem_singleton.2 (ofKind call (by simp))) initially
    obtain ⟨afterwards, others⟩ := inductionHypothesis
      (fun other among => ofKind other (by simp [among])) between
    have together : (serve (call :: later) endpoint).performed =
        performed [.act call] endpoint ++
          (serve later (run [.act call] endpoint).state).performed := rfl
    rw [List.append_assoc] at afterwards
    refine ⟨together ▸ afterwards, fun before entry after parts => ?_⟩
    rw [together] at parts
    rcases List.append_eq_append_iff.1 parts with ⟨behind, rfl, rest⟩ | ⟨behind, whole, rest⟩
    · rw [← List.append_assoc]
      exact others behind entry after rest
    · cases behind with
      | nil =>
        obtain rfl : _ = before := by simpa using whole
        simpa using others [] entry after (by simpa using rest.symm)
      | cons head tail =>
        obtain ⟨rfl, -⟩ : entry = head ∧ after = tail ++ _ := by simpa using rest
        exact first before entry tail whole

/-- What every task of a kind maintains holds throughout all calls. -/
theorem serve_invariant {kind : Task → Prop} {property : Endpoint → Prop}
    (step : ∀ task endpoint, kind task → property endpoint →
      Maintains kind property (task.perform.run endpoint))
    {calls : List Action} {endpoint : Endpoint} (ofKind : ∀ call ∈ calls, kind (.act call))
    (initially : property endpoint) :
    property (serve calls endpoint).endpoint ∧
      ∀ entry ∈ (serve calls endpoint).performed, kind entry.1 ∧ property entry.2 := by
  have always := @serve_history kind (fun _ => property) (fun _ => step) calls endpoint ofKind []
    initially
  refine ⟨always.1, fun entry among => ?_⟩
  obtain ⟨before, after, parts⟩ := List.append_of_mem among
  exact always.2 before entry after parts

/-- What is observed of calls is what is observed of the tasks that they lead to. -/
theorem flatMap_trace_serve {Observed : Type} {observe : Event → List Observed}
    (ignored : ∀ callback fault, observe (.notice (.callbackFailed callback fault)) = [])
    (calls : List Action) (endpoint : Endpoint) :
    (serve calls endpoint).trace.flatMap observe =
      (serve calls endpoint).performed.flatMap (observed observe) := by
  induction calls generalizing endpoint with
  | nil => rfl
  | cons call later inductionHypothesis =>
    have first := flatMap_trace_run ignored [.act call] endpoint
    simp only [serve, List.flatMap_append, inductionHypothesis]
    rw [← first]
    rfl

section Trace

variable {property : Event → Prop} {endpoint : Endpoint}

/-- What holds of all events of the tasks of a run holds of all its events, if it holds of contained
faults. -/
theorem forall_mem_trace_run
    (contained : ∀ callback fault, property (.notice (.callbackFailed callback fault)))
    {tasks : List Task}
    (each : ∀ entry ∈ performed tasks endpoint, ∀ event ∈ (entry.1.perform.run entry.2).trace,
      property event) :
    ∀ event ∈ (run tasks endpoint).trace, property event := by
  fun_induction run tasks endpoint with
  | case1 endpoint => exact List.forall_mem_nil _
  | case2 endpoint task rest more trace next done inductionHypothesis =>
    rw [performed_of_ok done] at each
    obtain ⟨first, others⟩ := List.forall_mem_cons.1 each
    rw [done] at first
    exact List.forall_mem_append.2 ⟨first, inductionHypothesis others⟩
  | case3 endpoint task rest fault trace next failed escaped =>
    rw [performed_of_escaped failed escaped] at each
    have first := List.forall_mem_singleton.1 each
    rwa [failed] at first
  | case4 endpoint task rest fault trace next failed callback below held inductionHypothesis =>
    rw [performed_of_contained failed held] at each
    obtain ⟨first, others⟩ := List.forall_mem_cons.1 each
    rw [failed] at first
    refine List.forall_mem_append.2 ⟨?_, inductionHypothesis others⟩
    exact List.forall_mem_append.2 ⟨first, List.forall_mem_singleton.2 (contained callback fault)⟩

/-- What holds of all events of the tasks that calls lead to holds of all that is observed of them.
-/
theorem forall_mem_trace_serve
    (contained : ∀ callback fault, property (.notice (.callbackFailed callback fault)))
    {calls : List Action}
    (each : ∀ entry ∈ (serve calls endpoint).performed,
      ∀ event ∈ (entry.1.perform.run entry.2).trace, property event) :
    ∀ event ∈ (serve calls endpoint).trace, property event := by
  induction calls generalizing endpoint with
  | nil => exact List.forall_mem_nil _
  | cons call later inductionHypothesis =>
    obtain ⟨first, others⟩ := List.forall_mem_append.1 each
    exact List.forall_mem_append.2
      ⟨forall_mem_trace_run contained first, inductionHypothesis others⟩

end Trace

end RecordMarking.Endpoint
