import RecordMarking.Endpoint.Task

/-!
# Runs of an endpoint

A run performs tasks until none is left. A fault drops the tasks above the end of the
innermost callback: there an ordinary fault is noted and the work goes on, while any other
fault drops that callback too, and in the end ends the run.
-/

namespace RecordMarking.Endpoint

/-- The callback that contains a fault, and the tasks that are left below it. -/
def contain (fault : Fault) : List Task → Option (Callback × List Task)
  | [] => none
  | .endCallback callback :: rest =>
    if fault.isOrdinary then some (callback, rest) else contain fault rest
  | _ :: rest => contain fault rest

/-- Containing a fault adds no work. -/
theorem totalWeight_of_contain {fault : Fault} {tasks rest : List Task} {callback : Callback}
    (contained : contain fault tasks = some (callback, rest)) :
    Task.totalWeight rest ≤ Task.totalWeight tasks := by
  fun_induction contain fault tasks with
  | case1 => simp at contained
  | case2 found below =>
    simp only [Option.some.injEq, Prod.mk.injEq] at contained
    simp [contained.2]
  | case3 found below _ inductionHypothesis =>
    have less := inductionHypothesis contained
    simp only [Task.totalWeight_cons]
    omega
  | case4 task below _ inductionHypothesis =>
    have less := inductionHypothesis contained
    simp only [Task.totalWeight_cons]
    omega

/-- Perform tasks until none is left or a fault escapes. -/
def run (tasks : List Task) (endpoint : Endpoint) : Outcome Endpoint Unit :=
  match tasks with
  | [] => ⟨.ok (), [], endpoint⟩
  | task :: rest =>
    match _performed : task.perform.run endpoint with
    | ⟨.ok more, trace, next⟩ => (run (more ++ rest) next).after trace
    | ⟨.error fault, trace, next⟩ =>
      match _contained : contain fault rest with
      | none => ⟨.error fault, trace, next⟩
      | some (callback, below) =>
        (run below next).after (trace ++ [.notice (.callbackFailed callback fault)])
termination_by endpoint.weight + Task.totalWeight tasks
decreasing_by
  · have paid := task.paid_perform endpoint
    rw [_performed] at paid
    simp only [Paid] at paid
    simp only [Task.totalWeight_append, Task.totalWeight_cons]
    omega
  · have paid := task.paid_perform endpoint
    have less := totalWeight_of_contain _contained
    rw [_performed] at paid
    simp only [Paid] at paid
    simp only [Task.totalWeight_cons]
    omega

/-- Take actions one after the other, each with all that follows from it. -/
def perform (actions : List Action) : Activity Endpoint Unit :=
  ⟨run (actions.map .act)⟩

end RecordMarking.Endpoint
