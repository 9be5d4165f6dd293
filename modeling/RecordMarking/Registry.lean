/-!
# Registries

A registry keeps values under names, in the order in which the names were first used.
-/

namespace RecordMarking

/-- Values under names, in the order of first use. -/
abbrev Registry (Entry : Type) := List (String × Entry)

namespace Registry

variable {Entry : Type}

/-- The value under a name. -/
def find? (name : String) : Registry Entry → Option Entry
  | [] => none
  | (used, entry) :: rest => if used = name then some entry else find? name rest

/-- Put a value under a name, in place of the one that was there. -/
def assign (name : String) (entry : Entry) : Registry Entry → Registry Entry
  | [] => [(name, entry)]
  | (used, old) :: rest =>
    if used = name then (used, entry) :: rest else (used, old) :: assign name entry rest

/-- What was put under a name is found there. -/
@[simp] theorem find?_assign_self (name : String) (entry : Entry) (registry : Registry Entry) :
    find? name (assign name entry registry) = some entry := by
  fun_induction assign name entry registry with
  | case1 => simp [find?]
  | case2 => simp [find?]
  | case3 used old rest different inductionHypothesis =>
    simp [find?, different, inductionHypothesis]

/-- Other names keep their values. -/
theorem find?_assign_of_ne {name other : String} (different : other ≠ name) (entry : Entry)
    (registry : Registry Entry) :
    find? other (assign name entry registry) = find? other registry := by
  fun_induction assign name entry registry with
  | case1 => simp [find?, different.symm]
  | case2 old rest => simp [find?, different.symm]
  | case3 used old rest unequal inductionHypothesis => simp [find?, inductionHypothesis]

/-- What holds of all values, and of one more, holds of all values when that one is put under a
name. -/
theorem forall_find?_assign {property : Entry → Prop} {registry : Registry Entry} {entry : Entry}
    (each : ∀ name found, registry.find? name = some found → property found)
    (fine : property entry) (name : String) :
    ∀ other found, (registry.assign name entry).find? other = some found → property found := by
  intro other found listed
  by_cases same : other = name
  · rw [same, find?_assign_self] at listed
    cases listed
    exact fine
  · rw [find?_assign_of_ne same] at listed
    exact each other found listed

end Registry

end RecordMarking
