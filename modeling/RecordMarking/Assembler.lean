import RecordMarking.Marker
import RecordMarking.Notice

/-!
# Assembling records from octets as they arrive

An assembler is the part of an endpoint that turns received octets into records. It holds the
octets that no complete fragment has claimed, the payloads of the fragments of the current
record, and whether it waits for a marker or for the fragment that a marker announced.

`Assembler.advance` takes at most one marker or one fragment. `potential_lt_of_advanced` says
that it always gets on, so that repeating it ends.
-/

namespace RecordMarking

/-- What an assembler waits for. -/
inductive Phase where
  | awaitingMarker
  /-- The fragment that this marker announced. -/
  | awaitingFragment (marker : Marker)
deriving DecidableEq, Repr

/-- Octets received and not consumed, the current record so far, and what comes next. -/
structure Assembler where
  buffer : Octets
  collected : Octets
  phase : Phase
deriving DecidableEq, Repr

namespace Assembler

/-- An assembler that holds nothing and waits for a marker. -/
def empty : Assembler := ⟨[], [], .awaitingMarker⟩

/-- What one step of an assembler comes to. -/
inductive Step where
  /-- More octets have to arrive first. -/
  | starved
  /-- The marker at hand is refused. -/
  | rejected (rejection : Rejection)
  /-- The marker at hand cannot be judged, because its length cannot be compared. -/
  | failed (fault : Fault)
  /-- A marker was accepted, or a fragment that does not end its record was collected. -/
  | advanced (next : Assembler)
  /-- A record is complete. -/
  | completed (record : Octets) (next : Assembler)
deriving DecidableEq, Repr

/-- Add received octets behind those that wait. -/
def receive (octets : Octets) (assembler : Assembler) : Assembler :=
  { assembler with buffer := assembler.buffer ++ octets }

/-- Consume a marker or a fragment, if it is there in full. -/
def advance (limit : Value) (assembler : Assembler) : Step :=
  match assembler.phase with
  | .awaitingMarker =>
    match Marker.ofOctets? (assembler.buffer.take Marker.size) with
    | none => .starved
    | some marker =>
      if marker.length < 1 then .rejected .zeroLength
      else
        match limit.isReachedBy marker.length with
        | .error fault => .failed fault
        | .ok true => .rejected (.tooLarge marker.length limit)
        | .ok false =>
          .advanced
            { assembler with
              buffer := assembler.buffer.drop Marker.size
              phase := .awaitingFragment marker }
  | .awaitingFragment marker =>
    if assembler.buffer.length < marker.length then .starved
    else
      let collected := assembler.collected ++ assembler.buffer.take marker.length
      let buffer := assembler.buffer.drop marker.length
      if marker.last then .completed collected ⟨buffer, [], .awaitingMarker⟩
      else .advanced ⟨buffer, collected, .awaitingMarker⟩

/-- A bound on the number of steps that an assembler can take without further octets. -/
def potential (assembler : Assembler) : Nat :=
  2 * assembler.buffer.length +
    match assembler.phase with
    | .awaitingMarker => 0
    | .awaitingFragment _ => 1

@[simp] theorem potential_empty : empty.potential = 0 := rfl

/-- Receiving adds two for each octet to the bound. -/
theorem potential_receive (octets : Octets) (assembler : Assembler) :
    (assembler.receive octets).potential = assembler.potential + 2 * octets.length := by
  simp only [receive, potential, List.length_append]
  omega

/-- The octets of a marker are four. -/
theorem length_of_ofOctets?_take {buffer : Octets} {marker : Marker}
    (held : Marker.ofOctets? (buffer.take Marker.size) = some marker) :
    Marker.size ≤ buffer.length := by
  obtain ⟨word, written, _⟩ := Option.map_eq_some_iff.1 held
  have length := congrArg List.length (Octets.eq_ofWord_of_toWord? written).1
  simp only [List.length_take, Octets.length_ofWord, Marker.size] at length ⊢
  omega

/-- Every step that gets on lowers the bound. -/
theorem potential_lt_of_advanced {limit : Value} {assembler next : Assembler}
    (step : assembler.advance limit = .advanced next) : next.potential < assembler.potential := by
  obtain ⟨buffer, collected, phase⟩ := assembler
  cases phase with
  | awaitingMarker =>
    simp only [advance] at step
    split at step
    · simp at step
    · rename_i marker held
      have enough := length_of_ofOctets?_take held
      split at step
      · simp at step
      · split at step
        · simp at step
        · simp at step
        · simp only [Step.advanced.injEq] at step
          subst step
          simp only [potential, List.length_drop, Marker.size] at enough ⊢
          omega
  | awaitingFragment marker =>
    simp only [advance] at step
    split at step
    · simp at step
    · split at step
      · simp at step
      · simp only [Step.advanced.injEq] at step
        subst step
        simp only [potential, List.length_drop]
        omega

/-- Completing a record lowers the bound. -/
theorem potential_lt_of_completed {limit : Value} {assembler next : Assembler} {record : Octets}
    (step : assembler.advance limit = .completed record next) :
    next.potential < assembler.potential := by
  obtain ⟨buffer, collected, phase⟩ := assembler
  cases phase with
  | awaitingMarker =>
    simp only [advance] at step
    split at step
    · simp at step
    · split at step
      · simp at step
      · split at step <;> simp at step
  | awaitingFragment marker =>
    simp only [advance] at step
    split at step
    · simp at step
    · split at step
      · simp only [Step.completed.injEq] at step
        obtain ⟨_, rfl⟩ := step
        simp only [potential, List.length_drop]
        omega
      · simp at step

end Assembler

end RecordMarking
