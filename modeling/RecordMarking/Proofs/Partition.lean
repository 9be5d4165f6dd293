import RecordMarking.Proofs.Assembly
import RecordMarking.Proofs.Opening

/-!
# What octets leave in an assembler

`Divides` says, without a limit and without recursion, which complete fragments octets consist of
and what rest is behind them. Since the octets of a fragment are never the beginning of those of
another (`octets_append_inj`), octets divide in one way only (`divides_unique`).

`Retains` says what an assembler makes of such a division: the fragments up to the last flag are
the records it has completed, the fragments behind it are the record it has begun, and the rest
is what it waits with. `exists_retains` says that it does so as long as it refuses no marker.
-/

namespace RecordMarking

/-- A fragment that a marker can announce, with octets or without. -/
def Fragment.Announced (fragment : Fragment) : Prop :=
  fragment.payload.length ≤ Marker.maxLength

/-- Octets are complete fragments, and a rest that does not begin with a complete fragment. -/
structure Divides (octets : Octets) (fragments : List Fragment) (rest : Octets) : Prop where
  octets_eq : octets = fragments.flatMap Fragment.octets ++ rest
  announced : ∀ fragment ∈ fragments, fragment.Announced
  incomplete : ∀ (fragment : Fragment) (behind : Octets),
    fragment.Announced → rest ≠ fragment.octets ++ behind

section Divides

variable {octets rest other : Octets} {fragments others : List Fragment}

/-- Octets begin with one fragment at most. -/
theorem octets_append_inj {first second : Fragment} {behind beyond : Octets}
    (announced : first.Announced) (alsoAnnounced : second.Announced)
    (same : first.octets ++ behind = second.octets ++ beyond) :
    first = second ∧ behind = beyond := by
  rw [Fragment.octets, Fragment.octets, List.append_assoc, List.append_assoc] at same
  obtain ⟨marked, carried⟩ := List.append_inj same rfl
  have marker : first.marker = second.marker := Marker.octets_inj announced alsoAnnounced marked
  have length : first.payload.length = second.payload.length := congrArg Marker.length marker
  have last : first.last = second.last := congrArg Marker.last marker
  obtain ⟨payload, rests⟩ := List.append_inj carried length
  obtain ⟨_, _⟩ := first
  obtain ⟨_, _⟩ := second
  exact ⟨by rw [Fragment.mk.injEq]; exact ⟨payload, last⟩, rests⟩

/-- Octets divide in one way only. -/
theorem divides_unique (first : Divides octets fragments rest)
    (second : Divides octets others other) : fragments = others ∧ rest = other := by
  induction fragments generalizing octets others with
  | nil =>
    obtain ⟨rfl, -, incomplete⟩ := first
    obtain ⟨stands, announced, -⟩ := second
    cases others with
    | nil => exact ⟨rfl, stands⟩
    | cons fragment later =>
      rw [List.flatMap_cons, List.append_assoc] at stands
      exact absurd stands (incomplete fragment _ (announced fragment (by simp)))
  | cons fragment later inductionHypothesis =>
    obtain ⟨rfl, announced, incomplete⟩ := first
    obtain ⟨stands, alsoAnnounced, alsoIncomplete⟩ := second
    rw [List.flatMap_cons, List.append_assoc] at stands
    cases others with
    | nil =>
      exact absurd stands.symm (alsoIncomplete fragment _ (announced fragment (by simp)))
    | cons another more =>
      rw [List.flatMap_cons, List.append_assoc] at stands
      obtain ⟨rfl, behind⟩ := octets_append_inj (announced fragment (by simp))
        (alsoAnnounced another (by simp)) stands
      obtain ⟨rfl, rests⟩ := inductionHypothesis
        ⟨rfl, fun among listed => announced among (by simp [listed]), incomplete⟩
        ⟨behind, fun among listed => alsoAnnounced among (by simp [listed]), alsoIncomplete⟩
      exact ⟨rfl, rests⟩

/-- Where a complete fragment stands, it is accepted or its marker is refused. -/
theorem isFragment_or_rejection?_front {limit : Int} {fragment : Fragment}
    (announced : fragment.Announced) (behind : Octets) :
    (front limit (fragment.octets ++ behind)).isFragment = true ∨
      ∃ reason, (front limit (fragment.octets ++ behind)).rejection? limit = some reason := by
  have fits : fragment.marker.length ≤ Marker.maxLength := announced
  rw [Fragment.octets, List.append_assoc, front_marker fits, Marker.front]
  split
  · exact .inr ⟨_, rfl⟩
  · split
    · exact .inr ⟨_, rfl⟩
    · have there : ¬ (fragment.payload ++ behind).length < fragment.marker.length := by
        simp [Fragment.marker]
      rw [if_neg there]
      exact .inl rfl

/-- The accepted fragments are all the complete ones, if the next marker is not refused. -/
theorem divides_split {limit : Int}
    (kept : (front limit (split limit octets).2).rejection? limit = none) :
    Divides octets (split limit octets).1 (split limit octets).2 := by
  refine ⟨(flatMap_octets_split limit octets).symm, ?_, ?_⟩
  · intro fragment found
    exact (accepted_of_mem_split found).announced
  · intro fragment behind announced stands
    have blocked := blocked_split limit octets
    rw [stands] at kept blocked
    rcases isFragment_or_rejection?_front announced behind with accepted | ⟨reason, refused⟩
    · rw [blocked] at accepted
      simp at accepted
    · rw [kept] at refused
      simp at refused

end Divides

/-- Fragments are those of complete records, and then unfinished ones. -/
theorem exists_groups (fragments : List Fragment) :
    ∃ (groups : List (List Fragment)) (unfinished : List Fragment),
      fragments = groups.flatten ++ unfinished ∧
        (∀ group ∈ groups, Fragment.FormRecord group) ∧ Fragment.Unfinished unfinished := by
  induction fragments with
  | nil => exact ⟨[], [], rfl, by simp, by simp [Fragment.Unfinished]⟩
  | cons fragment later inductionHypothesis =>
    obtain ⟨groups, unfinished, rfl, formed, begun⟩ := inductionHypothesis
    cases last : fragment.last with
    | true =>
      exact ⟨[fragment] :: groups, unfinished, rfl, List.forall_mem_cons.2 ⟨last, formed⟩, begun⟩
    | false =>
      cases groups with
      | nil =>
        exact ⟨[], fragment :: unfinished, rfl, by simp, List.forall_mem_cons.2 ⟨last, begun⟩⟩
      | cons group others =>
        obtain ⟨first, rest⟩ := List.forall_mem_cons.1 formed
        cases group with
        | nil => exact first.elim
        | cons next more =>
          exact ⟨(fragment :: next :: more) :: others, unfinished, rfl,
            List.forall_mem_cons.2 ⟨⟨last, first⟩, rest⟩, begun⟩

namespace Assembler

/-- What octets leave in an assembler, and which records they complete: the octets divide into the
fragments of the groups, unfinished fragments and a rest. -/
structure Retains (octets : Octets) (groups : List (List Fragment)) (unfinished : List Fragment)
    (rest : Octets) (completed : List Octets) (assembler : Assembler) : Prop where
  divides : Divides octets (groups.flatten ++ unfinished) rest
  formed : ∀ group ∈ groups, Fragment.FormRecord group
  begun : Fragment.Unfinished unfinished
  /-- Each group has completed its record. -/
  completed_eq : completed = groups.map Fragment.join
  /-- The unfinished fragments are collected. -/
  collected_eq : assembler.collected = Fragment.join unfinished
  /-- A rest without a marker waits for one. -/
  cutMarker : rest.length < Marker.size →
    assembler.phase = .awaitingMarker ∧ assembler.buffer = rest
  /-- The marker at the beginning of any other rest is taken, and the fragment waited for. -/
  cutPayload : Marker.size ≤ rest.length →
    ∃ marker, marker.length ≤ Marker.maxLength ∧
      assembler.phase = .awaitingFragment marker ∧ rest = marker.octets ++ assembler.buffer

/-- As long as it refuses no marker, an assembler retains what its octets leave. -/
theorem exists_retains {limit : Int} {octets : Octets}
    (kept : (empty.receive octets).refusal? limit = none) :
    ∃ groups unfinished rest,
      Retains octets groups unfinished rest
        (Finding.records (settle limit (empty.receive octets)).1)
        (settle limit (empty.receive octets)).2 := by
  have whole : (empty.receive octets).pending = octets := pending_receive octets empty
  have nothing : (empty.receive octets).collected = [] := rfl
  have records := records_settle limit (empty.receive octets)
  have settled := settle_of_no_refusal kept
  rw [refusal?, whole] at kept
  rw [whole, nothing] at records settled
  obtain ⟨groups, unfinished, parts, formed, begun⟩ := exists_groups (split limit octets).1
  have divides := divides_split kept
  have grouped : regroup [] (split limit octets).1 =
      (groups.map Fragment.join, Fragment.join unfinished) := by
    rw [parts, regroup_append, regroup_flatten formed, regroup_of_unfinished begun]
    simp
  rw [grouped] at records settled
  refine ⟨groups, unfinished, (split limit octets).2, parts ▸ divides, formed, begun, records, ?_,
    ?_, ?_⟩
  · rw [settled, collected_waiting]
  · intro short
    rw [settled, waiting_of_short _ short]
    exact ⟨rfl, rfl⟩
  · intro enough
    rcases short_or_exists_marker (split limit octets).2 with short | ⟨marker, behind, fits, stands⟩
    · omega
    · rw [settled]
      simp only [stands, waiting_marker _ fits]
      exact ⟨marker, fits, rfl, rfl⟩

end Assembler

end RecordMarking
