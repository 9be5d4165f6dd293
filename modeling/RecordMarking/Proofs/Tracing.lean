import RecordMarking.Proofs.Conversation
import RecordMarking.Proofs.Failures

/-!
# Where the faults of reading come from

A reader leaves its source where its requests have brought it, and it never reports exhaustion on
its own: such a fault is one that the source has answered. `Traced` says both of a single
run. It is closed under sequencing and holds of every activity that a reader is made of.
-/

namespace RecordMarking.Source

/-- The state that a run leaves is that of the source behind its requests, and exhaustion with which
the run fails is what the source answered. -/
structure Traced {Result : Type} (source : Source) (outcome : Outcome Source Result) : Prop where
  left : (source.converse (requests outcome.trace)).2 = outcome.state
  heard : ∀ fault, outcome.result = .error fault → fault.isExhaustion = true →
    .error fault ∈ (source.converse (requests outcome.trace)).1

namespace Traced

variable {First Second : Type} {source middle : Source}

/-- A run that asks for nothing and fails, if it does, with a fault of its own. -/
theorem of_silent {outcome : Outcome Source First} (silent : requests outcome.trace = [])
    (kept : outcome.state = source)
    (own : ∀ fault, outcome.result = .error fault → fault.isExhaustion = false) :
    Traced source outcome where
  left := by
    rw [silent, kept]
    rfl
  heard := fun fault failed exhausted => absurd exhausted (by simp [own fault failed])

/-- A run that failed is traced alike whatever it would have returned. -/
theorem recast {fault : Fault} {trace : List Event}
    (traced : Traced source (⟨.error fault, trace, middle⟩ : Outcome Source First)) :
    Traced source (⟨.error fault, trace, middle⟩ : Outcome Source Second) where
  left := traced.left
  heard := by
    intro other failed exhausted
    exact traced.heard other (congrArg Except.error (Except.error.inj failed)) exhausted

/-- Runs one behind the other are traced together. -/
theorem after {value : First} {trace : List Event} {outcome : Outcome Source Second}
    (first : Traced source ⟨.ok value, trace, middle⟩) (second : Traced middle outcome) :
    Traced source (outcome.after trace) := by
  have between : (source.converse (requests trace)).2 = middle := first.left
  constructor
  · rw [Outcome.trace_after, requests_append, converse_append, between]
    exact second.left
  · intro fault failed exhausted
    rw [Outcome.trace_after, requests_append, converse_append, between]
    exact List.mem_append_right _ (second.heard fault failed exhausted)

/-- Activities in a row are traced if each of them is. -/
theorem bind {first : Activity Source First} {second : First → Activity Source Second}
    (begun : Traced source (first.run source))
    (continued : ∀ value between, Traced between ((second value).run between)) :
    Traced source ((first >>= second).run source) := by
  match ran : first.run source with
  | ⟨.error fault, trace, middle⟩ =>
    rw [ran] at begun
    rw [Activity.run_bind_error ran]
    exact begun.recast
  | ⟨.ok value, trace, middle⟩ =>
    rw [ran] at begun
    rw [Activity.run_bind_ok ran]
    exact begun.after (continued value middle)

end Traced

section Traced

variable (source : Source)

theorem traced_note (notice : Notice) : Traced source ((Activity.note notice).run source) :=
  .of_silent rfl rfl (by simp [Activity.note])

theorem traced_fail {Result : Type} {fault : Fault} (own : fault.isExhaustion = false) :
    Traced source ((Activity.fail fault : Activity Source Result).run source) := by
  refine .of_silent rfl rfl fun other failed => ?_
  rwa [← Except.error.inj failed]

theorem traced_pure {Result : Type} (value : Result) :
    Traced source ((pure value : Activity Source Result).run source) :=
  .of_silent rfl rfl (by simp)

theorem traced_receive (size : Value) (count : Nat) :
    Traced source ((receive size count).run source) := by
  obtain ⟨parts, conversed, -, -⟩ := converse_pull id count source
  simp only [receive]
  split
  · exact ⟨by rw [conversed], by simp⟩
  · exact ⟨by rw [conversed], by simp [Fault.isExhaustion]⟩
  · rename_i fault ended
    refine ⟨by rw [conversed], ?_⟩
    intro other failed _
    rw [conversed, error_mem_answers_iff, ended, Except.error.inj failed]

theorem traced_readMarker : Traced source (readMarker.run source) := by
  refine (traced_receive source (.integer Marker.size) Marker.size).bind ?_
  intro octets between
  refine .of_silent rfl rfl ?_
  intro fault failed
  rw [Activity.run_conclude, markerIn] at failed
  split at failed
  · cases failed
  · rw [← Except.error.inj failed]
    rfl

theorem traced_readAway (length : Value) (count : Nat) :
    Traced source ((readAway length count).run source) := by
  obtain ⟨parts, conversed, -, -⟩ := converse_pull (min drainPortion) count source
  have noticed : ∀ notice, requests [.notice notice] = [] := fun _ => rfl
  simp only [readAway]
  split
  · exact ⟨by rw [conversed], by simp⟩
  · refine ⟨?_, by simp⟩
    rw [requests_append, noticed, List.append_nil, conversed]
  · rename_i fault ended
    split
    · refine ⟨?_, by simp⟩
      rw [requests_append, noticed, List.append_nil, conversed]
    · refine ⟨by rw [conversed], ?_⟩
      intro other failed _
      rw [conversed, error_mem_answers_iff, ended, Except.error.inj failed]

theorem traced_refusePayload (limit : Value) (marker : Marker) :
    Traced source ((refusePayload limit marker).run source) := by
  refine (traced_note source _).bind fun _ between => ?_
  refine (traced_readAway between (.integer marker.length) marker.length).bind ?_
  rintro ⟨discarded, obstacle⟩ last
  refine traced_fail last ?_
  cases obstacle <;> rfl

theorem traced_acceptPayload (marker : Marker) :
    Traced source ((acceptPayload marker).run source) := by
  refine (traced_receive source (.integer marker.length) marker.length).bind ?_
  intro payload between
  exact (traced_note between _).bind fun _ last => traced_pure last payload

/-- A limit that is no number is a fault of the reader's own. -/
theorem isExhaustion_of_isReachedBy {limit : Value} {length : Nat} {fault : Fault}
    (failed : limit.isReachedBy length = .error fault) : fault.isExhaustion = false := by
  rw [Value.isReachedBy, Value.comparedBy] at failed
  split at failed
  · cases failed
  · rw [← Except.error.inj failed]
    rfl

theorem traced_readPayload (limit : Value) (marker : Marker) :
    Traced source ((readPayload limit marker).run source) := by
  unfold readPayload
  split
  · exact (traced_note source _).bind fun _ between => traced_fail between rfl
  · split
    · rename_i fault failed
      exact traced_fail source (isExhaustion_of_isReachedBy failed)
    · exact traced_refusePayload source limit marker
    · exact traced_acceptPayload source marker

theorem traced_assemble (limit : Value) (marker : Marker) (pieces : List Octets) :
    Traced source ((assemble limit marker pieces).run source) := by
  simp only [assemble]
  fun_induction assembleFrom limit marker pieces source with
  | case1 marker pieces source fault trace rest accepted =>
    have payload := traced_readPayload source limit marker
    rwa [accepted] at payload
  | case2 marker pieces source payload trace rest accepted last =>
    have accepting := traced_readPayload source limit marker
    rw [accepted] at accepting
    have finished : Traced rest ((finish (payload :: pieces)).run rest) :=
      (traced_note rest _).bind fun _ between => traced_pure between _
    exact accepting.after finished
  | case3 marker pieces source payload trace rest accepted notLast fault later last announced =>
    have accepting := traced_readPayload source limit marker
    rw [accepted] at accepting
    have announcing := traced_readMarker rest
    rw [announced] at announcing
    exact accepting.after announcing.recast
  | case4 marker pieces source payload trace rest accepted notLast next later last announced
      inductionHypothesis =>
    have accepting := traced_readPayload source limit marker
    rw [accepted] at accepting
    have announcing := traced_readMarker rest
    rw [announced] at announcing
    rw [← Outcome.after_after]
    exact accepting.after (announcing.after inductionHypothesis)

theorem traced_readRecord (limit : Value) : Traced source ((readRecord limit).run source) :=
  (traced_readMarker source).bind fun marker between => traced_assemble between limit marker []

end Traced

/-- A read of a source leaves no failures but those that there were, and fails with one of them. -/
theorem fault_mem_of_read (count : Nat) (source : Source) (fault : Fault) :
    ((source.read count).1 = .error fault → .fault fault ∈ source) ∧
      (.fault fault ∈ (source.read count).2 → .fault fault ∈ source) := by
  match source with
  | [] => simp [Source.read]
  | .data octets :: more =>
    rw [Source.read]
    split <;> simp +contextual
  | .surplus octets :: more => simp [Source.read]
  | .fault first :: more => simp +contextual [Source.read]

/-- A source answers with no failures but those that it holds, and leaves no others. -/
theorem fault_mem_of_converse (asked : List Nat) (source : Source) (fault : Fault) :
    (.error fault ∈ (source.converse asked).1 → .fault fault ∈ source) ∧
      (.fault fault ∈ (source.converse asked).2 → .fault fault ∈ source) := by
  induction asked generalizing source with
  | nil => exact ⟨(nomatch ·), id⟩
  | cons count later inductionHypothesis =>
    obtain ⟨fails, leaves⟩ := fault_mem_of_read count source fault
    obtain ⟨failsLater, leavesLater⟩ := inductionHypothesis (source.read count).2
    refine ⟨?_, leaves ∘ leavesLater⟩
    intro answered
    cases List.mem_cons.1 answered with
    | inl first => exact fails first.symm
    | inr behind => exact leaves (failsLater behind)

end RecordMarking.Source
