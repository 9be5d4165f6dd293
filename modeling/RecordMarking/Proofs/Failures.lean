import RecordMarking.Proofs.Conversation
import RecordMarking.Proofs.Iteration

/-!
# Failures of a source

A source may fail at any of its reads, with any fault. `heard` lists what it answers while markers
and accepted payloads are read. Among these answers a failure is always the last one, and the reader
fails with it: `Hears` says so of a single run, is closed under sequencing, and holds of every
activity that a reader is made of.

An iterator passes failures on in the same way, with one exception (`failures_surface`). It takes a
fault that says that nothing was received for the end of the source, also if it is the source that
failed with it and if a part of the marker had been received (`failure_ends_iteration`).
-/

namespace RecordMarking

/-- Whether an event says that a fragment is read away from here on. -/
def Event.discards : Event → Bool
  | .notice (.discarding ..) => true
  | _ => false

namespace Source

/-- Events of which none says that a fragment is read away. -/
def Undiscarded (trace : List Event) : Prop :=
  ∀ event ∈ trace, event.discards = false

/-- The requests for markers and for the payloads of accepted fragments: those made before a
fragment is read away, after which a reader fails. -/
def intake (trace : List Event) : List Nat :=
  requests (trace.takeWhile fun event => !event.discards)

theorem Undiscarded.append {earlier later : List Event} (first : Undiscarded earlier)
    (second : Undiscarded later) : Undiscarded (earlier ++ later) := by
  intro event among
  cases List.mem_append.1 among with
  | inl before => exact first event before
  | inr behind => exact second event behind

theorem intake_append {earlier : List Event} (undiscarded : Undiscarded earlier)
    (later : List Event) : intake (earlier ++ later) = requests earlier ++ intake later := by
  have kept : ∀ event ∈ earlier, (!event.discards) = true := by
    intro event among
    rw [undiscarded event among]
    rfl
  rw [intake, List.takeWhile_append_of_pos kept, requests_append, intake]

theorem intake_eq_requests {trace : List Event} (undiscarded : Undiscarded trace) :
    intake trace = requests trace := by
  have whole := intake_append undiscarded []
  rw [List.append_nil] at whole
  rw [whole]
  exact List.append_nil _

theorem undiscarded_pull (portion : Nat → Nat) (missing : Nat) (source : Source) :
    Undiscarded (source.pull portion missing).trace := by
  intro event among
  obtain ⟨count, rfl⟩ := exists_request_of_mem_pull among
  rfl

/-- What a source answers while an activity reads markers and accepted payloads. -/
def heard {Result : Type} (activity : Activity Source Result) (source : Source) : List Answer :=
  (source.converse (intake (activity.run source).trace)).1

/-- A run that hears octets in these parts, and then this ending, while it reads markers and
accepted payloads. It fails with the failure that it hears, and succeeds only if it hears none and
reads nothing away. -/
structure Hears {Result : Type} (source : Source) (outcome : Outcome Source Result)
    (parts : List Octets) (ending : Ending) : Prop where
  answers : (source.converse (intake outcome.trace)).1 = deliveries parts ++ ending.answers
  filled : ∀ part ∈ parts, part ≠ []
  failed : ∀ fault, ending = .failed fault → outcome.result = .error fault
  succeeded : ∀ value, outcome.result = .ok value → ending = .complete ∧
    Undiscarded outcome.trace ∧ (source.converse (requests outcome.trace)).2 = outcome.state

namespace Hears

variable {Result First Second : Type} {source middle : Source} {parts later : List Octets}
  {ending : Ending}

/-- A run that asks for nothing hears nothing. -/
theorem of_silent {outcome : Outcome Source Result} (silent : intake outcome.trace = [])
    (kept : ∀ value, outcome.result = .ok value → Undiscarded outcome.trace ∧
      outcome.state = source) : Hears source outcome [] .complete where
  answers := by
    rw [silent]
    rfl
  filled := by simp
  failed := by
    intro fault impossible
    cases impossible
  succeeded := by
    intro value returned
    obtain ⟨undiscarded, same⟩ := kept value returned
    refine ⟨rfl, undiscarded, ?_⟩
    rw [← intake_eq_requests undiscarded, silent, same]
    rfl

/-- A run that fails is heard alike whatever it would have returned. -/
theorem recast {fault : Fault} {trace : List Event}
    (hears : Hears source (⟨.error fault, trace, middle⟩ : Outcome Source First) parts ending) :
    Hears source (⟨.error fault, trace, middle⟩ : Outcome Source Second) parts ending where
  answers := hears.answers
  filled := hears.filled
  failed := by
    intro other heard
    exact congrArg Except.error (Except.error.inj (hears.failed other heard))
  succeeded := by
    intro value impossible
    cases impossible

/-- What a run hears behind another one that succeeded comes behind what that one heard. -/
theorem after {value : First} {trace : List Event} {firstEnding : Ending}
    {outcome : Outcome Source Second}
    (first : Hears source ⟨.ok value, trace, middle⟩ parts firstEnding)
    (second : Hears middle outcome later ending) :
    Hears source (outcome.after trace) (parts ++ later) ending := by
  obtain ⟨rfl, undiscarded, left⟩ := first.succeeded value rfl
  have answered := first.answers
  rw [intake_eq_requests undiscarded] at answered
  constructor
  · rw [Outcome.trace_after, intake_append undiscarded, converse_append, left, second.answers,
      answered]
    simp [deliveries, Ending.answers]
  · intro part among
    cases List.mem_append.1 among with
    | inl before => exact first.filled part before
    | inr behind => exact second.filled part behind
  · exact second.failed
  · intro next returned
    obtain ⟨complete, quiet, last⟩ := second.succeeded next returned
    refine ⟨complete, undiscarded.append quiet, ?_⟩
    rw [Outcome.trace_after, requests_append, converse_append, left]
    exact last

end Hears

/-- An activity that hears its source. -/
def Attends {Result : Type} (activity : Activity Source Result) : Prop :=
  ∀ source, ∃ parts ending, Hears source (activity.run source) parts ending

theorem hears_conclude {Result : Type} (result : Except Fault Result) (source : Source) :
    Hears source ((Activity.conclude result).run source) [] .complete :=
  .of_silent rfl fun _ _ => ⟨by simp [Undiscarded], rfl⟩

theorem attends_conclude {Result : Type} (result : Except Fault Result) :
    Attends (.conclude result) :=
  fun source => ⟨[], .complete, hears_conclude result source⟩

theorem attends_pure {Result : Type} (value : Result) :
    Attends (pure value : Activity Source Result) :=
  attends_conclude (.ok value)

theorem attends_note {notice : Notice} (other : (Event.notice notice).discards = false) :
    Attends (.note notice) := by
  intro source
  have undiscarded : Undiscarded [.notice notice] := by simpa [Undiscarded] using other
  refine ⟨[], .complete, .of_silent ?_ fun _ _ => ⟨undiscarded, rfl⟩⟩
  exact intake_eq_requests undiscarded

theorem Attends.bind {First Second : Type} {first : Activity Source First}
    {second : First → Activity Source Second} (attendsFirst : Attends first)
    (attendsSecond : ∀ value, Attends (second value)) : Attends (first >>= second) := by
  intro source
  obtain ⟨parts, ending, heard⟩ := attendsFirst source
  match ran : first.run source with
  | ⟨.error fault, trace, middle⟩ =>
    rw [Activity.run_bind_error ran]
    rw [ran] at heard
    exact ⟨parts, ending, heard.recast⟩
  | ⟨.ok value, trace, middle⟩ =>
    rw [Activity.run_bind_ok ran]
    rw [ran] at heard
    obtain ⟨later, last, behind⟩ := attendsSecond value middle
    exact ⟨parts ++ later, last, heard.after behind⟩

/-- All that is observed of an exact read is its pull. -/
theorem trace_receive (size : Value) (count : Nat) (source : Source) :
    ((receive size count).run source).trace = (source.pull id count).trace := by
  simp only [receive]
  split <;> rfl

theorem state_receive (size : Value) (count : Nat) (source : Source) :
    ((receive size count).run source).state = (source.pull id count).rest := by
  simp only [receive]
  split <;> rfl

/-- An exact read hears all that its pull does. -/
theorem hears_receive (size : Value) (count : Nat) (source : Source) :
    ∃ parts : List Octets,
      Hears source ((receive size count).run source) parts (source.pull id count).ending ∧
        parts.flatten = (source.pull id count).octets := by
  obtain ⟨parts, conversed, octets, filled⟩ := converse_pull id count source
  have undiscarded := undiscarded_pull id count source
  refine ⟨parts, ?_, octets⟩
  constructor
  · rw [trace_receive, intake_eq_requests undiscarded, conversed]
  · exact filled
  · intro fault failed
    simp only [receive, failed]
  · intro value returned
    rw [trace_receive, state_receive, conversed]
    refine ⟨?_, undiscarded, rfl⟩
    cases ended : (source.pull id count).ending with
    | complete => rfl
    | exhausted => simp [receive, ended] at returned
    | failed fault => simp [receive, ended] at returned

theorem attends_receive (size : Value) (count : Nat) : Attends (receive size count) := by
  intro source
  obtain ⟨parts, hears, _⟩ := hears_receive size count source
  exact ⟨parts, _, hears⟩

theorem attends_readExactly (size : Value) : Attends (readExactly size) :=
  (attends_conclude _).bind fun _ => attends_receive _ _

theorem attends_readMarker : Attends readMarker :=
  (attends_readExactly _).bind fun _ => attends_conclude _

/-- Reading a payload away hears nothing that counts, and fails. -/
theorem attends_refusePayload (limit : Value) (marker : Marker) :
    Attends (refusePayload limit marker) := by
  intro source
  refine ⟨[], .complete, .of_silent ?_ fun value returned => ?_⟩
  · match drained : (drain (.integer marker.length)).run source with
    | ⟨.ok amount, trace, rest⟩ =>
      simp [refusePayload, bind, Activity.andThen, Activity.note, drained, intake, Event.discards]
    | ⟨.error fault, trace, rest⟩ =>
      simp [refusePayload, bind, Activity.andThen, Activity.note, drained, intake, Event.discards]
  · match drained : (drain (.integer marker.length)).run source with
    | ⟨.ok amount, trace, rest⟩ =>
      simp [refusePayload, bind, Activity.andThen, Activity.note, drained] at returned
    | ⟨.error fault, trace, rest⟩ =>
      simp [refusePayload, bind, Activity.andThen, Activity.note, drained] at returned

theorem attends_readPayload (limit : Value) (marker : Marker) :
    Attends (readPayload limit marker) := by
  unfold readPayload
  split
  · exact (attends_note rfl).bind fun _ => attends_conclude _
  · split
    · exact attends_conclude _
    · exact attends_refusePayload limit marker
    · exact (attends_readExactly _).bind fun _ => (attends_note rfl).bind fun _ => attends_pure _

theorem attends_finish (pieces : List Octets) : Attends (finish pieces) :=
  (attends_note rfl).bind fun _ => attends_pure _

theorem attends_assemble (limit : Value) (marker : Marker) (pieces : List Octets) :
    Attends (assemble limit marker pieces) := by
  intro source
  simp only [assemble]
  fun_induction assembleFrom limit marker pieces source with
  | case1 marker pieces source fault trace rest accepted =>
    obtain ⟨parts, ending, heard⟩ := attends_readPayload limit marker source
    rw [accepted] at heard
    exact ⟨parts, ending, heard⟩
  | case2 marker pieces source payload trace rest accepted last =>
    obtain ⟨parts, ending, heard⟩ := attends_readPayload limit marker source
    rw [accepted] at heard
    obtain ⟨later, lastEnding, finished⟩ := attends_finish (payload :: pieces) rest
    exact ⟨parts ++ later, lastEnding, heard.after finished⟩
  | case3 marker pieces source payload trace rest accepted notLast fault more last announced =>
    obtain ⟨parts, ending, heard⟩ := attends_readPayload limit marker source
    rw [accepted] at heard
    obtain ⟨later, lastEnding, failed⟩ := attends_readMarker rest
    rw [announced] at failed
    exact ⟨parts ++ later, lastEnding, heard.after failed.recast⟩
  | case4 marker pieces source payload trace rest accepted notLast next more last announced
      inductionHypothesis =>
    obtain ⟨parts, ending, heard⟩ := attends_readPayload limit marker source
    rw [accepted] at heard
    obtain ⟨later, middleEnding, announcedHeard⟩ := attends_readMarker rest
    rw [announced] at announcedHeard
    obtain ⟨behind, lastEnding, assembled⟩ := inductionHypothesis
    rw [← Outcome.after_after]
    exact ⟨parts ++ (later ++ behind), lastEnding, heard.after (announcedHeard.after assembled)⟩

theorem attends_readRecord (limit : Value) : Attends (readRecord limit) :=
  attends_readMarker.bind fun marker => attends_assemble limit marker []

/-- A marker is read from as many octets as it takes. If it is not, the source reported its end or
failed before there were so many. -/
theorem readMarker_cases (source : Source) :
    ∃ parts : List Octets, Undiscarded (readMarker.run source).trace ∧
      ((Hears source (readMarker.run source) parts .complete ∧
          Marker.size ≤ parts.flatten.length ∧
          ∀ fault, (readMarker.run source).result = .error fault → fault = .malformedMarker) ∨
        (Hears source (readMarker.run source) parts .exhausted ∧
          parts.flatten.length < Marker.size ∧
          (readMarker.run source).result =
            .error (.shortRead (.integer parts.flatten.length) (.integer Marker.size))) ∨
        ∃ fault, Hears source (readMarker.run source) parts (.failed fault) ∧
          parts.flatten.length < Marker.size) := by
  obtain ⟨parts, hears, octets⟩ := hears_receive (.integer Marker.size) Marker.size source
  have undiscarded := undiscarded_pull id Marker.size source
  have begun : (readExactly (.integer Marker.size)).run source =
      (receive (.integer Marker.size) Marker.size).run source := rfl
  refine ⟨parts, ?_⟩
  match ended : (source.pull id Marker.size).ending with
  | .complete =>
    have enough := le_length_octets_pull ended
    have received : (receive (.integer Marker.size) Marker.size).run source =
        ⟨.ok (source.pull id Marker.size).octets, (source.pull id Marker.size).trace,
          (source.pull id Marker.size).rest⟩ := by
      simp only [receive, ended]
    rw [received, ended] at hears
    have concluded := hears.after (hears_conclude (markerIn (source.pull id Marker.size).octets) _)
    rw [List.append_nil] at concluded
    rw [readMarker, Activity.run_bind_ok (begun.trans received)]
    refine ⟨by simpa using undiscarded, .inl ⟨concluded, octets ▸ enough, fun fault refused => ?_⟩⟩
    simp only [Outcome.result_after, Activity.run_conclude, markerIn] at refused
    split at refused
    · cases refused
    · exact (Except.error.inj refused).symm
  | .exhausted =>
    have received : (receive (.integer Marker.size) Marker.size).run source =
        ⟨.error (.shortRead (.integer (source.pull id Marker.size).octets.length)
          (.integer Marker.size)), (source.pull id Marker.size).trace,
          (source.pull id Marker.size).rest⟩ := by
      simp only [receive, ended]
    have short : (source.pull id Marker.size).octets.length < Marker.size :=
      length_octets_pull_lt (by simp [ended])
    rw [received, ended] at hears
    rw [readMarker, Activity.run_bind_error (begun.trans received), octets]
    exact ⟨undiscarded, .inr (.inl ⟨hears.recast, short, rfl⟩)⟩
  | .failed fault =>
    have received : (receive (.integer Marker.size) Marker.size).run source =
        ⟨.error fault, (source.pull id Marker.size).trace,
          (source.pull id Marker.size).rest⟩ := by
      simp only [receive, ended]
    have short : (source.pull id Marker.size).octets.length < Marker.size :=
      length_octets_pull_lt (by simp [ended])
    rw [received, ended] at hears
    rw [readMarker, Activity.run_bind_error (begun.trans received), octets]
    exact ⟨undiscarded, .inr (.inr ⟨fault, hears.recast, short⟩)⟩

/-- The octets that answers deliver. -/
def received (answers : List Answer) : Octets :=
  answers.flatMap fun answer => answer.toOption.getD []

/-- The answers say that the source has ended before the first octet of a record. -/
def EndedBetweenRecords (answers : List Answer) : Prop :=
  .ok [] ∈ answers ∧ received answers = []

/-- The answers are those of a source that fails before a whole marker is there, and fails in the
way in which readers report a source that ended before it delivered anything. -/
def FailedAsIfEnded (answers : List Answer) : Prop :=
  ∃ fault, .error fault ∈ answers ∧ fault.atOnceEnded = true ∧
    (received answers).length < Marker.size

section Answers

variable {parts : List Octets} {ending : Ending}

@[simp] theorem received_deliveries_append (parts : List Octets) (ending : Ending) :
    received (deliveries parts ++ ending.answers) = parts.flatten := by
  have nothing : ending.answers.flatMap (fun answer => answer.toOption.getD []) = [] := by
    cases ending <;> rfl
  rw [received, List.flatMap_append, nothing, List.append_nil, deliveries, List.flatMap_map,
    List.flatMap_def]
  exact congrArg List.flatten (List.map_id parts)

theorem error_mem_answers_iff {fault : Fault} :
    .error fault ∈ deliveries parts ++ ending.answers ↔ ending = .failed fault := by
  cases ending with
  | complete | exhausted => simp [Ending.answers]
  | failed other => simp [Ending.answers, eq_comm]

theorem end_mem_answers_iff (filled : ∀ part ∈ parts, part ≠ []) :
    .ok [] ∈ deliveries parts ++ ending.answers ↔ ending = .exhausted := by
  have delivered : (.ok [] : Answer) ∉ deliveries parts := by
    simpa [deliveries] using fun among => filled [] among rfl
  cases ending <;> simp [delivered, Ending.answers]

end Answers

/-- A record that cannot be read because the source failed fails with the failure. -/
theorem result_readRecord_of_failed (limit : Value) (source : Source) {fault : Fault}
    (failed : .error fault ∈ heard (readRecord limit) source) :
    ((readRecord limit).run source).result = .error fault := by
  obtain ⟨parts, ending, hears⟩ := attends_readRecord limit source
  rw [heard, hears.answers, error_mem_answers_iff] at failed
  exact hears.failed fault failed

/-- A reader that is short of octets reports that nothing was received if that is so. -/
theorem atOnceEnded_shortRead_iff (octets : Octets) (size : Value) :
    (Fault.shortRead (.integer octets.length) size).atOnceEnded = true ↔ octets = [] := by
  simp [Fault.atOnceEnded]

/-- An iterator hears what a reader does. Until a whole marker is there it may end cleanly: at the
end of a source that delivered nothing, and by a failure that says so. Later it reports every
failure. -/
theorem nextRecord_cases (limit : Value) (source : Source) :
    ∃ (parts : List Octets) (ending : Ending),
      heard (nextRecord limit) source = deliveries parts ++ ending.answers ∧
      (∀ part ∈ parts, part ≠ []) ∧
      ((Marker.size ≤ parts.flatten.length ∧
          ((nextRecord limit).run source).result ≠ .ok none ∧
          ∀ fault, ending = .failed fault →
            ((nextRecord limit).run source).result = .error fault.insideIterator) ∨
        (ending = .exhausted ∧
          (((nextRecord limit).run source).result = .ok none ↔ parts.flatten = [])) ∨
        ∃ fault, ending = .failed fault ∧ parts.flatten.length < Marker.size ∧
          ((nextRecord limit).run source).result =
            if fault.atOnceEnded then .ok none else .error fault.insideIterator) := by
  obtain ⟨parts, undiscarded, cases⟩ := readMarker_cases source
  match ran : readMarker.run source with
  | ⟨.error fault, trace, rest⟩ =>
    rw [ran] at undiscarded cases
    have same : heard (nextRecord limit) source = (source.converse (intake trace)).1 := by
      rw [heard]
      simp only [nextRecord, ran]
      split
      · rw [intake_append undiscarded, intake_eq_requests undiscarded]
        exact congrArg (fun asked => (source.converse asked).1) (List.append_nil _)
      · rfl
    have result_eq : ((nextRecord limit).run source).result =
        if fault.atOnceEnded then .ok none else .error fault.insideIterator := by
      simp only [nextRecord, ran]
      split <;> rfl
    rw [same, result_eq]
    rcases cases with ⟨hears, enough, malformed⟩ | ⟨hears, short, ended⟩ | ⟨failure, hears, short⟩
    · obtain rfl := malformed fault rfl
      refine ⟨parts, _, hears.answers, hears.filled, .inl ⟨enough, ?_, by simp⟩⟩
      simp [Fault.atOnceEnded]
    · obtain rfl : fault = _ := Except.error.inj ended
      refine ⟨parts, _, hears.answers, hears.filled, .inr (.inl ⟨rfl, ?_⟩)⟩
      have atOnce := atOnceEnded_shortRead_iff parts.flatten (.integer Marker.size)
      split
      · rename_i atEnd
        exact iff_of_true rfl (atOnce.1 atEnd)
      · rename_i delivered
        exact iff_of_false (by simp) fun nothing => delivered (atOnce.2 nothing)
    · obtain rfl : fault = failure := Except.error.inj (hears.failed failure rfl)
      exact ⟨parts, _, hears.answers, hears.filled, .inr (.inr ⟨fault, rfl, short, rfl⟩)⟩
  | ⟨.ok marker, trace, rest⟩ =>
    rw [ran] at undiscarded cases
    rcases cases with ⟨hears, enough, _⟩ | ⟨hears, _, ended⟩ | ⟨failure, hears, _⟩
    · obtain ⟨later, ending, attended⟩ := attends_assemble limit marker [] rest
      have whole := hears.after attended
      have enoughOfAll : Marker.size ≤ (parts ++ later).flatten.length := by
        rw [List.flatten_append, List.length_append]
        omega
      refine ⟨parts ++ later, ending, ?_, whole.filled, .inl ⟨enoughOfAll, ?_, ?_⟩⟩
      · rw [← whole.answers, heard]
        simp only [nextRecord, ran]
        rcases assembled : (assemble limit marker []).run rest with ⟨_ | _, more, last⟩ <;> rfl
      · simp only [nextRecord, ran]
        split <;> simp
      · intro fault failed
        have assembled := attended.failed fault failed
        simp only [nextRecord, ran]
        split
        · rename_i other more last failure
          rw [failure] at assembled
          rw [Except.error.inj assembled]
        · rename_i record more last success
          rw [success] at assembled
          cases assembled
    · cases ended
    · cases hears.failed failure rfl

/-- These records are what so many steps of an iterator give. -/
inductive Yields (limit : Value) : Source → List Octets → Source → Prop where
  | nothing (source : Source) : Yields limit source [] source
  | record {source rest last : Source} {record : Octets} {trace : List Event}
      {later : List Octets}
      (read : (nextRecord limit).run source = ⟨.ok (some record), trace, rest⟩)
      (others : Yields limit rest later last) : Yields limit source (record :: later) last

/-- The step with which an iteration ends, behind those that gave its records. -/
theorem exists_last_step (limit : Value) (source : Source) :
    ∃ last, Yields limit source (iterate limit source).records last ∧
      ((nextRecord limit).run last).result =
        (iterate limit source).ending.map fun _ => none := by
  fun_induction iterate limit source with
  | case1 source fault trace rest read =>
    refine ⟨source, .nothing source, ?_⟩
    rw [read]
    rfl
  | case2 source trace rest read =>
    refine ⟨source, .nothing source, ?_⟩
    rw [read]
    rfl
  | case3 source record trace rest read later inductionHypothesis =>
    obtain ⟨last, others, ended⟩ := inductionHypothesis
    exact ⟨last, .record read others, ended⟩

/-- The answers upon which a step of an iterator ends the iteration. -/
theorem result_nextRecord_eq_none_iff (limit : Value) (source : Source) :
    ((nextRecord limit).run source).result = .ok none ↔
      EndedBetweenRecords (heard (nextRecord limit) source) ∨
        FailedAsIfEnded (heard (nextRecord limit) source) := by
  obtain ⟨parts, ending, answered, filled, cases⟩ := nextRecord_cases limit source
  rw [answered, EndedBetweenRecords, FailedAsIfEnded, received_deliveries_append,
    end_mem_answers_iff filled]
  simp only [error_mem_answers_iff]
  rcases cases with ⟨enough, going, _⟩ | ⟨rfl, ended⟩ | ⟨fault, rfl, short, returned⟩
  · refine iff_of_false going ?_
    rintro (⟨_, nothing⟩ | ⟨fault, _, _, short⟩)
    · rw [nothing] at enough
      cases enough
    · omega
  · simp [ended]
  · rw [returned]
    by_cases atOnce : fault.atOnceEnded = true
    · rw [if_pos atOnce]
      exact iff_of_true rfl (.inr ⟨fault, rfl, atOnce, short⟩)
    · rw [if_neg atOnce]
      refine iff_of_false (by simp) ?_
      rintro (⟨impossible, _⟩ | ⟨other, same, claims, _⟩)
      · cases impossible
      · cases same
        exact atOnce claims

/-- A failure that does not pass for the end is what a step of an iterator fails with. -/
theorem result_nextRecord_of_failed (limit : Value) (source : Source) {fault : Fault}
    (failed : .error fault ∈ heard (nextRecord limit) source)
    (other : ¬ FailedAsIfEnded (heard (nextRecord limit) source)) :
    ((nextRecord limit).run source).result = .error fault.insideIterator := by
  obtain ⟨parts, ending, answered, filled, cases⟩ := nextRecord_cases limit source
  rw [answered, error_mem_answers_iff] at failed
  subst failed
  rcases cases with ⟨_, _, fails⟩ | ⟨impossible, _⟩ | ⟨failure, same, short, returned⟩
  · exact fails fault rfl
  · cases impossible
  · cases same
    rw [returned, if_neg]
    intro atOnce
    refine other ⟨fault, ?_, atOnce, ?_⟩
    · rw [answered, error_mem_answers_iff]
    · rw [answered, received_deliveries_append]
      exact short

/-- A reader fails with every failure of its source that it meets in a marker or an accepted
payload. So does an iterator, except that a fault that says that nothing was received ends the
iteration, if it comes before a whole marker was delivered. Otherwise an iteration ends without a
fault only upon the end of the source between two records. -/
theorem failures_surface (limit : Value) (source : Source) :
    (∀ fault, .error fault ∈ heard (readRecord limit) source →
      ((readRecord limit).run source).result = .error fault) ∧
    (∀ fault, .error fault ∈ heard (nextRecord limit) source →
      fault.isExhaustion = false → ¬ FailedAsIfEnded (heard (nextRecord limit) source) →
      ((nextRecord limit).run source).result = .error fault) ∧
    (((nextRecord limit).run source).result = .ok none ↔
      EndedBetweenRecords (heard (nextRecord limit) source) ∨
        FailedAsIfEnded (heard (nextRecord limit) source)) ∧
    ((iterate limit source).ending = .ok () →
      ∃ last, Yields limit source (iterate limit source).records last ∧
        (EndedBetweenRecords (heard (nextRecord limit) last) ∨
          FailedAsIfEnded (heard (nextRecord limit) last))) := by
  refine ⟨?_, ?_, result_nextRecord_eq_none_iff limit source, ?_⟩
  · intro fault failed
    exact result_readRecord_of_failed limit source failed
  · intro fault failed passedOn notAsIfEnded
    rw [result_nextRecord_of_failed limit source failed notAsIfEnded,
      Fault.insideIterator_of_not_exhausted passedOn]
  · intro ended
    obtain ⟨last, yielded, step⟩ := exists_last_step limit source
    rw [ended] at step
    exact ⟨last, yielded, (result_nextRecord_eq_none_iff limit last).1 step⟩

/-- A connection that is reset within the first marker: the reader and the iterator fail with that.
-/
theorem failures_surface_in_first_marker :
    let reset : Fault := .reported (.system .connectionReset) []
    let source : Source := [.data [0x80, 0], .fault reset]
    ((readRecord (.integer 16)).run source).result = .error reset ∧
      ((nextRecord (.integer 16)).run source).result = .error reset := by
  intro reset source
  obtain ⟨reads, steps, _⟩ := failures_surface (.integer 16) source
  have heardReading : heard (readRecord (.integer 16)) source = [.ok [0x80, 0], .error reset] := by
    decide +kernel
  have heardStepping : heard (nextRecord (.integer 16)) source = [.ok [0x80, 0], .error reset] := by
    decide +kernel
  refine ⟨reads reset (by simp [heardReading]), steps reset (by simp [heardStepping]) rfl ?_⟩
  · rintro ⟨fault, among, claims, _⟩
    obtain rfl : fault = reset := by simpa [heardStepping] using among
    cases claims

/-- The source fails after two octets of a marker, with the fault that readers use for a source that
ended before it delivered anything. A reader fails with it, but an iteration just ends. -/
theorem failure_ends_iteration :
    let claimed : Fault := .shortRead (.integer 0) (.integer 4)
    let source : Source := [.data [0x80, 0], .fault claimed]
    heard (nextRecord (.integer 16)) source = [.ok [0x80, 0], .error claimed] ∧
      ((readRecord (.integer 16)).run source).result = .error claimed ∧
      ((nextRecord (.integer 16)).run source).result = .ok none := by
  decide +kernel

end Source

end RecordMarking
