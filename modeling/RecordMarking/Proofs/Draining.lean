import RecordMarking.Proofs.Failures

/-!
# Reading oversized fragments away

A fragment that is too large is read away before a reader refuses it. `Meets` says that reading a
record comes to the marker of a fragment, behind accepted fragments that do not end the record.
`DrainReport` compares what the reader then reports with what the source answered while the fragment
was read away: how much was received, and what hindered the rest.

`read_reports_drain` says that every oversized fragment that is met is reported truthfully, also by
a source that fails, ends early or delivers more than it is asked for.
-/

namespace RecordMarking

/-- What kept a pull from being complete, if so much was received of the length expected. -/
def Ending.obstacle? (received length : Nat) : Ending → Option Fault
  | .complete => none
  | .exhausted => some (.shortRead (.integer received) (.integer length))
  | .failed fault => some fault

namespace Source

/-- Reading a record comes to this marker, with this trace, and leaves this source behind it. -/
inductive Meets (limit : Value) (source : Source) : List Event → Marker → Source → Prop where
  /-- The first marker of the record. -/
  | first {before : List Event} {marker : Marker} {between : Source}
    (announced : readMarker.run source = ⟨.ok marker, before, between⟩) :
    Meets limit source before marker between
  /-- The marker behind an accepted fragment that is not the last one. -/
  | behind {before accepting announcing : List Event} {earlier marker : Marker}
    {middle rest between : Source} {payload : Octets}
    (met : Meets limit source before earlier middle) (notLast : earlier.last = false)
    (accepted : (readPayload limit earlier).run middle = ⟨.ok payload, accepting, rest⟩)
    (announced : readMarker.run rest = ⟨.ok marker, announcing, between⟩) :
    Meets limit source (before ++ accepting ++ announcing) marker between

/-- No answer delivers more than was asked for. -/
def Measured (asked : List Nat) (answers : List Answer) : Prop :=
  ∀ entry ∈ asked.zip answers, ∀ octets, entry.2 = .ok octets → octets.length ≤ entry.1

section Pull

variable {portion : Nat → Nat} {missing : Nat} {source : Source}

/-- What a read delivers and what it leaves are together the octets that there were. -/
theorem octets_read (count : Nat) (source : Source) :
    source.octets = received [(source.read count).1] ++ (source.read count).2.octets := by
  match source with
  | [] => rfl
  | .data octets :: more =>
    by_cases whole : (octets.drop count).isEmpty = true
    · simp [Source.read, whole, received, Source.octets, Segment.octets, Except.toOption]
    · simp [Source.read, whole, received, Source.octets, Segment.octets, Except.toOption,
        ← List.append_assoc]
  | .surplus octets :: more =>
    simp [Source.read, received, Source.octets, Segment.octets, Except.toOption]
  | .fault fault :: more => rfl

/-- What answers deliver and what they leave are together the octets that there were. -/
theorem octets_converse (asked : List Nat) (source : Source) :
    source.octets = received (source.converse asked).1 ++ (source.converse asked).2.octets := by
  induction asked generalizing source with
  | nil => rfl
  | cons count later inductionHypothesis =>
    calc source.octets
      _ = received [(source.read count).1] ++ (source.read count).2.octets :=
        octets_read count source
      _ = received [(source.read count).1] ++
            (received ((source.read count).2.converse later).1 ++
              ((source.read count).2.converse later).2.octets) := by rw [← inductionHypothesis]
      _ = received (source.converse (count :: later)).1 ++
            (source.converse (count :: later)).2.octets := by simp [received, converse]

/-- A pull that receives no more than it asks for receives no more than is missing. -/
theorem length_octets_pull_le (modest : ∀ missing, portion missing ≤ missing)
    (measured : Measured (requests (source.pull portion missing).trace)
      (source.converse (requests (source.pull portion missing).trace)).1) :
    (source.pull portion missing).octets.length ≤ missing := by
  fun_induction pull portion missing source with
  | case1 | case2 | case3 => exact Nat.zero_le _
  | case4 missing source _ octet more rest read later inductionHypothesis =>
    have asked : requests (.request (portion missing) :: later.trace) =
        portion missing :: requests later.trace := rfl
    rw [asked, converse, read, Measured, List.zip_cons_cons, List.forall_mem_cons] at measured
    obtain ⟨first, others⟩ := measured
    have delivered := first _ rfl
    have received : later.octets.length ≤ missing - (more.length + 1) := inductionHypothesis others
    have part := modest missing
    simp only [List.length_cons, List.length_append] at delivered ⊢
    omega

end Pull

section Meets

variable {limit : Value} {source between : Source} {before : List Event} {marker : Marker}

/-- From a marker that is met, reading goes on with the rest of the record. -/
theorem Meets.run_readRecord (met : Meets limit source before marker between) :
    ∃ pieces, (readRecord limit).run source =
      ((assemble limit marker pieces).run between).after before := by
  induction met with
  | first announced => exact ⟨[], Activity.run_bind_ok announced⟩
  | @behind before accepting announcing earlier marker middle rest between payload met notLast
      accepted announced inductionHypothesis =>
    obtain ⟨pieces, begun⟩ := inductionHypothesis
    refine ⟨payload :: pieces, ?_⟩
    rw [begun, assemble_eq, Activity.run_bind_ok accepted, notLast, if_neg Bool.false_ne_true,
      Activity.run_bind_ok announced, Outcome.after_after, Outcome.after_after, List.append_assoc]

/-- A payload that was read away is refused with what came of that. -/
theorem run_refusePayload_of_ok {drained : Nat × Option Fault} {trace : List Event} {rest : Source}
    (away : (readAway (.integer marker.length) marker.length).run source =
      ⟨.ok drained, trace, rest⟩) :
    (refusePayload limit marker).run source =
      ⟨.error (refusal marker.length limit drained),
        .notice (.discarding marker.length limit) :: trace, rest⟩ := by
  have noted : (Activity.note (.discarding marker.length limit)).run source =
      ⟨.ok (), [.notice (.discarding marker.length limit)], source⟩ := rfl
  rw [refusePayload, Activity.run_bind_ok noted, drain_integer, Int.toNat_natCast,
    Activity.run_bind_ok away]
  simp [Outcome.after]

/-- A fault that ends reading away comes instead of the refusal. -/
theorem run_refusePayload_of_error {fault : Fault} {trace : List Event} {rest : Source}
    (away : (readAway (.integer marker.length) marker.length).run source =
      ⟨.error fault, trace, rest⟩) :
    (refusePayload limit marker).run source =
      ⟨.error fault, .notice (.discarding marker.length limit) :: trace, rest⟩ := by
  have noted : (Activity.note (.discarding marker.length limit)).run source =
      ⟨.ok (), [.notice (.discarding marker.length limit)], source⟩ := rfl
  rw [refusePayload, Activity.run_bind_ok noted, drain_integer, Int.toNat_natCast,
    Activity.run_bind_error away]
  rfl

/-- Unless another fault than one of the system ends it, reading away gives the number of octets
received and the obstacle, and asks for what its pull asks for. -/
theorem run_readAway_of_system {length : Nat} {pulled : Pull}
    (pulling : source.pull (min drainPortion) length = pulled)
    (system : ∀ fault, pulled.ending = .failed fault → fault.isSystem = true) :
    ∃ draining, requests draining = requests pulled.trace ∧
      (readAway (.integer length) length).run source =
        ⟨.ok (pulled.octets.length, pulled.ending.obstacle? pulled.octets.length length),
          draining, pulled.rest⟩ := by
  refine ⟨((readAway (.integer length) length).run source).trace, ?_⟩
  match ended : pulled.ending with
  | .complete => simp [readAway, pulling, ended, Ending.obstacle?]
  | .exhausted => simp [readAway, pulling, ended, Ending.obstacle?, requests, Event.requested?]
  | .failed fault =>
    simp [readAway, pulling, ended, system fault ended, Ending.obstacle?, requests,
      Event.requested?]

/-- A fault other than one of the system ends reading away, and comes out of it. -/
theorem run_readAway_of_foreign {length : Nat} {pulled : Pull}
    (pulling : source.pull (min drainPortion) length = pulled) {fault : Fault}
    (ended : pulled.ending = .failed fault) (foreign : fault.isSystem = false) :
    (readAway (.integer length) length).run source =
      ⟨.error fault, pulled.trace, pulled.rest⟩ := by
  simp [readAway, pulling, ended, foreign]

end Meets

/-- A fault that reports an oversized fragment, with the number of octets that were read away and
with what hindered the rest. -/
structure Reports (length : Nat) (limit : Value) (discarded : Nat) (obstacle : Option Fault)
    (fault : Fault) : Prop where
  /-- Where nothing hindered, nothing is the cause of the report. -/
  unhindered : obstacle = none →
    fault = .fragmentTooLarge (.integer length) limit (.integer discarded)
  /-- What hindered stands in the report, and is what the report is raised from. -/
  hindered : ∀ hindrance, obstacle = some hindrance →
    fault =
      .raisedFrom (.fragmentUndrained (.integer length) limit (.integer discarded) hindrance)
        hindrance
  obstacle_eq : fault.obstacle? = obstacle
  cause_eq : fault.cause? = obstacle
  streamStateUnknown_eq : fault.streamStateUnknown = obstacle.isSome

/-- The refusal of a fragment reports what came of reading it away. -/
theorem reports_refusal (length : Nat) (limit : Value) (discarded : Nat)
    (obstacle : Option Fault) :
    Reports length limit discarded obstacle (refusal length limit (discarded, obstacle)) := by
  cases obstacle with
  | none => exact ⟨fun _ => rfl, by simp, rfl, rfl, rfl⟩
  | some hindrance =>
    refine ⟨by simp, fun other hindered => ?_, rfl, rfl, rfl⟩
    obtain rfl := Option.some.inj hindered
    rfl

/-- What a reader reports of an oversized fragment is what the source answered to these requests,
with which the fragment was read away. -/
structure DrainReport (limit : Value) (length : Nat) (source : Source) (asked : List Nat)
    (answers : List Answer) (outcome : Outcome Source Octets) : Prop where
  /-- The source that the reader leaves is the one behind the answers. -/
  answered : source.converse asked = (answers, outcome.state)
  /-- What was received was taken off the source, and nothing else. -/
  accounted : source.octets = received answers ++ outcome.state.octets
  /-- A failure that is not one of the system is passed on. -/
  passedOn : ∀ fault, .error fault ∈ answers → fault.isSystem = false →
    outcome.result = .error fault
  /-- Otherwise the fragment is reported with the number of octets received, and with what hindered
  the rest: a failure of the system, or the end of the source. -/
  reported : (∀ fault, .error fault ∈ answers → fault.isSystem = true) → ∃ fault obstacle,
    outcome.result = .error fault ∧
      Reports length limit (received answers).length obstacle fault ∧
      (obstacle = none ↔ length ≤ (received answers).length) ∧
      (∀ hindrance, obstacle = some hindrance ↔ .error hindrance ∈ answers ∨
        .ok [] ∈ answers ∧
          hindrance = .shortRead (.integer (received answers).length) (.integer length)) ∧
      (Measured asked answers → (obstacle = none ↔ (received answers).length = length))
  /-- A source that delivers no more than it is asked for delivers no more than the fragment. -/
  bounded : Measured asked answers → (received answers).length ≤ length
  /-- Behind the whole fragment the source is left where the next marker begins. -/
  positioned : (received answers).length = length →
    outcome.state.octets = source.octets.drop length

/-- A report does not depend on what was observed before. -/
theorem DrainReport.after {limit : Value} {length : Nat} {source : Source} {asked : List Nat}
    {answers : List Answer} {outcome : Outcome Source Octets}
    (report : DrainReport limit length source asked answers outcome) (before : List Event) :
    DrainReport limit length source asked answers (outcome.after before) :=
  ⟨report.answered, report.accounted, report.passedOn, report.reported, report.bounded,
    report.positioned⟩

/-- A pull is incomplete exactly if it received less than was missing. -/
theorem ending_pull_eq_complete_iff {portion : Nat → Nat} {missing : Nat} {source : Source} :
    (source.pull portion missing).ending = .complete ↔
      missing ≤ (source.pull portion missing).octets.length := by
  constructor
  · exact le_length_octets_pull
  · intro enough
    apply Classical.byContradiction
    intro incomplete
    exact Nat.not_le_of_lt (length_octets_pull_lt incomplete) enough

/-- The obstacles to a pull are the failure or the end with which its answers end. -/
theorem obstacle?_eq_some_iff {parts : List Octets} (filled : ∀ part ∈ parts, part ≠ [])
    {ending : Ending} {count length : Nat} {hindrance : Fault} :
    ending.obstacle? count length = some hindrance ↔
      .error hindrance ∈ deliveries parts ++ ending.answers ∨
        .ok [] ∈ deliveries parts ++ ending.answers ∧
          hindrance = .shortRead (.integer count) (.integer length) := by
  rw [error_mem_answers_iff, end_mem_answers_iff filled]
  cases ending with
  | complete => simp [Ending.obstacle?]
  | exhausted => simp [Ending.obstacle?, eq_comm]
  | failed fault => simp [Ending.obstacle?]

/-- A report that says what a pull of the fragment came to is truthful. -/
theorem drainReport_of_pull {limit : Value} {length : Nat} {source : Source} {pulled : Pull}
    (pulling : source.pull (min drainPortion) length = pulled) {asked : List Nat}
    {outcome : Outcome Source Octets} (same : asked = requests pulled.trace)
    (left : outcome.state = pulled.rest)
    (passedOn : ∀ fault, pulled.ending = .failed fault → fault.isSystem = false →
      outcome.result = .error fault)
    (reported : (∀ fault, pulled.ending = .failed fault → fault.isSystem = true) →
      outcome.result = .error (refusal length limit
        (pulled.octets.length, pulled.ending.obstacle? pulled.octets.length length))) :
    ∃ answers, DrainReport limit length source asked answers outcome := by
  obtain ⟨parts, conversed, octets, filled⟩ := converse_pull (min drainPortion) length source
  have accounted := octets_converse asked source
  have modest := @length_octets_pull_le (min drainPortion) length source
    fun missing => Nat.min_le_right drainPortion missing
  have complete := @ending_pull_eq_complete_iff (min drainPortion) length source
  have total := received_deliveries_append parts pulled.ending
  rw [pulling] at conversed octets modest complete
  rw [← same, ← left] at conversed
  rw [← same, conversed] at modest
  rw [conversed] at accounted
  rw [octets] at total
  have unhindered : pulled.ending.obstacle? pulled.octets.length length = none ↔
      pulled.ending = .complete := by
    cases pulled.ending <;> simp [Ending.obstacle?]
  refine ⟨_, conversed, accounted, ?_, ?_, ?_, ?_⟩
  · intro fault failed foreign
    exact passedOn fault (error_mem_answers_iff.1 failed) foreign
  · intro system
    rw [total]
    refine ⟨_, _, reported fun fault failed => system fault (error_mem_answers_iff.2 failed),
      reports_refusal length limit _ _, unhindered.trans complete,
      fun _ => obstacle?_eq_some_iff filled, fun measured => ?_⟩
    have bound := modest measured
    rw [unhindered, complete]
    omega
  · intro measured
    rw [total]
    exact modest measured
  · intro whole
    rw [← whole, accounted]
    exact List.drop_left.symm

/-- Refusing a payload reports what came of reading it away. -/
theorem refusePayload_reports_drain (limit : Value) (marker : Marker) (source : Source) :
    ∃ draining answers,
      ((refusePayload limit marker).run source).trace =
          .notice (.discarding marker.length limit) :: draining ∧
        DrainReport limit marker.length source (requests draining) answers
          ((refusePayload limit marker).run source) := by
  obtain ⟨pulled, pulling⟩ :
      ∃ pulled, source.pull (min drainPortion) marker.length = pulled := ⟨_, rfl⟩
  by_cases system : ∀ fault, pulled.ending = .failed fault → fault.isSystem = true
  · obtain ⟨draining, asked, away⟩ := run_readAway_of_system pulling system
    rw [run_refusePayload_of_ok away]
    refine ⟨draining, ?_⟩
    have report := @drainReport_of_pull limit marker.length source pulled pulling _
      ⟨_, .notice (.discarding marker.length limit) :: draining, pulled.rest⟩ asked rfl ?_
      fun _ => rfl
    · exact report.imp fun _ truthful => ⟨rfl, truthful⟩
    · intro fault ended foreign
      rw [system fault ended] at foreign
      cases foreign
  · obtain ⟨failure, ended, foreign⟩ :
        ∃ fault, pulled.ending = .failed fault ∧ fault.isSystem = false := by simpa using system
    rw [run_refusePayload_of_error (run_readAway_of_foreign pulling ended foreign)]
    refine ⟨pulled.trace, ?_⟩
    have report := @drainReport_of_pull limit marker.length source pulled pulling _
      ⟨.error failure, .notice (.discarding marker.length limit) :: pulled.trace, pulled.rest⟩
      rfl rfl ?_ ?_
    · exact report.imp fun _ truthful => ⟨rfl, truthful⟩
    · intro fault failed _
      rw [ended] at failed
      rw [Ending.failed.inj failed]
    · intro contained
      exact absurd contained system

/-- A reader refuses a fragment that is too large with what reading it away comes to. -/
theorem Meets.run_readRecord_of_oversized {limit : Value} {source between : Source}
    {before : List Event} {marker : Marker} (met : Meets limit source before marker between)
    (positive : 1 ≤ marker.length) (exceeds : limit.isReachedBy marker.length = .ok true) :
    (readRecord limit).run source = ((refusePayload limit marker).run between).after before := by
  have refused : readPayload limit marker = refusePayload limit marker := by
    rw [readPayload, if_neg (by omega), exceeds]
  obtain ⟨pieces, begun⟩ := met.run_readRecord
  obtain ⟨fault, trace, rest, ran⟩ : ∃ fault trace rest,
      (refusePayload limit marker).run between = ⟨.error fault, trace, rest⟩ := by
    rcases away : (readAway (.integer marker.length) marker.length).run between with
      ⟨fault | drained, trace, rest⟩
    · exact ⟨_, _, _, run_refusePayload_of_error away⟩
    · exact ⟨_, _, _, run_refusePayload_of_ok away⟩
  rw [begun, assemble_eq, refused, Activity.run_bind_error ran, ran]

/-- Every oversized fragment that reading a record meets is read away, and then reported as the
source answered meanwhile. -/
theorem read_reports_drain {limit : Value} {source between : Source} {before : List Event}
    {marker : Marker} (met : Meets limit source before marker between)
    (positive : 1 ≤ marker.length) (exceeds : limit.isReachedBy marker.length = .ok true) :
    ∃ draining answers,
      ((readRecord limit).run source).trace =
          before ++ .notice (.discarding marker.length limit) :: draining ∧
        DrainReport limit marker.length between (requests draining) answers
          ((readRecord limit).run source) := by
  obtain ⟨draining, answers, trace, report⟩ := refusePayload_reports_drain limit marker between
  rw [met.run_readRecord_of_oversized positive exceeds]
  refine ⟨draining, answers, ?_, report.after before⟩
  rw [Outcome.trace_after, trace]

/-- Behind an accepted fragment, a connection is reset when five of twenty octets were read away. -/
theorem read_reports_drain_until_reset :
    let reset : Fault := .reported (.system .connectionReset) []
    let behind : Source := [.data [1, 2, 3, 4, 5], .fault reset]
    let source : Source := .data [0, 0, 0, 1, 97] :: .data [128, 0, 0, 20] :: behind
    let before : List Event := [.request 4, .request 1, .notice (.fragmentRead 1 false), .request 4]
    Meets (.integer 16) source before ⟨20, true⟩ behind ∧ 1 ≤ 20 ∧
      (Value.integer 16).isReachedBy 20 = .ok true ∧
      (∃ draining answers,
        ((readRecord (.integer 16)).run source).trace =
            before ++ .notice (.discarding 20 (.integer 16)) :: draining ∧
          DrainReport (.integer 16) 20 behind (requests draining) answers
            ((readRecord (.integer 16)).run source)) ∧
      ((readRecord (.integer 16)).run source).result =
        .error
          (.raisedFrom (.fragmentUndrained (.integer 20) (.integer 16) (.integer 5) reset)
            reset) := by
  intro reset behind source before
  have first : readMarker.run source =
      ⟨.ok ⟨1, false⟩, [.request 4], .data [97] :: .data [128, 0, 0, 20] :: behind⟩ := by
    decide +kernel
  have accepted : (readPayload (.integer 16) ⟨1, false⟩).run
        (.data [97] :: .data [128, 0, 0, 20] :: behind) =
      ⟨.ok [97], [.request 1, .notice (.fragmentRead 1 false)],
        .data [128, 0, 0, 20] :: behind⟩ := by
    decide +kernel
  have second : readMarker.run (.data [128, 0, 0, 20] :: behind) =
      ⟨.ok ⟨20, true⟩, [.request 4], behind⟩ := by
    decide +kernel
  have met : Meets (.integer 16) source before ⟨20, true⟩ behind :=
    .behind (.first first) rfl accepted second
  exact ⟨met, by decide, rfl, read_reports_drain met (by decide) rfl, by decide +kernel⟩

end Source

end RecordMarking
