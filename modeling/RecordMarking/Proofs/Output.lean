import RecordMarking.Writer

/-!
# What a sink is given

A sink may take any leading part of what it is offered. `Outputs` says of a run that the sink has
accepted a leading part of given octets, and all of them if the run succeeds. It holds of one write
(`outputs_writeAll`) and is closed under sequencing, and so it holds of both ways to write a record.
Arguments are refused before anything is offered, and the payload of a reply is offered only behind
its whole marker (`accepts_leading_part`).
-/

namespace RecordMarking

/-- The octets that an event offers to a sink. -/
def Event.offered? : Event → Option Octets
  | .offer octets => some octets
  | _ => none

/-- Whether an answer to a write says that just the octets offered were taken. -/
def Acceptance.takes (octets : Octets) : Acceptance → Bool
  | .full | .silent => true
  | .count reported => reported == octets.length
  | .fault _ => false

namespace Sink

variable {octets first second : Octets} {sink : Sink}

/-- What was offered to a sink, write by write. -/
def offers (trace : List Event) : List Octets :=
  trace.filterMap Event.offered?

@[simp] theorem offers_append (earlier later : List Event) :
    offers (earlier ++ later) = offers earlier ++ offers later :=
  List.filterMap_append

/-- How a sink answers its next write. -/
def nextAnswer (sink : Sink) : Acceptance :=
  sink.answers.head?.getD .full

/-- A run after which its sink has accepted a leading part of these octets, and all of them if the
run succeeds. -/
structure Outputs (octets : Octets) (sink : Sink) (outcome : Outcome Sink Unit) : Prop where
  kept : sink.accepted <+: outcome.state.accepted
  leading : outcome.state.accepted <+: sink.accepted ++ octets
  complete : outcome.result = .ok () → outcome.state.accepted = sink.accepted ++ octets

/-- One write changes the sink as the sink answers it, and succeeds if all was taken. -/
theorem run_writeAll (octets : Octets) (sink : Sink) :
    ((writeAll octets).run sink).trace = [.offer octets] ∧
      ((writeAll octets).run sink).state = ((write octets).run sink).state ∧
      (((writeAll octets).run sink).result = .ok () ↔ sink.nextAnswer.takes octets = true) := by
  have wrote : (write octets).run sink = ⟨(answer octets sink.nextAnswer).2, [.offer octets],
      ⟨sink.answers.tail, (answer octets sink.nextAnswer).1 :: sink.taken⟩⟩ := rfl
  cases answered : sink.nextAnswer with
  | full | silent =>
    rw [answered] at wrote
    rw [writeAll, Activity.run_bind_ok wrote, wrote]
    simp [Acceptance.takes]
  | count count =>
    rw [answered] at wrote
    rw [writeAll, Activity.run_bind_ok wrote, wrote]
    by_cases exact : count = octets.length
    · simp [Acceptance.takes, exact]
    · simp [Acceptance.takes, exact]
  | fault fault =>
    rw [answered] at wrote
    rw [writeAll, Activity.run_bind_error wrote, wrote]
    simp [Acceptance.takes]

/-- An answer that says that all was taken is true. -/
theorem answer_of_takes {acceptance : Acceptance} (takes : acceptance.takes octets = true) :
    (answer octets acceptance).1 = octets := by
  cases acceptance with
  | full | silent => rfl
  | count count =>
    have exact : count = octets.length := by simpa [Acceptance.takes] using takes
    simp [answer, exact]
  | fault fault => cases takes

theorem outputs_writeAll (octets : Octets) (sink : Sink) :
    Outputs octets sink ((writeAll octets).run sink) := by
  obtain ⟨_, state_eq, success⟩ := run_writeAll octets sink
  have accepted := accepted_write octets sink
  constructor
  · rw [state_eq, accepted]
    exact List.prefix_append _ _
  · rw [state_eq, accepted, List.prefix_append_right_inj, answer_take]
    exact List.take_prefix _ _
  · intro succeeded
    rw [state_eq, accepted]
    exact congrArg (sink.accepted ++ ·) (answer_of_takes (success.1 succeeded))

theorem outputs_note (notice : Notice) (sink : Sink) :
    Outputs [] sink ((Activity.note notice).run sink) where
  kept := List.prefix_rfl
  leading := List.prefix_append sink.accepted []
  complete := fun _ => (List.append_nil sink.accepted).symm

/-- Activities in a row have the sink accept a leading part of what they write together. -/
theorem Outputs.bind {opening closing : Activity Sink Unit}
    (begun : Outputs first sink (opening.run sink))
    (continued : Outputs second (opening.run sink).state (closing.run (opening.run sink).state)) :
    Outputs (first ++ second) sink ((opening >>= fun _ => closing).run sink) := by
  match ran : opening.run sink with
  | ⟨.error fault, trace, middle⟩ =>
    rw [ran] at begun
    rw [Activity.run_bind_error ran]
    refine ⟨begun.kept, begun.leading.trans ?_, ?_⟩
    · rw [List.prefix_append_right_inj]
      exact List.prefix_append _ _
    · intro impossible
      cases impossible
  | ⟨.ok (), trace, middle⟩ =>
    rw [ran] at begun continued
    have whole := begun.complete rfl
    rw [Activity.run_bind_ok ran]
    constructor
    · exact begun.kept.trans continued.kept
    · rw [← List.append_assoc, ← whole]
      exact continued.leading
    · intro succeeded
      rw [← List.append_assoc, ← whole]
      exact continued.complete succeeded

/-- Octets that are written with a log entry behind them are offered in one write. -/
theorem outputs_writeAll_note (octets : Octets) (notice : Notice) (sink : Sink) :
    Outputs octets sink ((writeAll octets >>= fun _ => Activity.note notice).run sink) ∧
      offers ((writeAll octets >>= fun _ => Activity.note notice).run sink).trace = [octets] := by
  constructor
  · have written := (outputs_writeAll octets sink).bind (outputs_note notice _)
    rwa [List.append_nil] at written
  · obtain ⟨offered, _, _⟩ := run_writeAll octets sink
    match ran : (writeAll octets).run sink with
    | ⟨.error fault, trace, later⟩ =>
      rw [ran] at offered
      rw [Activity.run_bind_error ran]
      exact congrArg offers offered
    | ⟨.ok (), trace, later⟩ =>
      rw [ran] at offered
      rw [Activity.run_bind_ok ran, Outcome.trace_after, offers_append]
      exact congrArg (offers · ++ []) offered

/-- Whether the answers of a sink say that all of these writes were taken. Without an answer of its
own a write is taken. -/
def tookAll : List Acceptance → List Octets → Bool
  | _, [] => true
  | answers, octets :: later =>
    (answers.head?.getD .full).takes octets && tookAll answers.tail later

theorem tookAll_append (answers : List Acceptance) (earlier later : List Octets) :
    tookAll answers (earlier ++ later) =
      (tookAll answers earlier && tookAll (answers.drop earlier.length) later) := by
  induction earlier generalizing answers with
  | nil => rfl
  | cons octets others inductionHypothesis =>
    simp only [List.cons_append, tookAll, inductionHypothesis, Bool.and_assoc, List.length_cons,
      List.drop_tail]

/-- A run whose writes used up the answers of its sink, and that succeeds if all of them were taken
and not otherwise. -/
structure Answered (sink : Sink) (outcome : Outcome Sink Unit) : Prop where
  used : outcome.state.answers = sink.answers.drop (offers outcome.trace).length
  succeeds : outcome.result = .ok () ↔ tookAll sink.answers (offers outcome.trace) = true

theorem answered_writeAll (octets : Octets) (sink : Sink) :
    Answered sink ((writeAll octets).run sink) := by
  obtain ⟨offered, state_eq, success⟩ := run_writeAll octets sink
  have offers_eq : offers ((writeAll octets).run sink).trace = [octets] := congrArg offers offered
  constructor
  · rw [state_eq, offers_eq]
    exact List.drop_one.symm
  · rw [success, offers_eq]
    simp [tookAll, nextAnswer]

theorem answered_note (notice : Notice) (sink : Sink) :
    Answered sink ((Activity.note notice).run sink) :=
  ⟨rfl, iff_of_true rfl rfl⟩

theorem Answered.bind {opening closing : Activity Sink Unit}
    (begun : Answered sink (opening.run sink))
    (continued : Answered (opening.run sink).state (closing.run (opening.run sink).state)) :
    Answered sink ((opening >>= fun _ => closing).run sink) := by
  match ran : opening.run sink with
  | ⟨.error fault, trace, middle⟩ =>
    rw [ran] at begun
    rw [Activity.run_bind_error ran]
    exact ⟨begun.used, iff_of_false (by simp) fun all => by simpa using begun.succeeds.2 all⟩
  | ⟨.ok (), trace, middle⟩ =>
    rw [ran] at begun continued
    have all := begun.succeeds.1 rfl
    have left : middle.answers = sink.answers.drop (offers trace).length := begun.used
    rw [Activity.run_bind_ok ran]
    constructor
    · rw [Outcome.trace_after, offers_append, List.length_append, ← List.drop_drop, ← left]
      exact continued.used
    · rw [Outcome.trace_after, offers_append, tookAll_append, all, Bool.true_and, ← left]
      exact continued.succeeds

/-- A reply that a marker can announce is the marker in one write and the payload in another. -/
theorem writeReply_of_fits {record : Octets} (fits : record.length ≤ Marker.maxLength) :
    writeReply record = (do
      writeAll (⟨record, true⟩ : Fragment).marker.octets
      writeAll record
      .note (.replyWritten record.length)) := by
  have announced : Marker.announce record.length true =
      .ok (⟨record, true⟩ : Fragment).marker := by
    rw [Marker.announce, if_pos ⟨Int.natCast_nonneg record.length, Int.ofNat_le.2 fits⟩]
    rfl
  rw [writeReply, writeMarker_integer, announced]
  rfl

/-- A reply that is too long for a marker is refused before anything is written. -/
theorem run_writeReply_of_too_long {record : Octets} (long : Marker.maxLength < record.length)
    (sink : Sink) : (writeReply record).run sink =
      ⟨.error (.lengthOutOfRange (.integer record.length)), [], sink⟩ := by
  have refused : Marker.announce record.length true =
      .error (.lengthOutOfRange (.integer record.length)) := by
    rw [Marker.announce, if_neg]
    omega
  rw [writeReply, writeMarker_integer, refused]
  rfl

/-- Of a reply the sink accepts a leading part. -/
theorem outputs_writeReply (record : Octets) (sink : Sink) :
    Outputs (⟨record, true⟩ : Fragment).octets sink ((writeReply record).run sink) := by
  by_cases fits : record.length ≤ Marker.maxLength
  · rw [writeReply_of_fits fits]
    exact (outputs_writeAll _ sink).bind (outputs_writeAll_note record _ _).1
  · rw [run_writeReply_of_too_long (by omega)]
    refine ⟨List.prefix_rfl, List.prefix_append _ _, ?_⟩
    intro impossible
    cases impossible

/-- The payload of a reply is offered only behind its whole marker. -/
theorem offers_writeReply {record : Octets} (fits : record.length ≤ Marker.maxLength)
    (sink : Sink) :
    offers ((writeReply record).run sink).trace = [(⟨record, true⟩ : Fragment).marker.octets] ∨
      offers ((writeReply record).run sink).trace =
          [(⟨record, true⟩ : Fragment).marker.octets, record] ∧
        sink.accepted ++ (⟨record, true⟩ : Fragment).marker.octets <+:
          ((writeReply record).run sink).state.accepted := by
  have opening := outputs_writeAll (⟨record, true⟩ : Fragment).marker.octets sink
  obtain ⟨offered, _, _⟩ := run_writeAll (⟨record, true⟩ : Fragment).marker.octets sink
  rw [writeReply_of_fits fits]
  match ran : (writeAll (⟨record, true⟩ : Fragment).marker.octets).run sink with
  | ⟨.error fault, trace, middle⟩ =>
    rw [ran] at offered
    rw [Activity.run_bind_error ran]
    exact .inl (congrArg offers offered)
  | ⟨.ok (), trace, middle⟩ =>
    rw [ran] at opening offered
    have whole := opening.complete rfl
    obtain ⟨payload, payloadOffered⟩ :=
      outputs_writeAll_note record (.replyWritten record.length) middle
    rw [Activity.run_bind_ok ran, Outcome.trace_after, Outcome.state_after, offers_append,
      payloadOffered]
    right
    constructor
    · exact congrArg (offers · ++ [record]) offered
    · rw [← whole]
      exact payload.kept

/-- A reply is written if both writes are taken. -/
theorem answered_writeReply {record : Octets} (fits : record.length ≤ Marker.maxLength)
    (sink : Sink) : Answered sink ((writeReply record).run sink) := by
  rw [writeReply_of_fits fits]
  exact (answered_writeAll _ sink).bind ((answered_writeAll _ _).bind (answered_note _ _))

/-- Of a record in fragments the sink accepts a leading part, all of which is offered at once. -/
theorem outputs_writeRecord {record framed : Octets} {fragmentSize : Value}
    (cut : frame record fragmentSize = .ok framed) (sink : Sink) :
    Outputs framed sink ((writeRecord record fragmentSize).run sink) ∧
      offers ((writeRecord record fragmentSize).run sink).trace = [framed] := by
  rw [writeRecord, cut]
  exact outputs_writeAll_note framed (.recordWritten record.length) sink

/-- A record that cannot be framed is refused before anything is written. -/
theorem run_writeRecord_of_refused {record : Octets} {fragmentSize : Value} {fault : Fault}
    (refused : frame record fragmentSize = .error fault) (sink : Sink) :
    (writeRecord record fragmentSize).run sink = ⟨.error fault, [], sink⟩ := by
  rw [writeRecord, refused]
  rfl

/-- What a sink accepts is always a leading part of the frames of a record or of a reply, and all of
it if writing succeeds. Whatever is refused is refused before anything is written, and the payload
of a reply is offered only if its marker was accepted in full. -/
theorem accepts_leading_part (record : Octets) (fragmentSize : Value) (sink : Sink) :
    (∀ framed, frame record fragmentSize = .ok framed →
      Outputs framed sink ((writeRecord record fragmentSize).run sink) ∧
        offers ((writeRecord record fragmentSize).run sink).trace = [framed]) ∧
    (∀ fault, frame record fragmentSize = .error fault →
      (writeRecord record fragmentSize).run sink = ⟨.error fault, [], sink⟩) ∧
    (∀ size : Int, record = [] ∨ size < 1 ∨ Marker.maxLength < size →
      ∃ fault, (writeRecord record (.integer size)).run sink = ⟨.error fault, [], sink⟩) ∧
    (record.length ≤ Marker.maxLength →
      Outputs (⟨record, true⟩ : Fragment).octets sink ((writeReply record).run sink) ∧
        (offers ((writeReply record).run sink).trace =
            [(⟨record, true⟩ : Fragment).marker.octets] ∨
          offers ((writeReply record).run sink).trace =
              [(⟨record, true⟩ : Fragment).marker.octets, record] ∧
            sink.accepted ++ (⟨record, true⟩ : Fragment).marker.octets <+:
              ((writeReply record).run sink).state.accepted)) ∧
    (Marker.maxLength < record.length →
      (writeReply record).run sink =
        ⟨.error (.lengthOutOfRange (.integer record.length)), [], sink⟩) := by
  refine ⟨?_, ?_, ?_, ?_, ?_⟩
  · intro framed cut
    exact outputs_writeRecord cut sink
  · intro fault refused
    exact run_writeRecord_of_refused refused sink
  · intro size outside
    match refused : frame record (.integer size) with
    | .error fault => exact ⟨fault, run_writeRecord_of_refused refused sink⟩
    | .ok framed =>
      obtain ⟨nonempty, positive, bounded, _⟩ := frame_eq_ok_iff.1 refused
      rcases outside with empty | small | large
      · exact absurd empty nonempty
      · omega
      · omega
  · intro fits
    exact ⟨outputs_writeReply record sink, offers_writeReply fits sink⟩
  · intro long
    exact run_writeReply_of_too_long long sink

/-- A sink that takes the marker of a reply and then two of three octets of its payload, and the
same sink when it is given frames, and arguments that are refused. -/
theorem accepts_leading_part_of_torn_reply :
    let sink := ofAnswers [.full, .count 2]
    let reply := (writeReply [1, 2, 3]).run sink
    let tooLong : Octets := List.replicate (Marker.maxLength + 1) 0
    Outputs [0x80, 0, 0, 3, 1, 2, 3] sink reply ∧
      reply.result = .error (.shortWrite (.integer 2) (.integer 3)) ∧
      reply.state.accepted = [0x80, 0, 0, 3, 1, 2] ∧
      Outputs [0, 0, 0, 2, 1, 2, 0x80, 0, 0, 1, 3] sink
        ((writeRecord [1, 2, 3] (.integer 2)).run sink) ∧
      (writeRecord [] (.integer 2)).run sink = ⟨.error .emptyRecord, [], sink⟩ ∧
      (∃ fault, (writeRecord [1, 2, 3] (.integer 0)).run sink = ⟨.error fault, [], sink⟩) ∧
      (writeReply tooLong).run sink =
        ⟨.error (.lengthOutOfRange (.integer tooLong.length)), [], sink⟩ := by
  intro sink reply tooLong
  have framed : frame [1, 2, 3] (.integer 2) = .ok [0, 0, 0, 2, 1, 2, 0x80, 0, 0, 1, 3] := by
    decide +kernel
  obtain ⟨written, _, outside, replied, _⟩ := accepts_leading_part [1, 2, 3] (.integer 2) sink
  obtain ⟨_, refused, _, _, _⟩ := accepts_leading_part [] (.integer 2) sink
  obtain ⟨_, _, _, _, long⟩ := accepts_leading_part tooLong (.integer 2) sink
  have tooMany : Marker.maxLength < tooLong.length := by
    rw [List.length_replicate]
    exact Nat.lt_succ_self _
  exact ⟨(replied (by decide)).1, by decide +kernel, by decide +kernel, (written _ framed).1,
    refused _ rfl, outside 0 (.inr (.inl (by decide))), long tooMany⟩

end Sink

end RecordMarking
