import RecordMarking.Proofs.Finishing
import RecordMarking.Proofs.Tracing

/-!
# Iterating is reading again and again

A step of an iterator and a read of one record do the same to a source. They come to different
results in two cases only: where the source ends before the first octet of a record, the step ends
the iteration, and exhaustion that the source reports does not look like the end of the iteration.
`agrees` says so for every source, and `exists_lists` for the list of everything that an iterator
gives. `iteration_repeats_reading` adds what becomes of the iterator itself.
-/

namespace RecordMarking

namespace Source

/-- The source ends before the first octet of a record: the first marker cannot be read, and the
fault says that nothing was received. -/
def EndsAtOnce (source : Source) : Prop :=
  ∃ fault, (readMarker.run source).result = .error fault ∧ fault.atOnceEnded = true

/-- What a step of an iterator and a read of one record have in common, and where they differ. -/
structure Agrees (limit : Value) (source : Source) : Prop where
  /-- Both ask for the same numbers of octets. -/
  asked : requests ((nextRecord limit).run source).trace =
    requests ((readRecord limit).run source).trace
  /-- Both leave the same source. -/
  left : ((nextRecord limit).run source).state = ((readRecord limit).run source).state
  /-- A record that is read is the one that the step gives. -/
  given : ∀ record, ((readRecord limit).run source).result = .ok record →
    ((nextRecord limit).run source).result = .ok (some record)
  /-- Where the source ends before the first octet of a record, reading fails with the fault that
  says so, and the iteration ends. -/
  ended : ∀ fault, (readMarker.run source).result = .error fault → fault.atOnceEnded = true →
    ((readRecord limit).run source).result = .error fault ∧
      ((nextRecord limit).run source).result = .ok none
  /-- Exhaustion is only reported by the source itself, and the step turns it into a fault of its
  own. -/
  exhausted : ∀ fault, ((readRecord limit).run source).result = .error fault →
    fault.isExhaustion = true →
    .error fault ∈ (source.converse (requests ((readRecord limit).run source).trace)).1 ∧
      ((nextRecord limit).run source).result = .error .exhaustedInside
  /-- Every other fault of reading is the fault of the step. -/
  failed : ∀ fault, ((readRecord limit).run source).result = .error fault → ¬ source.EndsAtOnce →
    fault.isExhaustion = false →
    ((nextRecord limit).run source).result = .error fault

/-- Unless the source ends at once, a step runs as a read does. It gives the record that is read,
and passes faults on as iterators do. -/
theorem run_nextRecord_of_going (limit : Value) {source : Source} (going : ¬ source.EndsAtOnce) :
    (nextRecord limit).run source =
      ⟨(((readRecord limit).run source).result.map some).mapError Fault.insideIterator,
        ((readRecord limit).run source).trace, ((readRecord limit).run source).state⟩ := by
  match read : (readRecord limit).run source with
  | ⟨.ok record, trace, rest⟩ => exact run_nextRecord_of_ok read
  | ⟨.error fault, trace, rest⟩ =>
    refine run_nextRecord_of_error read ?_
    intro first requests between ran
    cases atOnce : first.atOnceEnded with
    | false => rfl
    | true => exact absurd ⟨first, by rw [ran], atOnce⟩ going

/-- Where a source ends at once, reading fails with the fault that says so, and the iteration ends.
-/
theorem EndsAtOnce.exists_run (limit : Value) {source : Source} (ends : source.EndsAtOnce) :
    ∃ fault trace rest,
      (readMarker.run source).result = .error fault ∧ fault.atOnceEnded = true ∧
        (readRecord limit).run source = ⟨.error fault, trace, rest⟩ ∧
        (nextRecord limit).run source = ⟨.ok none, trace ++ [.notice .streamEnded], rest⟩ := by
  obtain ⟨fault, failed, nothing⟩ := ends
  match ran : readMarker.run source with
  | ⟨result, trace, rest⟩ =>
    rw [ran] at failed
    obtain rfl : result = .error fault := failed
    exact ⟨fault, trace, rest, rfl, nothing, Activity.run_bind_error ran,
      run_nextRecord_of_ended ran nothing⟩

/-- A fault that says that a source ended is no report of exhaustion. -/
theorem isExhaustion_of_atOnceEnded {fault : Fault} (atOnce : fault.atOnceEnded = true) :
    fault.isExhaustion = false := by
  induction fault with
  | shortRead => rfl
  | raisedFrom fault cause inductionHypothesis _ => exact inductionHypothesis atOnce
  | _ => cases atOnce

/-- A step of an iterator agrees with a read of one record. -/
theorem agrees (limit : Value) (source : Source) : Agrees limit source := by
  by_cases atOnce : source.EndsAtOnce
  · obtain ⟨fault, trace, rest, marker, nothing, read, step⟩ := atOnce.exists_run limit
    refine ⟨?_, ?_, ?_, ?_, ?_, ?_⟩
    · rw [step, read, requests_append]
      exact List.append_nil _
    · rw [step, read]
    · intro record given
      rw [read] at given
      cases given
    · intro other failed _
      rw [marker] at failed
      rw [read, step, Except.error.inj failed]
      exact ⟨rfl, rfl⟩
    · intro other failed exhausted
      rw [read] at failed
      rw [← Except.error.inj failed, isExhaustion_of_atOnceEnded nothing] at exhausted
      cases exhausted
    · intro other failed going
      exact absurd atOnce going
  · have step := run_nextRecord_of_going limit atOnce
    refine ⟨by rw [step], by rw [step], ?_, ?_, ?_, ?_⟩
    · intro record given
      rw [step, given]
      rfl
    · intro fault failed nothing
      exact absurd ⟨fault, failed, nothing⟩ atOnce
    · intro fault failed exhausted
      refine ⟨(traced_readRecord source limit).heard fault failed exhausted, ?_⟩
      rw [step, failed]
      exact congrArg Except.error (if_pos exhausted)
    · intro fault failed _ passedOn
      rw [step, failed]
      exact congrArg Except.error (Fault.insideIterator_of_not_exhausted passedOn)

/-- A source that fails with no report of exhaustion. -/
def NeverExhausted (source : Source) : Prop :=
  ∀ fault, .fault fault ∈ source → fault.isExhaustion = false

/-- Reading again and again gives these records, with these requests, and leaves this source. -/
inductive Reads (limit : Value) : Source → List Octets → List Nat → Source → Prop where
  | nothing (source : Source) : Reads limit source [] [] source
  | record {source rest last : Source} {record : Octets} {trace : List Event}
    {later : List Octets} {asked : List Nat}
    (read : (readRecord limit).run source = ⟨.ok record, trace, rest⟩)
    (others : Reads limit rest later asked last) :
    Reads limit source (record :: later) (requests trace ++ asked) last

/-- Repeated reads leave the source behind their requests. -/
theorem Reads.left {limit : Value} {source last : Source} {records : List Octets}
    {asked : List Nat} (reads : Reads limit source records asked last) :
    (source.converse asked).2 = last := by
  induction reads with
  | nothing source => rfl
  | @record source rest last record trace later asked read others inductionHypothesis =>
    have first := (traced_readRecord source limit).left
    rw [read] at first
    rw [converse_append, first]
    exact inductionHypothesis

/-- The list of everything that an iterator gives, compared with reading again and again until a
read fails. -/
structure Lists (limit : Value) (source last : Source) (records : List Octets) (asked : List Nat)
    (fault : Fault) : Prop where
  reads : Reads limit source records asked last
  failing : ((readRecord limit).run last).result = .error fault
  /-- The list asks for what the reads ask for, the failing one included. -/
  requests_eq : requests (readAll limit source).trace =
    asked ++ requests ((readRecord limit).run last).trace
  /-- The list leaves the source where the failing read does. -/
  left : (readAll limit source).state = ((readRecord limit).run last).state
  /-- Where the source ends between two records, the list is complete. -/
  complete : last.EndsAtOnce → (readAll limit source).result = .ok records
  /-- Elsewhere the list fails as the failing read does, but for a report of exhaustion. -/
  fails : ¬ last.EndsAtOnce → (readAll limit source).result = .error fault.insideIterator

/-- A record in front is read first. -/
theorem Lists.cons {limit : Value} {source rest last : Source} {record : Octets}
    {trace : List Event} {records : List Octets} {asked : List Nat} {fault : Fault}
    (read : (readRecord limit).run source = ⟨.ok record, trace, rest⟩)
    (lists : Lists limit rest last records asked fault) :
    Lists limit source last (record :: records) (requests trace ++ asked) fault := by
  have all := readAll_of_record (run_nextRecord_of_ok read)
  refine ⟨.record read lists.reads, lists.failing, ?_, ?_, ?_, ?_⟩
  · rw [all, requests_append, lists.requests_eq, List.append_assoc]
  · rw [all]
    exact lists.left
  · intro ends
    rw [all, lists.complete ends]
    rfl
  · intro going
    rw [all, lists.fails going]
    rfl

/-- The list of everything is made of repeated reads. -/
theorem exists_lists (limit : Value) (source : Source) :
    ∃ records asked last fault, Lists limit source last records asked fault := by
  -- A record that is read takes octets away, which carries the induction.
  induction unread : source.unread using Nat.strongRecOn generalizing source with
  | ind size inductionHypothesis =>
    have agrees := agrees limit source
    match read : (readRecord limit).run source with
    | ⟨.ok record, trace, rest⟩ =>
      have less : rest.unread < size := unread ▸ unread_nextRecord_lt (run_nextRecord_of_ok read)
      obtain ⟨records, asked, last, fault, lists⟩ := inductionHypothesis _ less rest rfl
      exact ⟨_, _, _, _, lists.cons read⟩
    | ⟨.error fault, trace, rest⟩ =>
      have failing : ((readRecord limit).run source).result = .error fault := by rw [read]
      by_cases atOnce : source.EndsAtOnce
      · obtain ⟨_, requests, middle, -, -, -, step⟩ := atOnce.exists_run limit
        have all := readAll_of_end step
        refine ⟨[], [], source, fault, .nothing source, failing, ?_, ?_, ?_, ?_⟩
        · rw [all, ← agrees.asked, step]
          rfl
        · rw [all, ← agrees.left, step]
        · intro _
          rw [all]
        · intro going
          exact absurd atOnce going
      · have step := run_nextRecord_of_going limit atOnce
        rw [read] at step
        have all : readAll limit source = ⟨.error fault.insideIterator, trace, rest⟩ :=
          readAll_of_error step
        refine ⟨[], [], source, fault, .nothing source, failing, ?_, ?_, ?_, ?_⟩
        · rw [all, read]
          rfl
        · rw [all, read]
        · intro ends
          exact absurd ends atOnce
        · intro _
          rw [all]

/-- A source that reports no exhaustion is read without such a report. -/
theorem Lists.fails_of_neverExhausted {limit : Value} {source last : Source}
    {records : List Octets} {asked : List Nat} {fault : Fault}
    (lists : Lists limit source last records asked fault) (never : source.NeverExhausted)
    (going : ¬ last.EndsAtOnce) : (readAll limit source).result = .error fault := by
  rw [lists.fails going]
  refine congrArg Except.error (Fault.insideIterator_of_not_exhausted ?_)
  apply Bool.eq_false_iff.2
  intro exhausted
  have heard := (traced_readRecord last limit).heard _ lists.failing exhausted
  have held := (fault_mem_of_converse _ last _).1 heard
  rw [← lists.reads.left] at held
  rw [never _ ((fault_mem_of_converse asked source _).2 held)] at exhausted
  cases exhausted

end Source

/-- Iterating is reading again and again. A step of an iterator agrees with a read of one record,
the list of everything that an iterator gives is made of repeated reads up to the first that fails,
and an iterator that has ended, failed or been closed asks its source for nothing any more, whatever
is done before it is tried again. -/
theorem iteration_repeats_reading :
    (∀ limit source, Source.Agrees limit source) ∧
    (∀ limit source, ∃ records asked last fault,
      Source.Lists limit source last records asked fault ∧
        (source.NeverExhausted → ¬ last.EndsAtOnce →
          (Source.readAll limit source).result = .error fault)) ∧
    (∀ (session : Session) name iterator, session.iterators.find? name = some iterator →
      iterator.finished = false → session.Works name iterator) ∧
    ∀ (session : Session) name commands, session.Finished name →
      (∀ command ∈ commands, ¬ Command.Creates name command) →
      (Session.after commands session).Spent name := by
  refine ⟨Source.agrees, ?_, ?_, ?_⟩
  · intro limit source
    obtain ⟨records, asked, last, fault, lists⟩ := Source.exists_lists limit source
    exact ⟨records, asked, last, fault, lists, lists.fails_of_neverExhausted⟩
  · intro session name iterator listed live
    exact Session.works_of_live listed live
  · intro session name commands finished others
    exact (Session.finished_after others finished).spent

/-- An iterator gives a record, fails when its connection is reset within the next marker, as
reading does there, and asks for nothing when more arrives. -/
theorem iteration_repeats_reading_until_reset :
    let reset : Fault := .reported (.system .connectionReset) []
    let source : Source := [.data [128, 0, 0, 1, 97], .data [128, 0], .fault reset]
    let begun : Session := Session.after
      [.createIterator "records" "input" (.own (.integer 16))] (.start [("input", source)] [])
    let first := (Session.perform (.next "records")).run begun
    let second := (Session.perform (.next "records")).run first.state
    first.result = .ok (.octets [97]) ∧
      ((Source.readRecord (.integer 16)).run [.data [128, 0], .fault reset]).result =
        .error reset ∧
      ((Source.nextRecord (.integer 16)).run [.data [128, 0], .fault reset]).result =
        .error reset ∧
      second.result = .error reset ∧ second.state.Finished "records" ∧
      (Session.after [.feed "input" [.data [128, 0, 0, 1, 98]]] second.state).Spent "records" ∧
      (Source.readAll (.integer 16) source).result = .error reset := by
  intro reset source begun first second
  obtain ⟨agrees, -, works, spent⟩ := iteration_repeats_reading
  have listed : begun.iterators.find? "records" = some ⟨0, "input", false⟩ := by decide +kernel
  have again : first.state.iterators.find? "records" = some ⟨0, "input", false⟩ := by
    decide +kernel
  have present : begun.sources.find? "input" = some source := by decide +kernel
  have left : first.state.sources.find? "input" = some [.data [128, 0], .fault reset] := by
    decide +kernel
  obtain ⟨-, -, gives, -, -⟩ := (works begun _ _ listed rfl).steps _ present
  obtain ⟨-, -, -, -, fails⟩ := (works first.state _ _ again rfl).steps _ left
  have torn : ((Source.readRecord (.integer 16)).run [.data [128, 0], .fault reset]).result =
      .error reset := by decide +kernel
  have going : ¬ Source.EndsAtOnce [.data [128, 0], .fault reset] := by
    rintro ⟨fault, failed, atOnce⟩
    have failing : (Source.readMarker.run [.data [128, 0], .fault reset]).result =
        .error reset := by decide +kernel
    rw [← Except.error.inj (failing.symm.trans failed)] at atOnce
    cases atOnce
  have stepping := (agrees (.integer 16) [.data [128, 0], .fault reset]).failed reset torn going rfl
  have limited : first.state.limitAt ⟨0, "input", false⟩ = .integer 16 := by decide +kernel
  rw [limited] at fails
  obtain ⟨failed, finished⟩ := fails reset stepping
  refine ⟨gives [97] (by decide +kernel), torn, stepping, failed, finished,
    spent _ _ _ finished (by simp [Command.Creates]), by decide +kernel⟩

end RecordMarking
