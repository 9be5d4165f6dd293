import RecordMarking.Proofs.Sharing

/-!
# Finished iterators

In a session an iterator is finished when it has ended, failed or been closed. `finished_after` says
that it stays finished, whatever else is done, unless another iterator takes its name.

`Works` says what a live iterator does to its source and when that finishes it, and `Spent` what is
left of a finished one: it gives nothing, and asks its source for nothing.
-/

namespace RecordMarking

namespace Session

/-- The iterator of this name has ended, failed or been closed. -/
def Finished (name : String) (session : Session) : Prop :=
  ∃ iterator, session.iterators.find? name = some iterator ∧ iterator.finished = true

/-- An activity that leaves a finished iterator finished. -/
def KeepsFinished {Result : Type} (name : String) (activity : Activity Session Result) : Prop :=
  ∀ session : Session, session.Finished name → (activity.run session).state.Finished name

section KeepsFinished

variable {Result First Second : Type} {name other : String}

theorem keepsFinished_bind {first : Activity Session First}
    {second : First → Activity Session Second} (keepsFirst : KeepsFinished name first)
    (keepsSecond : ∀ value, KeepsFinished name (second value)) :
    KeepsFinished name (first >>= second) := by
  intro session finished
  have between := keepsFirst session finished
  match ran : first.run session with
  | ⟨.error fault, trace, middle⟩ =>
    rw [ran] at between
    rwa [Activity.run_bind_error ran]
  | ⟨.ok value, trace, middle⟩ =>
    rw [ran] at between
    rw [Activity.run_bind_ok ran]
    exact keepsSecond value middle between

/-- Whoever does not touch the iterators keeps them finished. -/
theorem keepsFinished_of_iterators_eq {activity : Activity Session Result}
    (untouched : ∀ session, (activity.run session).state.iterators = session.iterators) :
    KeepsFinished name activity := by
  intro session finished
  rwa [Finished, untouched session]

theorem keepsFinished_onSource (source : String) (activity : Activity Source Result) :
    KeepsFinished name (onSource source activity) := by
  refine keepsFinished_of_iterators_eq fun session => ?_
  simp only [onSource]
  split <;> rfl

theorem keepsFinished_onSink (sink : String) (activity : Activity Sink Result) :
    KeepsFinished name (onSink sink activity) := by
  refine keepsFinished_of_iterators_eq fun session => ?_
  simp only [onSink]
  split <;> rfl

theorem keepsFinished_conclude (result : Except Fault Result) :
    KeepsFinished name (.conclude result) :=
  keepsFinished_of_iterators_eq fun _ => rfl

theorem keepsFinished_pure (value : Result) :
    KeepsFinished name (pure value : Activity Session Result) :=
  keepsFinished_conclude (.ok value)

theorem keepsFinished_requireStream {Stream : Type} (streams : Session → Registry Stream)
    (use : StreamUse) : KeepsFinished name (requireStream other streams use) := by
  refine keepsFinished_bind (keepsFinished_of_iterators_eq fun _ => rfl) fun session => ?_
  split
  · exact keepsFinished_pure ()
  · exact keepsFinished_conclude _

theorem keepsFinished_extendSource (source : String) (segments : List Segment) :
    KeepsFinished name (extendSource source segments) :=
  keepsFinished_bind (keepsFinished_requireStream sources .extend) fun _ =>
    keepsFinished_onSource _ _

theorem keepsFinished_collectSink (sink : String) : KeepsFinished name (collectSink sink) :=
  keepsFinished_bind (keepsFinished_requireStream sinks .collect) fun _ => keepsFinished_onSink _ _

theorem keepsFinished_entry {Entry : Type} (registry : Session → Registry Entry) :
    KeepsFinished name (entry other registry) := by
  refine keepsFinished_of_iterators_eq fun session => ?_
  match listed : (registry session).find? other with
  | none => rw [run_entry_of_missing listed]
  | some found => rw [run_entry listed]

theorem keepsFinished_addReader (limit : Value) : KeepsFinished name (addReader limit) := by
  refine keepsFinished_of_iterators_eq fun session => ?_
  match chosen : checkLimit limit with
  | .error fault => rw [run_addReader_of_refused chosen]
  | .ok number => rw [run_addReader chosen]

/-- An iterator may be put under a name if it is finished, or if the name is another one. -/
theorem Finished.assign {session : Session} (finished : session.Finished name)
    {iterator : RecordIterator} (fine : other = name → iterator.finished = true) :
    Finished name { session with iterators := session.iterators.assign other iterator } := by
  by_cases same : name = other
  · subst same
    exact ⟨iterator, Registry.find?_assign_self name iterator session.iterators, fine rfl⟩
  · obtain ⟨found, listed, ended⟩ := finished
    exact ⟨found, (Registry.find?_assign_of_ne same iterator session.iterators).trans listed, ended⟩

theorem keepsFinished_finishIterator (iterator : RecordIterator) :
    KeepsFinished name (finishIterator other iterator) :=
  fun _ finished => finished.assign fun _ => rfl

theorem keepsFinished_finishOnFault (iterator : RecordIterator)
    {activity : Activity Session Result} (keeps : KeepsFinished name activity) :
    KeepsFinished name (finishOnFault other iterator activity) := by
  intro session finished
  have between := keeps session finished
  simp only [finishOnFault]
  split
  · rename_i ran
    rwa [ran] at between
  · rename_i fault trace next ran
    rw [ran] at between
    have closing : KeepsFinished name
        (finishIterator other iterator >>= fun _ => (.fail fault : Activity Session Result)) :=
      keepsFinished_bind (keepsFinished_finishIterator iterator) fun _ => keepsFinished_conclude _
    exact closing next between

theorem keepsFinished_nextOf : KeepsFinished name (nextOf other) := by
  refine keepsFinished_bind (keepsFinished_entry iterators) fun iterator => ?_
  split
  · exact keepsFinished_conclude _
  · refine keepsFinished_bind (keepsFinished_of_iterators_eq fun _ => rfl) fun limit => ?_
    refine keepsFinished_bind
      (keepsFinished_finishOnFault iterator (keepsFinished_onSource _ _)) fun given => ?_
    cases given with
    | some record => exact keepsFinished_pure record
    | none =>
      exact keepsFinished_bind (keepsFinished_finishIterator iterator) fun _ =>
        keepsFinished_conclude _

theorem keepsFinished_remainingOf : KeepsFinished name (remainingOf other) := by
  refine keepsFinished_bind (keepsFinished_entry iterators) fun iterator => ?_
  split
  · exact keepsFinished_pure []
  · refine keepsFinished_bind (keepsFinished_of_iterators_eq fun _ => rfl) fun limit => ?_
    refine keepsFinished_bind
      (keepsFinished_finishOnFault iterator (keepsFinished_onSource _ _)) fun records => ?_
    exact keepsFinished_bind (keepsFinished_finishIterator iterator) fun _ =>
      keepsFinished_pure records

end KeepsFinished

end Session

/-- An operation that creates an iterator of this name. -/
def Command.Creates (name : String) : Command → Prop
  | .createIterator created _ _ => created = name
  | _ => False

namespace Session

/-- Wrapping a result finishes nothing and revives nothing. -/
theorem keepsFinished_map {Result Next : Type} {name : String} {activity : Activity Session Result}
    (keeps : KeepsFinished name activity) (wrap : Result → Next) :
    KeepsFinished name (wrap <$> activity) :=
  keepsFinished_bind keeps fun value => keepsFinished_pure (wrap value)

/-- A finished iterator stays finished, unless another one takes its name. -/
theorem keepsFinished_perform {name : String} {command : Command}
    (other : ¬ command.Creates name) : KeepsFinished name (perform command) := by
  cases command with
  | readRecord source limit =>
    exact keepsFinished_bind (keepsFinished_conclude _) fun _ =>
      keepsFinished_map (keepsFinished_onSource _ _) _
  | createReader reader limit =>
    refine keepsFinished_bind (keepsFinished_addReader limit) fun number => ?_
    exact keepsFinished_bind (keepsFinished_of_iterators_eq fun _ => rfl) fun _ =>
      keepsFinished_of_iterators_eq fun _ => rfl
  | read reader source =>
    refine keepsFinished_bind (keepsFinished_entry readers) fun number => ?_
    exact keepsFinished_bind (keepsFinished_of_iterators_eq fun _ => rfl) fun _ =>
      keepsFinished_map (keepsFinished_onSource _ _) _
  | setLimit reader limit =>
    refine keepsFinished_bind (keepsFinished_entry readers) fun number => ?_
    exact keepsFinished_of_iterators_eq fun _ => rfl
  | createIterator created source limit =>
    have assigning : ∀ number, KeepsFinished name (Activity.modify fun session =>
        { session with iterators := session.iterators.assign created ⟨number, source, false⟩ }) :=
      fun number session finished => finished.assign fun same => absurd same other
    cases limit with
    | reader reader =>
      exact keepsFinished_bind (keepsFinished_entry readers) fun number =>
        keepsFinished_bind (assigning number) fun _ => keepsFinished_pure _
    | own limit =>
      exact keepsFinished_bind (keepsFinished_addReader limit) fun number =>
        keepsFinished_bind (assigning number) fun _ => keepsFinished_pure _
  | next iterator => exact keepsFinished_map keepsFinished_nextOf _
  | remaining iterator => exact keepsFinished_map keepsFinished_remainingOf _
  | close iterator =>
    refine keepsFinished_bind (keepsFinished_entry iterators) fun found => ?_
    exact keepsFinished_bind (keepsFinished_finishIterator found) fun _ =>
      keepsFinished_pure _
  | readMarker source => exact keepsFinished_map (keepsFinished_onSource _ _) _
  | readExactly source size => exact keepsFinished_map (keepsFinished_onSource _ _) _
  | drain source length =>
    exact keepsFinished_bind (keepsFinished_onSource _ _) fun _ => keepsFinished_pure _
  | feed source segments =>
    exact keepsFinished_bind (keepsFinished_extendSource _ _) fun _ => keepsFinished_pure _
  | writeMarker sink length last =>
    exact keepsFinished_bind (keepsFinished_onSink _ _) fun _ => keepsFinished_pure _
  | writeAll sink octets =>
    exact keepsFinished_bind (keepsFinished_onSink _ _) fun _ => keepsFinished_pure _
  | writeReply sink record =>
    exact keepsFinished_bind (keepsFinished_onSink _ _) fun _ => keepsFinished_pure _
  | writeRecord sink record fragmentSize =>
    exact keepsFinished_bind (keepsFinished_onSink _ _) fun _ => keepsFinished_pure _
  | pipe sink source slice =>
    refine keepsFinished_bind (keepsFinished_collectSink sink) fun taken => ?_
    exact keepsFinished_bind (keepsFinished_extendSource _ _) fun _ => keepsFinished_pure _

/-- A finished iterator stays finished through everything that does not create one of its name. -/
theorem finished_after {name : String} {commands : List Command}
    (others : ∀ command ∈ commands, ¬ command.Creates name) {session : Session}
    (finished : session.Finished name) : (after commands session).Finished name := by
  induction commands generalizing session with
  | nil => exact finished
  | cons command later inductionHypothesis =>
    obtain ⟨other, rest⟩ := List.forall_mem_cons.1 others
    exact inductionHypothesis rest (keepsFinished_perform other session finished)

section Steps

variable {name : String} {session : Session} {iterator : RecordIterator}

theorem run_finishOnFault_of_error {Result : Type} (name : String) (iterator : RecordIterator)
    {activity : Activity Session Result} {fault : Fault} {trace : List Event} {next : Session}
    (ran : activity.run session = ⟨.error fault, trace, next⟩) :
    (finishOnFault name iterator activity).run session =
      ⟨.error fault, trace,
        { next with
          iterators := next.iterators.assign name { iterator with finished := true } }⟩ := by
  simp [finishOnFault, ran, finishIterator, bind, Activity.andThen, Outcome.after]

/-- A live iterator that fails is finished. -/
theorem run_nextOf_of_error {fault : Fault} {trace : List Event} {next : Session}
    (listed : session.iterators.find? name = some iterator) (live : iterator.finished = false)
    (failed :
      (onSource iterator.source (Source.nextRecord (session.limitAt iterator))).run session =
        ⟨.error fault, trace, next⟩) :
    (nextOf name).run session =
      ⟨.error fault, trace,
        { next with
          iterators := next.iterators.assign name { iterator with finished := true } }⟩ := by
  have stepped := run_finishOnFault_of_error name iterator failed
  rw [nextOf, Activity.run_bind_ok (run_entry listed), if_neg (by simp [live]),
    Activity.run_bind_ok (run_limitOf session iterator), Activity.run_bind_error stepped]
  rfl

/-- The list of everything that a live iterator gives finishes it. -/
theorem run_remainingOf_of_live {result : Except Fault (List Octets)} {trace : List Event}
    {next : Session} (listed : session.iterators.find? name = some iterator)
    (live : iterator.finished = false)
    (all : (onSource iterator.source ⟨Source.readAll (session.limitAt iterator)⟩).run session =
      ⟨result, trace, next⟩) :
    (remainingOf name).run session =
      ⟨result, trace,
        { next with
          iterators := next.iterators.assign name { iterator with finished := true } }⟩ := by
  have begun := run_entry listed
  cases result with
  | error fault =>
    have stepped := run_finishOnFault_of_error name iterator all
    rw [remainingOf, Activity.run_bind_ok begun, if_neg (by simp [live]),
      Activity.run_bind_ok (run_limitOf session iterator), Activity.run_bind_error stepped]
    rfl
  | ok records =>
    have stepped := run_finishOnFault_of_ok name iterator all
    rw [remainingOf, Activity.run_bind_ok begun, if_neg (by simp [live]),
      Activity.run_bind_ok (run_limitOf session iterator), Activity.run_bind_ok stepped]
    simp [Outcome.after, finishIterator, bind, Activity.andThen]

/-- A finished iterator has no records left. -/
theorem run_remainingOf_of_finished (listed : session.iterators.find? name = some iterator)
    (finished : iterator.finished = true) :
    (remainingOf name).run session = ⟨.ok [], [], session⟩ := by
  rw [remainingOf, Activity.run_bind_ok (run_entry listed), if_pos finished]
  rfl

/-- What is done with a live iterator. A step does to the source what the next record takes, and
finishes the iterator unless it gives a record. Everything that is left is what reading everything
gives. Without a source, both fail where they would first read. Closing asks the source for nothing.
-/
structure Works (name : String) (session : Session) (iterator : RecordIterator) : Prop where
  steps : ∀ stream, session.sources.find? iterator.source = some stream →
    let step := (Source.nextRecord (session.limitAt iterator)).run stream
    let outcome := (perform (.next name)).run session
    outcome.trace = step.trace ∧
      outcome.state.sources = session.sources.assign iterator.source step.state ∧
      (∀ record, step.result = .ok (some record) → outcome.result = .ok (.octets record)) ∧
      (step.result = .ok none →
        outcome.result = .error .exhausted ∧ outcome.state.Finished name) ∧
      ∀ fault, step.result = .error fault →
        outcome.result = .error fault ∧ outcome.state.Finished name
  lists : ∀ stream, session.sources.find? iterator.source = some stream →
    let all := Source.readAll (session.limitAt iterator) stream
    let outcome := (perform (.remaining name)).run session
    outcome.result = all.result.map .records ∧ outcome.trace = all.trace ∧
      outcome.state.sources = session.sources.assign iterator.source all.state ∧
      outcome.state.Finished name
  misses : session.sources.find? iterator.source = none →
    ∀ command ∈ [Command.next name, .remaining name],
      let outcome := (perform command).run session
      outcome.result = .error (.missingStream .read) ∧ outcome.trace = [] ∧
        outcome.state.sources = session.sources ∧ outcome.state.Finished name
  closes :
    let outcome := (perform (.close name)).run session
    outcome.result = .ok .done ∧ outcome.trace = [] ∧ outcome.state.sources = session.sources ∧
      outcome.state.Finished name

/-- What is left of a finished iterator: it gives nothing, and asks its source for nothing. -/
structure Spent (name : String) (session : Session) : Prop where
  next : (perform (.next name)).run session = ⟨.error .exhausted, [], session⟩
  remaining : (perform (.remaining name)).run session = ⟨.ok (.records []), [], session⟩
  close : ((perform (.close name)).run session).trace = [] ∧
    ((perform (.close name)).run session).state.sources = session.sources

theorem run_close (listed : session.iterators.find? name = some iterator) :
    (perform (.close name)).run session =
      ⟨.ok .done, [],
        { session with
          iterators := session.iterators.assign name { iterator with finished := true } }⟩ := by
  rw [perform, Activity.run_bind_ok (run_entry listed)]
  rfl

/-- An iterator that is marked as finished is finished. -/
theorem finished_assign (session : Session) (name : String) (iterator : RecordIterator) :
    Finished name { session with
      iterators := session.iterators.assign name { iterator with finished := true } } :=
  ⟨_, Registry.find?_assign_self name _ session.iterators, rfl⟩

/-- Without a source, the next record cannot be read. -/
theorem run_nextRecord_missing (limit : Value) :
    (Source.nextRecord limit).run missingSource =
      ⟨.error (.missingStream .read), [.request Marker.size], []⟩ := by
  have unannounced : Source.readMarker.run missingSource =
      ⟨.error (.missingStream .read), [.request Marker.size], []⟩ := by decide +kernel
  simp only [Source.nextRecord, unannounced]
  rfl

theorem steps_of_live (listed : session.iterators.find? name = some iterator)
    (live : iterator.finished = false) {stream : Source}
    (present : session.sources.find? iterator.source = some stream) :
    let step := (Source.nextRecord (session.limitAt iterator)).run stream
    let outcome := (perform (.next name)).run session
    outcome.trace = step.trace ∧
      outcome.state.sources = session.sources.assign iterator.source step.state ∧
      (∀ record, step.result = .ok (some record) → outcome.result = .ok (.octets record)) ∧
      (step.result = .ok none →
        outcome.result = .error .exhausted ∧ outcome.state.Finished name) ∧
      ∀ fault, step.result = .error fault →
        outcome.result = .error fault ∧ outcome.state.Finished name := by
  match ran : (Source.nextRecord (session.limitAt iterator)).run stream with
  | ⟨.ok (some record), trace, rest⟩ =>
    rw [perform, Activity.run_map,
      run_nextOf_of_record listed live (run_onSource_of_run present ran)]
    refine ⟨rfl, rfl, ?_, ?_, ?_⟩
    · intro other given
      rw [Option.some.inj (Except.ok.inj given)]
      rfl
    · intro impossible
      cases impossible
    · intro fault impossible
      cases impossible
  | ⟨.ok none, trace, rest⟩ =>
    rw [perform, Activity.run_map, run_nextOf_of_end listed live (run_onSource_of_run present ran)]
    refine ⟨rfl, rfl, ?_, ?_, ?_⟩
    · intro record impossible
      cases impossible
    · intro _
      exact ⟨rfl, finished_assign _ name iterator⟩
    · intro fault impossible
      cases impossible
  | ⟨.error fault, trace, rest⟩ =>
    rw [perform, Activity.run_map,
      run_nextOf_of_error listed live (run_onSource_of_run present ran)]
    refine ⟨rfl, rfl, ?_, ?_, ?_⟩
    · intro record impossible
      cases impossible
    · intro impossible
      cases impossible
    · intro other failed
      rw [Except.error.inj failed]
      exact ⟨rfl, finished_assign _ name iterator⟩

theorem misses_of_live (listed : session.iterators.find? name = some iterator)
    (live : iterator.finished = false)
    (missing : session.sources.find? iterator.source = none) :
    ∀ command ∈ [Command.next name, .remaining name],
      let outcome := (perform command).run session
      outcome.result = .error (.missingStream .read) ∧ outcome.trace = [] ∧
        outcome.state.sources = session.sources ∧ outcome.state.Finished name := by
  have stepping : (onSource iterator.source (Source.nextRecord (session.limitAt iterator))).run
      session = ⟨.error (.missingStream .read), [], session⟩ := by
    rw [run_onSource_of_missing missing, run_nextRecord_missing]
  have listing : (onSource iterator.source ⟨Source.readAll (session.limitAt iterator)⟩).run
      session = ⟨.error (.missingStream .read), [], session⟩ := by
    rw [run_onSource_of_missing missing]
    dsimp only
    rw [Source.readAll_of_error (run_nextRecord_missing _)]
  refine List.forall_mem_cons.2 ⟨?_, List.forall_mem_singleton.2 ?_⟩
  · rw [perform, Activity.run_map, run_nextOf_of_error listed live stepping]
    exact ⟨rfl, rfl, rfl, finished_assign session name iterator⟩
  · rw [perform, Activity.run_map, run_remainingOf_of_live listed live listing]
    exact ⟨rfl, rfl, rfl, finished_assign session name iterator⟩

theorem works_of_live (listed : session.iterators.find? name = some iterator)
    (live : iterator.finished = false) : Works name session iterator where
  steps _ present := steps_of_live listed live present
  lists stream present := by
    have all : (onSource iterator.source ⟨Source.readAll (session.limitAt iterator)⟩).run session =
        _ := run_onSource_of_run present rfl
    rw [perform, Activity.run_map, run_remainingOf_of_live listed live all]
    exact ⟨rfl, rfl, rfl, finished_assign _ name iterator⟩
  misses := misses_of_live listed live
  closes := by
    rw [run_close listed]
    exact ⟨rfl, rfl, rfl, finished_assign _ name iterator⟩

theorem Finished.spent (finished : session.Finished name) : Spent name session := by
  obtain ⟨iterator, listed, ended⟩ := finished
  refine ⟨?_, ?_, ?_⟩
  · rw [perform, Activity.run_map, run_nextOf_of_finished listed ended]
    rfl
  · rw [perform, Activity.run_map, run_remainingOf_of_finished listed ended]
    rfl
  · rw [run_close listed]
    exact ⟨rfl, rfl⟩

end Steps

end Session

end RecordMarking
