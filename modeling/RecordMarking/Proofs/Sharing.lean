import RecordMarking.Session
import RecordMarking.Proofs.Skipping

/-!
# Consumers that share a source

Readers, iterators and single reads keep nothing of a source between two records, so they can take
turns on it. `leaves_readRecord` says that a record is taken off the front of a source by any
consumer whose limit no fragment reaches, with nothing read ahead.

`Shared` is what such consumers keep up among themselves in a session: `served_of_consumes` is the
step of one of them that reads, `undisturbed_of_not_consumes` any other step, and `shared_after` a
whole history. `shared_source_serves_in_order` says what each operation gets.
-/

namespace RecordMarking

/-- A limit that none of these fragments reaches. -/
def Value.Clears (limit : Value) (fragments : List Fragment) : Prop :=
  ∀ fragment ∈ fragments, limit.isReachedBy fragment.payload.length = .ok false

/-- An integer clears the fragments that are shorter. -/
theorem Value.clears_integer {limit : Int} {fragments : List Fragment} :
    (integer limit).Clears fragments ↔
      ∀ fragment ∈ fragments, (fragment.payload.length : Int) < limit := by
  simp [Clears]

/-- Only integers are chosen as limits. -/
theorem eq_integer_of_checkLimit {limit : Value} {number : Int}
    (chosen : checkLimit limit = .ok number) : limit = .integer number := by
  match limit with
  | .integer given =>
    rw [checkLimit] at chosen
    split at chosen
    · cases chosen
      rfl
    · cases chosen
  | .absent | .truth _ | .real _ | .text _ | .octets _ | .octetBuffer _ | .list _ | .tuple _ =>
    cases chosen

/-- The octets of records, each given as its fragments. -/
def frames (groups : List (List Fragment)) : Octets :=
  (groups.map (·.flatMap Fragment.octets)).flatten

namespace Source

variable {source : Source} {limit : Value}

/-- A record is read from its fragments, whatever stands behind them. -/
theorem leaves_readOn_of_clears {fragments : List Fragment} {rest : Octets}
    (formed : Fragment.FormRecord fragments)
    (announceable : ∀ fragment ∈ fragments, fragment.Announceable)
    (clears : limit.Clears fragments) (behaved : source.WellBehaved) (pieces : List Octets)
    (stands : source.octets = fragments.flatMap Fragment.octets ++ rest) :
    Leaves ((readOn limit pieces).run source)
      (.ok (pieces.reverse.flatten ++ Fragment.join fragments)) rest := by
  fun_induction Fragment.FormRecord fragments generalizing source pieces with
  | case1 => exact formed.elim
  | case2 fragment =>
    obtain ⟨first, _⟩ := List.forall_mem_cons.1 announceable
    obtain ⟨clear, _⟩ := List.forall_mem_cons.1 clears
    have alone : source.octets = fragment.octets ++ rest := by simpa using stands
    refine leaves_readOn_clear_fragment behaved first.nonempty first.announced clear alone
      fun between betweenBehaved left => ?_
    rw [if_pos formed]
    refine ⟨?_, left, betweenBehaved⟩
    simp [finish, bind, Activity.andThen, Activity.note, Fragment.join]
  | case3 fragment next later inductionHypothesis =>
    obtain ⟨first, others⟩ := List.forall_mem_cons.1 announceable
    obtain ⟨clear, clearOthers⟩ := List.forall_mem_cons.1 clears
    rw [List.flatMap_cons, List.append_assoc] at stands
    refine leaves_readOn_clear_fragment behaved first.nonempty first.announced clear stands
      fun between betweenBehaved left => ?_
    rw [if_neg (by simp [formed.1])]
    have tail := inductionHypothesis formed.2 others clearOthers betweenBehaved
      (fragment.payload :: pieces) left
    simpa [Fragment.join] using tail

/-- Where nothing is left, a read comes short of the whole marker. -/
theorem leaves_readRecord_nil (behaved : source.WellBehaved) (nothing : source.octets = []) :
    Leaves ((readRecord limit).run source)
      (.error (.shortRead (.integer 0) (.integer Marker.size))) [] := by
  have short := leaves_readMarker_short behaved (by rw [nothing]; decide)
  rw [nothing] at short
  exact short.bind_error

end Source

/-- Records on a source, as the fragments of each, which are all among the given ones. -/
structure Sent (fragments : List Fragment) (groups : List (List Fragment)) : Prop where
  formed : ∀ group ∈ groups, Fragment.FormRecord group
  announceable : ∀ group ∈ groups, ∀ fragment ∈ group, fragment.Announceable
  among : ∀ group ∈ groups, ∀ fragment ∈ group, fragment ∈ fragments

namespace Sent

variable {fragments group : List Fragment} {later : List (List Fragment)}

theorem tail (sent : Sent fragments (group :: later)) : Sent fragments later where
  formed other listed := sent.formed other (List.mem_cons_of_mem _ listed)
  announceable other listed := sent.announceable other (List.mem_cons_of_mem _ listed)
  among other listed := sent.among other (List.mem_cons_of_mem _ listed)

/-- Whoever has a limit that clears all fragments reads the first record, and leaves the others. -/
theorem leaves_readRecord (sent : Sent fragments (group :: later)) {limit : Value}
    (clears : limit.Clears fragments) {source : Source} (behaved : source.WellBehaved)
    (holds : source.octets = frames (group :: later)) :
    Source.Leaves ((Source.readRecord limit).run source) (.ok (Fragment.join group))
      (frames later) := by
  have clearsFirst : limit.Clears group := by
    intro fragment part
    exact clears fragment (sent.among group List.mem_cons_self fragment part)
  exact Source.leaves_readOn_of_clears (sent.formed group List.mem_cons_self)
    (sent.announceable group List.mem_cons_self) clearsFirst behaved [] holds

end Sent

/-- An operation that consumers of a source share it by: it reads only from this source, and no
fragment reaches a limit that it brings along. -/
def Command.Shares (source : String) (fragments : List Fragment) : Command → Prop
  | .readRecord origin limit => origin = source ∧ limit.Clears fragments
  | .createReader _ limit | .setLimit _ limit => limit.Clears fragments
  | .read _ origin | .createIterator _ origin (.reader _) => origin = source
  | .createIterator _ origin (.own limit) => origin = source ∧ limit.Clears fragments
  | .next _ | .close _ => True
  | _ => False

/-- Whether an operation reads from its source: a single read with a proper limit, a read of a
reader that is there, or a step of a live iterator. -/
def Command.consumes (session : Session) : Command → Bool
  | .readRecord _ limit => (checkLimit limit).toBool
  | .read reader _ => (session.readers.find? reader).isSome
  | .next iterator =>
    match session.iterators.find? iterator with
    | some found => !found.finished
    | none => false
  | _ => false

/-- The fault of an operation that reads where nothing is left. -/
def Command.atEnd : Command → Fault
  | .next _ => .exhausted
  | _ => .shortRead (.integer 0) (.integer Marker.size)

namespace Session

/-- On the source of this name these octets are left, and no others. -/
def Holds (source : String) (octets : Octets) (session : Session) : Prop :=
  ∃ stream, session.sources.find? source = some stream ∧ stream.octets = octets

/-- A session in which these records, and no more, are left on a source, no fragment reaches the
limit of a reader, and every iterator runs over this source. -/
structure Shared (source : String) (fragments : List Fragment) (remaining : List (List Fragment))
    (session : Session) : Prop where
  sent : Sent fragments remaining
  stands : ∃ stream, session.sources.find? source = some stream ∧ stream.WellBehaved ∧
    stream.octets = frames remaining
  clear : ∀ limit ∈ session.limits, limit.Clears fragments
  numbered : ∀ name number, session.readers.find? name = some number →
    number < session.limits.length
  iterating : ∀ name iterator, session.iterators.find? name = some iterator →
    iterator.source = source ∧ iterator.reader < session.limits.length

section Steps

variable {source name : String} {session : Session} {limit : Value}

theorem run_onSource_of_run {Result : Type} {activity : Activity Source Result}
    {stream rest : Source} {result : Except Fault Result} {trace : List Event}
    (present : session.sources.find? name = some stream)
    (ran : activity.run stream = ⟨result, trace, rest⟩) :
    (onSource name activity).run session =
      ⟨result, trace, { session with sources := session.sources.assign name rest }⟩ := by
  simp only [onSource, present, ran]

theorem run_onSource_of_missing {Result : Type} {activity : Activity Source Result}
    (missing : session.sources.find? name = none) :
    (onSource name activity).run session = ⟨(activity.run missingSource).result, [], session⟩ := by
  simp only [onSource, missing]

theorem run_entry {Entry : Type} {registry : Session → Registry Entry} {found : Entry}
    (listed : (registry session).find? name = some found) :
    (entry name registry).run session = ⟨.ok found, [], session⟩ := by
  rw [entry, Activity.run_bind_ok (Activity.run_get session), listed]
  rfl

theorem run_entry_of_missing {Entry : Type} {registry : Session → Registry Entry}
    (missing : (registry session).find? name = none) :
    (entry name registry).run session =
      ⟨.error (.reported .missingKey [.text name]), [], session⟩ := by
  rw [entry, Activity.run_bind_ok (Activity.run_get session), missing]
  rfl

theorem run_addReader {number : Int} (chosen : checkLimit limit = .ok number) :
    (addReader limit).run session =
      ⟨.ok session.limits.length, [],
        { session with limits := session.limits ++ [.integer number] }⟩ := by
  rw [addReader, chosen]
  rfl

theorem run_addReader_of_refused {fault : Fault} (refused : checkLimit limit = .error fault) :
    (addReader limit).run session = ⟨.error fault, [], session⟩ := by
  rw [addReader, refused]
  rfl

/-- The limit under which an iterator reads next. -/
def limitAt (session : Session) (iterator : RecordIterator) : Value :=
  session.limits.getD iterator.reader (.integer defaultLimit)

theorem run_limitOf (session : Session) (iterator : RecordIterator) :
    (limitOf iterator.reader).run session = ⟨.ok (session.limitAt iterator), [], session⟩ := rfl

theorem run_finishOnFault_of_ok {Result : Type} (name : String) (iterator : RecordIterator)
    {activity : Activity Session Result} {value : Result} {trace : List Event} {next : Session}
    (ran : activity.run session = ⟨.ok value, trace, next⟩) :
    (finishOnFault name iterator activity).run session = ⟨.ok value, trace, next⟩ := by
  simp only [finishOnFault, ran]

/-- A finished iterator has nothing more to give. -/
theorem run_nextOf_of_finished {iterator : RecordIterator}
    (listed : session.iterators.find? name = some iterator)
    (finished : iterator.finished = true) :
    (nextOf name).run session = ⟨.error .exhausted, [], session⟩ := by
  rw [nextOf, Activity.run_bind_ok (run_entry listed), if_pos finished]
  rfl

/-- A live iterator that finds a record gives it. -/
theorem run_nextOf_of_record {iterator : RecordIterator} {record : Octets} {trace : List Event}
    {next : Session} (listed : session.iterators.find? name = some iterator)
    (live : iterator.finished = false)
    (read : (onSource iterator.source (Source.nextRecord (session.limitAt iterator))).run session =
      ⟨.ok (some record), trace, next⟩) :
    (nextOf name).run session = ⟨.ok record, trace, next⟩ := by
  have stepped := run_finishOnFault_of_ok name iterator read
  rw [nextOf, Activity.run_bind_ok (run_entry listed), if_neg (by simp [live]),
    Activity.run_bind_ok (run_limitOf session iterator), Activity.run_bind_ok stepped]
  simp [Outcome.after]

/-- A live iterator that finds the end of its source is finished. -/
theorem run_nextOf_of_end {iterator : RecordIterator} {trace : List Event} {next : Session}
    (listed : session.iterators.find? name = some iterator) (live : iterator.finished = false)
    (read : (onSource iterator.source (Source.nextRecord (session.limitAt iterator))).run session =
      ⟨.ok none, trace, next⟩) :
    (nextOf name).run session =
      ⟨.error .exhausted, trace,
        { next with
          iterators := next.iterators.assign name { iterator with finished := true } }⟩ := by
  have stepped := run_finishOnFault_of_ok name iterator read
  rw [nextOf, Activity.run_bind_ok (run_entry listed), if_neg (by simp [live]),
    Activity.run_bind_ok (run_limitOf session iterator), Activity.run_bind_ok stepped]
  simp [Outcome.after, finishIterator, bind, Activity.andThen]

end Steps

namespace Shared

variable {source name : String} {fragments : List Fragment} {remaining : List (List Fragment)}
  {session : Session} {limit : Value}

/-- The records that are left are what the source holds. -/
theorem holds (shared : Shared source fragments remaining session) :
    session.Holds source (frames remaining) := by
  obtain ⟨stream, present, -, octets⟩ := shared.stands
  exact ⟨stream, present, octets⟩

/-- The source may be replaced by one that holds other records. -/
theorem replace (shared : Shared source fragments remaining session)
    {left : List (List Fragment)} (sent : Sent fragments left) {rest : Source}
    (behaved : rest.WellBehaved) (holds : rest.octets = frames left) :
    Shared source fragments left
      { session with sources := session.sources.assign source rest } :=
  ⟨sent, ⟨rest, Registry.find?_assign_self source rest session.sources, behaved, holds⟩,
    shared.clear, shared.numbered, shared.iterating⟩

/-- There may be one more reader. -/
theorem addLimit (shared : Shared source fragments remaining session)
    (clears : limit.Clears fragments) :
    Shared source fragments remaining { session with limits := session.limits ++ [limit] } := by
  have longer : session.limits.length < (session.limits ++ [limit]).length := by simp
  refine ⟨shared.sent, shared.stands, ?_, ?_, ?_⟩
  · exact List.forall_mem_append.2 ⟨shared.clear, List.forall_mem_singleton.2 clears⟩
  · intro name number listed
    exact Nat.lt_trans (shared.numbered name number listed) longer
  · intro name iterator listed
    obtain ⟨same, bounded⟩ := shared.iterating name iterator listed
    exact ⟨same, Nat.lt_trans bounded longer⟩

/-- A reader may get another limit. -/
theorem setLimit (shared : Shared source fragments remaining session)
    (clears : limit.Clears fragments) (number : Nat) :
    Shared source fragments remaining
      { session with limits := session.limits.set number limit } := by
  refine ⟨shared.sent, shared.stands, ?_, ?_, ?_⟩
  · intro other among
    rcases List.mem_or_eq_of_mem_set among with kept | rfl
    · exact shared.clear other kept
    · exact clears
  · simpa using shared.numbered
  · simpa using shared.iterating

/-- A name may be given to a reader. -/
theorem assignReader (shared : Shared source fragments remaining session) {number : Nat}
    (bounded : number < session.limits.length) (name : String) :
    Shared source fragments remaining
      { session with readers := session.readers.assign name number } := by
  refine ⟨shared.sent, shared.stands, shared.clear, ?_, shared.iterating⟩
  exact Registry.forall_find?_assign shared.numbered bounded name

/-- A name may be given to an iterator over the source. -/
theorem assignIterator (shared : Shared source fragments remaining session)
    {iterator : RecordIterator} (same : iterator.source = source)
    (bounded : iterator.reader < session.limits.length) (name : String) :
    Shared source fragments remaining
      { session with iterators := session.iterators.assign name iterator } := by
  refine ⟨shared.sent, shared.stands, shared.clear, shared.numbered, ?_⟩
  exact Registry.forall_find?_assign shared.iterating ⟨same, bounded⟩ name

theorem clears_getD (shared : Shared source fragments remaining session) {number : Nat}
    (bounded : number < session.limits.length) (other : Value) :
    (session.limits.getD number other).Clears fragments := by
  rw [List.getD_eq_getElem?_getD, List.getElem?_eq_getElem bounded, Option.getD_some]
  exact shared.clear _ (List.getElem_mem bounded)

end Shared

/-- What a consumer gets of a shared source: the next record, or, where no record is left, the fault
that says so. -/
inductive Served (source : String) (fragments : List Fragment) (atEnd : Fault) :
    List (List Fragment) → Outcome Session Reply → Prop where
  | record {group : List Fragment} {later : List (List Fragment)} {outcome : Outcome Session Reply}
      (result_eq : outcome.result = .ok (.octets (Fragment.join group)))
      (left : Shared source fragments later outcome.state) :
      Served source fragments atEnd (group :: later) outcome
  | ended {outcome : Outcome Session Reply} (result_eq : outcome.result = .error atEnd)
      (left : Shared source fragments [] outcome.state) :
      Served source fragments atEnd [] outcome

namespace Shared

variable {source name : String} {fragments : List Fragment} {remaining : List (List Fragment)}
  {session : Session} {limit : Value}

/-- A single read serves whoever makes it. -/
theorem served_readRecord (shared : Shared source fragments remaining session)
    (clears : limit.Clears fragments) :
    Served source fragments (.shortRead (.integer 0) (.integer Marker.size)) remaining
      ((Reply.octets <$> onSource source (Source.readRecord limit)).run session) := by
  obtain ⟨stream, present, behaved, octets⟩ := shared.stands
  rw [Activity.run_map]
  match ran : (Source.readRecord limit).run stream with
  | ⟨result, trace, rest⟩ =>
    rw [run_onSource_of_run present ran]
    cases remaining with
    | nil =>
      have read := @Source.leaves_readRecord_nil stream limit behaved octets
      rw [ran] at read
      obtain ⟨rfl, left, restBehaved⟩ := read
      exact .ended rfl (shared.replace shared.sent restBehaved left)
    | cons group later =>
      have read := shared.sent.leaves_readRecord clears behaved octets
      rw [ran] at read
      obtain ⟨rfl, left, restBehaved⟩ := read
      exact .record rfl (shared.replace shared.sent.tail restBehaved left)

/-- A step of a live iterator serves it. -/
theorem served_next (shared : Shared source fragments remaining session)
    {iterator : RecordIterator} (listed : session.iterators.find? name = some iterator)
    (live : iterator.finished = false) :
    Served source fragments .exhausted remaining ((Reply.octets <$> nextOf name).run session) := by
  obtain ⟨rfl, bounded⟩ := shared.iterating name iterator listed
  obtain ⟨stream, present, behaved, octets⟩ := shared.stands
  have clears : (session.limitAt iterator).Clears fragments := shared.clears_getD bounded _
  rw [Activity.run_map]
  match ran : (Source.nextRecord (session.limitAt iterator)).run stream with
  | ⟨result, trace, rest⟩ =>
    have stepped := run_onSource_of_run present ran
    cases remaining with
    | nil =>
      have nothing := Source.eq_nil_of_octets_eq_nil behaved octets
      have read := @Source.leaves_nextRecord_nil (session.limitAt iterator)
      rw [← nothing, ran] at read
      obtain ⟨rfl, left, restBehaved⟩ := read
      rw [run_nextOf_of_end listed live stepped]
      have later := shared.replace shared.sent restBehaved left
      have same : { iterator with finished := true }.source = iterator.source := rfl
      exact .ended rfl (later.assignIterator same bounded name)
    | cons group later =>
      have read := Source.leaves_nextRecord (shared.sent.leaves_readRecord clears behaved octets)
      rw [ran] at read
      obtain ⟨rfl, left, restBehaved⟩ := read
      rw [run_nextOf_of_record listed live stepped]
      exact .record rfl (shared.replace shared.sent.tail restBehaved left)

end Shared

section Sharing

variable {source : String} {fragments : List Fragment} {remaining : List (List Fragment)}
  {session : Session} {command : Command}

/-- Whoever reads from a shared source is served. -/
theorem served_of_consumes (shared : Shared source fragments remaining session)
    (shares : command.Shares source fragments) (consumes : command.consumes session = true) :
    Served source fragments command.atEnd remaining ((perform command).run session) := by
  cases command with
  | readRecord origin limit =>
    obtain ⟨rfl, clears⟩ := shares
    match chosen : checkLimit limit with
    | .error fault =>
      rw [Command.consumes, chosen] at consumes
      cases consumes
    | .ok number =>
      obtain rfl := eq_integer_of_checkLimit chosen
      have ran : (perform (.readRecord origin (.integer number))).run session =
          (Reply.octets <$> onSource origin (Source.readRecord (.integer number))).run session := by
        rw [perform, chosen]
        rfl
      rw [ran]
      exact shared.served_readRecord clears
  | read reader origin =>
    obtain rfl : origin = source := shares
    match listed : session.readers.find? reader with
    | none =>
      rw [Command.consumes, listed] at consumes
      cases consumes
    | some number =>
      have clears := shared.clears_getD (shared.numbered reader number listed)
        (.integer defaultLimit)
      have ran : (perform (.read reader origin)).run session =
          (Reply.octets <$> onSource origin
            (Source.readRecord (session.limits.getD number (.integer defaultLimit)))).run
              session := by
        rw [perform, Activity.run_bind_ok (run_entry listed)]
        rfl
      rw [ran]
      exact shared.served_readRecord clears
  | next iterator =>
    match listed : session.iterators.find? iterator with
    | none =>
      rw [Command.consumes, listed] at consumes
      cases consumes
    | some found =>
      rw [Command.consumes, listed] at consumes
      exact shared.served_next listed (by simpa using consumes)
  | _ => cases consumes

/-- Any other operation leaves all records where they are. -/
theorem undisturbed_of_not_consumes (shared : Shared source fragments remaining session)
    (shares : command.Shares source fragments) (idle : command.consumes session = false) :
    Shared source fragments remaining ((perform command).run session).state ∧
      ((perform command).run session).state.sources = session.sources := by
  cases command with
  | readRecord origin limit =>
    match chosen : checkLimit limit with
    | .ok number =>
      rw [Command.consumes, chosen] at idle
      cases idle
    | .error fault =>
      rw [perform, chosen]
      exact ⟨shared, rfl⟩
  | createReader name limit =>
    match chosen : checkLimit limit with
    | .error fault =>
      rw [perform, Activity.run_bind_error (run_addReader_of_refused chosen)]
      exact ⟨shared, rfl⟩
    | .ok number =>
      obtain rfl := eq_integer_of_checkLimit chosen
      rw [perform, Activity.run_bind_ok (run_addReader chosen)]
      have added := shared.addLimit shares
      exact ⟨added.assignReader (by simp) name, rfl⟩
  | read reader origin =>
    match listed : session.readers.find? reader with
    | some number =>
      rw [Command.consumes, listed] at idle
      cases idle
    | none =>
      rw [perform, Activity.run_bind_error (run_entry_of_missing listed)]
      exact ⟨shared, rfl⟩
  | setLimit reader limit =>
    match listed : session.readers.find? reader with
    | none =>
      rw [perform, Activity.run_bind_error (run_entry_of_missing listed)]
      exact ⟨shared, rfl⟩
    | some number =>
      rw [perform, Activity.run_bind_ok (run_entry listed)]
      exact ⟨shared.setLimit shares number, rfl⟩
  | createIterator name origin limit =>
    cases limit with
    | reader reader =>
      obtain rfl : origin = source := shares
      match listed : session.readers.find? reader with
      | none =>
        rw [perform]
        dsimp only
        rw [Activity.run_bind_error (run_entry_of_missing listed)]
        exact ⟨shared, rfl⟩
      | some number =>
        have bounded := shared.numbered reader number listed
        rw [perform]
        dsimp only
        rw [Activity.run_bind_ok (run_entry listed)]
        exact ⟨shared.assignIterator rfl bounded name, rfl⟩
    | own limit =>
      obtain ⟨rfl, clears⟩ := shares
      match chosen : checkLimit limit with
      | .error fault =>
        rw [perform]
        dsimp only
        rw [Activity.run_bind_error (run_addReader_of_refused chosen)]
        exact ⟨shared, rfl⟩
      | .ok number =>
        obtain rfl := eq_integer_of_checkLimit chosen
        rw [perform]
        dsimp only
        rw [Activity.run_bind_ok (run_addReader chosen)]
        have added := shared.addLimit clears
        exact ⟨added.assignIterator rfl (by simp) name, rfl⟩
  | next iterator =>
    rw [perform, Activity.run_map]
    match listed : session.iterators.find? iterator with
    | none =>
      rw [nextOf, Activity.run_bind_error (run_entry_of_missing listed)]
      exact ⟨shared, rfl⟩
    | some found =>
      rw [Command.consumes, listed] at idle
      rw [run_nextOf_of_finished listed (by simpa using idle)]
      exact ⟨shared, rfl⟩
  | close name =>
    match listed : session.iterators.find? name with
    | none =>
      rw [perform, Activity.run_bind_error (run_entry_of_missing listed)]
      exact ⟨shared, rfl⟩
    | some found =>
      obtain ⟨same, bounded⟩ := shared.iterating name found listed
      have finished : { found with finished := true }.source = source := same
      rw [perform, Activity.run_bind_ok (run_entry listed)]
      exact ⟨shared.assignIterator finished bounded name, rfl⟩
  | _ => exact shares.elim

/-- The session that operations leave, one after another. -/
def after : List Command → Session → Session
  | [], session => session
  | command :: later, session => after later ((perform command).run session).state

/-- How many of the operations read from their source. -/
def consumed : List Command → Session → Nat
  | [], _ => 0
  | command :: later, session =>
    (command.consumes session).toNat + consumed later ((perform command).run session).state

/-- Behind a history of operations, just as many records are gone as operations have read. -/
theorem shared_after {commands : List Command}
    (sharing : ∀ command ∈ commands, command.Shares source fragments)
    (shared : Shared source fragments remaining session) :
    Shared source fragments (remaining.drop (consumed commands session))
      (after commands session) := by
  induction commands generalizing session remaining with
  | nil => exact shared
  | cons command later inductionHypothesis =>
    obtain ⟨shares, others⟩ := List.forall_mem_cons.1 sharing
    rw [after, consumed]
    cases consumes : command.consumes session with
    | false =>
      rw [Bool.toNat_false, Nat.zero_add]
      exact inductionHypothesis others (undisturbed_of_not_consumes shared shares consumes).1
    | true =>
      rw [Bool.toNat_true, Nat.add_comm]
      have served := served_of_consumes shared shares consumes
      generalize (perform command).run session = outcome at served ⊢
      cases served with
      | record _ left => exact inductionHypothesis others left
      | ended _ left =>
        rw [List.drop_nil]
        simpa using inductionHypothesis others left

theorem shared_start {groups : List (List Fragment)} (sent : Sent groups.flatten groups)
    {sources : Registry Source} (sinks : Registry Sink) {stream : Source}
    (present : sources.find? source = some stream) (behaved : stream.WellBehaved)
    (holds : stream.octets = frames groups) :
    Shared source groups.flatten groups (start sources sinks) where
  sent := sent
  stands := ⟨stream, present, behaved, holds⟩
  clear := fun _ impossible => nomatch impossible
  numbered := fun _ _ impossible => nomatch impossible
  iterating := fun _ _ impossible => nomatch impossible

/-- Consumers may share a source in any order, under limits of their own that no fragment reaches.
Whoever reads gets the record that comes next, and behind the last one is told that there is none.
Whatever does not read leaves all octets on the source. -/
theorem shared_source_serves_in_order {groups : List (List Fragment)}
    (formed : ∀ group ∈ groups, Fragment.FormRecord group)
    (announceable : ∀ group ∈ groups, ∀ fragment ∈ group, fragment.Announceable)
    {sources : Registry Source} (sinks : Registry Sink) {stream : Source}
    (present : sources.find? source = some stream) (behaved : stream.WellBehaved)
    (holds : stream.octets = frames groups) {earlier : List Command}
    (sharing : ∀ command ∈ earlier, command.Shares source groups.flatten)
    (shares : command.Shares source groups.flatten) :
    let session := after earlier (start sources sinks)
    let index := consumed earlier (start sources sinks)
    let outcome := (perform command).run session
    session.Holds source (frames (groups.drop index)) ∧
      (command.consumes session = true →
        (∀ group, groups[index]? = some group →
          outcome.result = .ok (.octets (Fragment.join group)) ∧
            outcome.state.Holds source (frames (groups.drop (index + 1)))) ∧
        (groups.length ≤ index →
          outcome.result = .error command.atEnd ∧ outcome.state.Holds source [])) ∧
      (command.consumes session = false → outcome.state.sources = session.sources) ∧
      ∀ name iterator, command = .next name → session.iterators.find? name = some iterator →
        iterator.finished = true → outcome.result = .error .exhausted := by
  intro session index outcome
  have among : ∀ group ∈ groups, ∀ fragment ∈ group, fragment ∈ groups.flatten :=
    fun group listed fragment part => List.mem_flatten_of_mem listed part
  have shared : Shared source groups.flatten (groups.drop index) session :=
    shared_after sharing (shared_start ⟨formed, announceable, among⟩ sinks present behaved holds)
  refine ⟨shared.holds, ?_, ?_, ?_⟩
  · intro consumes
    have served : Served source groups.flatten command.atEnd (groups.drop index) outcome :=
      served_of_consumes shared shares consumes
    constructor
    · intro group listed
      have cut : groups.drop index = group :: groups.drop (index + 1) := by
        rw [List.drop_eq_getElem?_toList_append, listed]
        rfl
      rw [cut] at served
      cases served with
      | record result_eq left => exact ⟨result_eq, left.holds⟩
    · intro past
      rw [List.drop_eq_nil_of_le past] at served
      cases served with
      | ended result_eq left => exact ⟨result_eq, left.holds⟩
  · intro idle
    exact (undisturbed_of_not_consumes shared shares idle).2
  · rintro name iterator rfl listed finished
    have ran : outcome = _ := Activity.run_map Reply.octets (nextOf name) session
    rw [ran, run_nextOf_of_finished listed finished]
    rfl

/-- Two records, the first of them in two fragments. -/
def twoRecords : List (List Fragment) :=
  [[⟨[97], false⟩, ⟨[98], true⟩], [⟨[99], true⟩]]

/-- A stream that holds two records. -/
def streamOfTwo : Source :=
  [.data [0, 0, 0, 1, 97, 0x80], .data [0, 0, 1, 98, 0x80, 0, 0, 1, 99]]

/-- An iterator takes the first record and is closed, while its reader and another iterator wait. -/
def handover : List Command :=
  [.createReader "r" (.integer 3), .createIterator "i" "s" (.reader "r"),
    .createIterator "j" "s" (.own (.integer 2)), .next "i", .setLimit "r" (.integer 2), .close "i"]

/-- The reader takes over from the iterator that was closed, and behind it the other iterator finds
the end of the source. -/
theorem shared_source_serves_reader_behind_closed_iterator :
    (∀ command ∈ handover, command.Shares "s" twoRecords.flatten) ∧
      ((perform (.read "r" "s")).run (after handover (start [("s", streamOfTwo)] []))).result =
        .ok (.octets [99]) ∧
      ((perform (.next "i")).run (after handover (start [("s", streamOfTwo)] []))).result =
        .error .exhausted ∧
      ((perform (.next "j")).run
          (after (handover ++ [.read "r" "s"]) (start [("s", streamOfTwo)] []))).result =
        .error .exhausted := by
  have formed : ∀ group ∈ twoRecords, Fragment.FormRecord group :=
    List.forall_mem_cons.2 ⟨⟨rfl, rfl⟩, List.forall_mem_singleton.2 rfl⟩
  have announceable : ∀ group ∈ twoRecords, ∀ fragment ∈ group, fragment.Announceable := by
    have small : ∀ octet last, (⟨[octet], last⟩ : Fragment).Announceable :=
      fun _ _ => ⟨Nat.le_refl 1, Nat.succ_le_succ (Nat.zero_le _)⟩
    simp [twoRecords, small]
  have present : Registry.find? "s" [("s", streamOfTwo)] = some streamOfTwo := rfl
  have behaved : streamOfTwo.WellBehaved := by simp [streamOfTwo, Source.WellBehaved]
  have holds : streamOfTwo.octets = frames twoRecords := by decide +kernel
  have clears : ∀ limit : Int, 2 ≤ limit → (Value.integer limit).Clears twoRecords.flatten := by
    intro limit least
    have short : ∀ fragment ∈ twoRecords.flatten, fragment.payload.length = 1 := by decide
    refine Value.clears_integer.2 fun fragment among => ?_
    rw [short fragment among]
    exact least
  have sharing : ∀ command ∈ handover, command.Shares "s" twoRecords.flatten := by
    simp [handover, Command.Shares, clears]
  have reading : (Command.read "r" "s").Shares "s" twoRecords.flatten := rfl
  have stepping : ∀ name, (Command.next name).Shares "s" twoRecords.flatten := fun _ => trivial
  have sharingLater : ∀ command ∈ handover ++ [.read "r" "s"],
      command.Shares "s" twoRecords.flatten :=
    List.forall_mem_append.2 ⟨sharing, List.forall_mem_singleton.2 reading⟩
  obtain ⟨_, reads, _⟩ :=
    shared_source_serves_in_order formed announceable [] present behaved holds sharing reading
  obtain ⟨_, _, _, closed⟩ :=
    shared_source_serves_in_order formed announceable [] present behaved holds sharing
      (stepping "i")
  obtain ⟨_, ends, _⟩ :=
    shared_source_serves_in_order formed announceable [] present behaved holds sharingLater
      (stepping "j")
  obtain ⟨taken, _⟩ := (reads (by decide +kernel)).1 [⟨[99], true⟩] (by decide +kernel)
  obtain ⟨ended, _⟩ := (ends (by decide +kernel)).2 (by decide +kernel)
  exact ⟨sharing, taken, closed "i" ⟨0, "s", true⟩ rfl (by decide +kernel) rfl, ended⟩

end Sharing

end Session

end RecordMarking
