import RecordMarking.Echo.Handler
import RecordMarking.Proofs.Conversation
import RecordMarking.Proofs.Iteration
import RecordMarking.Proofs.Output
import RecordMarking.Proofs.Quotation

/-!
# Transcripts of the echo handler

The handler reads a record only behind the reply to the one before, so its reading and its writing
can be told apart in what is observed of it. `completes_nextRecord` says what is observed of reading
one record, `exchange_of_reply` what a step of the handler comes to that reads a record and replies
to it, and `echoes_replyToAll` follows the steps as far as they go.

`printed_handle` gives the lines that a whole run shows, and `transcript_of_handle` sets the run
beside the records that an iterator gives on the same input.
-/

namespace RecordMarking

namespace Event

/-- The length of the record that an event says was read. -/
def completed? : Event → Option Nat
  | .notice (.recordRead length _) => some length
  | _ => none

/-- Whether an event is one of reading that does not complete a record. -/
def reads : Event → Bool
  | .request _ => true
  | .notice (.recordRead ..) => false
  | .notice _ => true
  | _ => false

/-- Whether an event is one of writing a reply. -/
def writes : Event → Bool
  | .offer _ | .notice (.replyWritten _) => true
  | _ => false

end Event

/-- Events that are all of a kind. -/
def Confined (kind : Event → Bool) (trace : List Event) : Prop :=
  ∀ event ∈ trace, kind event = true

section Confined

variable {kind : Event → Bool}

theorem confined_nil : Confined kind [] := by
  intro event among
  cases among

theorem confined_singleton {event : Event} (ofKind : kind event = true) :
    Confined kind [event] := by
  intro other among
  rw [List.mem_singleton.1 among]
  exact ofKind

theorem Confined.append {earlier later : List Event} (first : Confined kind earlier)
    (second : Confined kind later) : Confined kind (earlier ++ later) := by
  intro event among
  cases List.mem_append.1 among with
  | inl before => exact first event before
  | inr behind => exact second event behind

/-- An activity of which only events of a kind are observed. -/
def Activity.Emits {State Result : Type} (kind : Event → Bool) (activity : Activity State Result) :
    Prop :=
  ∀ state, Confined kind (activity.run state).trace

variable {State First Second : Type}

theorem Activity.emits_conclude (result : Except Fault First) :
    (conclude result : Activity State First).Emits kind :=
  fun _ => confined_nil

theorem Activity.emits_note {notice : Notice} (ofKind : kind (.notice notice) = true) :
    (note notice : Activity State Unit).Emits kind :=
  fun _ => confined_singleton ofKind

theorem Activity.Emits.bind {first : Activity State First} {second : First → Activity State Second}
    (begun : first.Emits kind) (continued : ∀ value, (second value).Emits kind) :
    (first >>= second).Emits kind := by
  intro state
  have before := begun state
  match ran : first.run state with
  | ⟨.error fault, trace, middle⟩ =>
    rw [ran] at before
    rw [Activity.run_bind_error ran]
    exact before
  | ⟨.ok value, trace, middle⟩ =>
    rw [ran] at before
    rw [Activity.run_bind_ok ran]
    exact before.append (continued value middle)

end Confined

theorem Event.eq_none_of_reads {event : Event} (reads : event.reads = true) :
    event.completed? = none ∧ event.announced? = none ∧ event.offered? = none := by
  cases event with
  | request count => exact ⟨rfl, rfl, rfl⟩
  | notice entry =>
    refine ⟨?_, rfl, rfl⟩
    cases entry with
    | recordRead => cases reads
    | _ => rfl
  | _ => cases reads

/-- Reading that completes no record shows nothing and writes nothing. -/
theorem filterMap_eq_nil_of_reads {trace : List Event} (reads : Confined Event.reads trace) :
    trace.filterMap Event.completed? = [] ∧ trace.filterMap Event.announced? = [] ∧
      Sink.offers trace = [] := by
  refine ⟨List.filterMap_eq_nil_iff.2 ?_, List.filterMap_eq_nil_iff.2 ?_,
    List.filterMap_eq_nil_iff.2 ?_⟩
  · intro event among
    exact (Event.eq_none_of_reads (reads event among)).1
  · intro event among
    exact (Event.eq_none_of_reads (reads event among)).2.1
  · intro event among
    exact (Event.eq_none_of_reads (reads event among)).2.2

theorem Event.eq_none_of_writes {event : Event} (writes : event.writes = true) :
    event.completed? = none ∧ event.announced? = none ∧ event.requested? = none := by
  cases event with
  | offer octets => exact ⟨rfl, rfl, rfl⟩
  | notice entry =>
    refine ⟨?_, rfl, rfl⟩
    cases entry with
    | recordRead => cases writes
    | _ => rfl
  | _ => cases writes

/-- Writing shows nothing and reads nothing. -/
theorem filterMap_eq_nil_of_writes {trace : List Event} (writes : Confined Event.writes trace) :
    trace.filterMap Event.completed? = [] ∧ trace.filterMap Event.announced? = [] ∧
      Source.requests trace = [] := by
  refine ⟨List.filterMap_eq_nil_iff.2 ?_, List.filterMap_eq_nil_iff.2 ?_,
    List.filterMap_eq_nil_iff.2 ?_⟩
  · intro event among
    exact (Event.eq_none_of_writes (writes event among)).1
  · intro event among
    exact (Event.eq_none_of_writes (writes event among)).2.1
  · intro event among
    exact (Event.eq_none_of_writes (writes event among)).2.2

theorem Sink.writes_writeAll (octets : Octets) : (writeAll octets).Emits Event.writes := by
  intro sink
  rw [(run_writeAll octets sink).1]
  exact confined_singleton rfl

theorem Sink.writes_writeReply (record : Octets) : (writeReply record).Emits Event.writes := by
  by_cases fits : record.length ≤ Marker.maxLength
  · rw [writeReply_of_fits fits]
    exact (writes_writeAll _).bind fun _ => (writes_writeAll _).bind fun _ =>
      Activity.emits_note rfl
  · intro sink
    rw [run_writeReply_of_too_long (by omega)]
    exact confined_nil

namespace Source

theorem reads_pull (portion : Nat → Nat) (missing : Nat) (source : Source) :
    Confined Event.reads (source.pull portion missing).trace := by
  intro event among
  obtain ⟨count, rfl⟩ := exists_request_of_mem_pull among
  rfl

theorem reads_receive (size : Value) (count : Nat) : (receive size count).Emits Event.reads := by
  intro source
  have pulled := reads_pull id count source
  simp only [receive]
  split <;> exact pulled

theorem reads_readExactly (size : Value) : (readExactly size).Emits Event.reads :=
  (Activity.emits_conclude _).bind fun _ => reads_receive _ _

theorem reads_readMarker : readMarker.Emits Event.reads :=
  (reads_readExactly _).bind fun _ => Activity.emits_conclude _

theorem reads_readAway (length : Value) (count : Nat) :
    (readAway length count).Emits Event.reads := by
  intro source
  have pulled := reads_pull (min drainPortion) count source
  simp only [readAway]
  split
  · exact pulled
  · exact pulled.append (confined_singleton rfl)
  · split
    · exact pulled.append (confined_singleton rfl)
    · exact pulled

theorem reads_refusePayload (limit : Value) (marker : Marker) :
    (refusePayload limit marker).Emits Event.reads :=
  (Activity.emits_note rfl).bind fun _ =>
    ((Activity.emits_conclude _).bind fun _ => reads_readAway _ _).bind fun _ =>
      Activity.emits_conclude _

theorem reads_readPayload (limit : Value) (marker : Marker) :
    (readPayload limit marker).Emits Event.reads := by
  unfold readPayload
  split
  · exact (Activity.emits_note rfl).bind fun _ => Activity.emits_conclude _
  · split
    · exact Activity.emits_conclude _
    · exact reads_refusePayload limit marker
    · exact (reads_readExactly _).bind fun _ => (Activity.emits_note rfl).bind fun _ =>
        Activity.emits_conclude _

/-- A payload that is accepted holds at least one octet. -/
theorem ne_nil_of_readPayload {limit : Value} {marker : Marker} {source rest : Source}
    {payload : Octets} {trace : List Event}
    (read : (readPayload limit marker).run source = ⟨.ok payload, trace, rest⟩) :
    payload ≠ [] := by
  unfold readPayload at read
  split at read
  · cases read
  · rename_i positive
    split at read
    · cases read
    · obtain ⟨_, _, _, _, _, refused, _⟩ := Activity.exists_of_run_bind_ok read
      obtain ⟨_, _, _, _, _, impossible, _⟩ := Activity.exists_of_run_bind_ok refused
      cases impossible
    · obtain ⟨octets, _, _, _, received, noted, _⟩ := Activity.exists_of_run_bind_ok read
      cases noted
      rw [readExactly_integer] at received
      obtain ⟨enough, _⟩ := unread_of_receive received
      rw [Int.toNat_natCast] at enough
      intro empty
      rw [empty, List.length_nil] at enough
      omega

/-- A run that reads a record of at least one octet, and says so at its end, or that fails before.
-/
structure Completes (outcome : Outcome Source Octets) : Prop where
  succeeded : ∀ record, outcome.result = .ok record → record ≠ [] ∧ ∃ before fragments,
    outcome.trace = before ++ [.notice (.recordRead record.length fragments)] ∧
      Confined Event.reads before
  failed : ∀ fault, outcome.result = .error fault → Confined Event.reads outcome.trace

theorem Completes.after {trace : List Event} {outcome : Outcome Source Octets}
    (reads : Confined Event.reads trace) (completes : Completes outcome) :
    Completes (outcome.after trace) := by
  constructor
  · intro record read
    obtain ⟨nonempty, before, fragments, trace_eq, others⟩ := completes.succeeded record read
    refine ⟨nonempty, trace ++ before, fragments, ?_, reads.append others⟩
    rw [Outcome.trace_after, trace_eq, List.append_assoc]
  · intro fault failed
    exact reads.append (completes.failed fault failed)

theorem completes_assemble (limit : Value) (marker : Marker) (pieces : List Octets)
    (source : Source) : Completes ((assemble limit marker pieces).run source) := by
  simp only [assemble]
  fun_induction assembleFrom limit marker pieces source with
  | case1 marker pieces source fault trace rest accepted =>
    have reads := reads_readPayload limit marker source
    rw [accepted] at reads
    exact ⟨by simp, fun _ _ => reads⟩
  | case2 marker pieces source payload trace rest accepted last =>
    have reads := reads_readPayload limit marker source
    rw [accepted] at reads
    refine .after reads ⟨?_, ?_⟩
    · intro record finished
      cases finished
      refine ⟨?_, [], _, rfl, confined_nil⟩
      simp [ne_nil_of_readPayload accepted]
    · rintro fault ⟨⟩
  | case3 marker pieces source payload trace rest accepted notLast fault later last announced =>
    have reads := reads_readPayload limit marker source
    rw [accepted] at reads
    have behind := reads_readMarker rest
    rw [announced] at behind
    exact ⟨by simp, fun _ _ => reads.append behind⟩
  | case4 marker pieces source payload trace rest accepted notLast next later last announced
      inductionHypothesis =>
    have reads := reads_readPayload limit marker source
    rw [accepted] at reads
    have behind := reads_readMarker rest
    rw [announced] at behind
    exact inductionHypothesis.after (reads.append behind)

/-- What an iterator hands out is a record of at least one octet that was completed just before. -/
theorem completes_nextRecord (limit : Value) (source : Source) :
    (∀ record, ((nextRecord limit).run source).result = .ok (some record) →
      record ≠ [] ∧ ∃ before fragments, ((nextRecord limit).run source).trace =
        before ++ [.notice (.recordRead record.length fragments)] ∧ Confined Event.reads before) ∧
    ((∀ record, ((nextRecord limit).run source).result ≠ .ok (some record)) →
      Confined Event.reads ((nextRecord limit).run source).trace) := by
  have reads := reads_readMarker source
  simp only [nextRecord]
  rcases ran : readMarker.run source with ⟨announced, trace, rest⟩
  rw [ran] at reads
  cases announced with
  | error fault =>
    dsimp only
    split
    · exact ⟨by simp, fun _ => reads.append (confined_singleton rfl)⟩
    · exact ⟨by simp, fun _ => reads⟩
  | ok marker =>
    have completes := (completes_assemble limit marker [] rest).after reads
    dsimp only
    rcases assembled : (assemble limit marker []).run rest with ⟨completed, later, last⟩
    rw [assembled] at completes
    cases completed with
    | error fault => exact ⟨by simp, fun _ => completes.failed fault rfl⟩
    | ok record =>
      refine ⟨?_, fun other => absurd rfl (other record)⟩
      intro same read
      cases read
      exact completes.succeeded record rfl

/-- The records that an iterator gives hold at least one octet each. -/
theorem ne_nil_of_mem_iterate {limit : Value} {source : Source} {record : Octets}
    (given : record ∈ (iterate limit source).records) : record ≠ [] := by
  fun_induction iterate limit source with
  | case1 | case2 => cases given
  | case3 source first trace rest read later inductionHypothesis =>
    cases given with
    | head =>
      have completes := (completes_nextRecord limit source).1 record
      rw [read] at completes
      exact (completes rfl).1
    | tail _ behind => exact inductionHypothesis behind

end Source

namespace Echo

/-- The replies to records: each of them in a single fragment. -/
def replies (records : List Octets) : Octets :=
  records.flatMap fun record => (⟨record, true⟩ : Fragment).octets

/-- Once a write was not taken, nothing more is requested. -/
def StopsReading (answers : List Acceptance) (trace : List Event) : Prop :=
  ∀ before after, trace = before ++ after →
    Sink.tookAll answers (Sink.offers before) = false → Source.requests after = []

section StopsReading

variable {answers : List Acceptance} {earlier later : List Event}

theorem stopsReading_of_no_requests (none : Source.requests later = []) :
    StopsReading answers later := by
  rintro before after rfl _
  rw [Source.requests_append] at none
  exact (List.append_eq_nil_iff.1 none).2

theorem stopsReading_append_of_taken
    (taken : Sink.tookAll answers (Sink.offers earlier) = true)
    (stops : StopsReading (answers.drop (Sink.offers earlier).length) later) :
    StopsReading answers (earlier ++ later) := by
  intro before after cut untaken
  rcases List.append_eq_append_iff.1 cut with ⟨between, rfl, rfl⟩ | ⟨between, rfl, rfl⟩
  · rw [Sink.offers_append, Sink.tookAll_append, taken, Bool.true_and] at untaken
    exact stops between after rfl untaken
  · rw [Sink.offers_append, Sink.tookAll_append, untaken, Bool.false_and] at taken
    cases taken

theorem StopsReading.append_of_no_requests (stops : StopsReading answers earlier)
    (none : Source.requests later = []) : StopsReading answers (earlier ++ later) := by
  intro before after cut untaken
  rcases List.append_eq_append_iff.1 cut with ⟨between, rfl, rfl⟩ | ⟨between, rfl, rfl⟩
  · rw [Source.requests_append] at none
    exact (List.append_eq_nil_iff.1 none).2
  · rw [Source.requests_append, none, List.append_nil]
    exact stops before between rfl untaken

end StopsReading

/-- A run that reads so many of these records, shows each of them, and replies to them in order, to
all but the last one in full. -/
structure Echoes (address : Value) (records : List Octets) (duplex : Duplex)
    (outcome : Outcome Duplex Unit) (count : Nat) : Prop where
  counted : count ≤ records.length
  completed : outcome.trace.filterMap Event.completed? = (records.take count).map List.length
  announced : outcome.trace.filterMap Event.announced? =
    (records.take count).map (.recordReceived address)
  kept : duplex.output.accepted ++ replies (records.take (count - 1)) <+:
    outcome.state.output.accepted
  leading : outcome.state.output.accepted <+:
    duplex.output.accepted ++ replies (records.take count)
  stops : StopsReading duplex.output.answers outcome.trace
  finished : Sink.tookAll duplex.output.answers (Sink.offers outcome.trace) = true →
    (∀ fault, outcome.result = .error fault → endsConversation fault = true) →
    count = records.length ∧
      outcome.state.output.accepted = duplex.output.accepted ++ replies records

/-- A run that reads no record replies to none. -/
theorem echoes_nothing {address : Value} {duplex : Duplex} {outcome : Outcome Duplex Unit}
    (reads : Confined Event.reads outcome.trace)
    (untouched : outcome.state.output = duplex.output) : Echoes address [] duplex outcome 0 := by
  obtain ⟨completed, announced, offered⟩ := filterMap_eq_nil_of_reads reads
  have same : outcome.state.output.accepted = duplex.output.accepted ++ replies [] := by
    rw [untouched]
    exact (List.append_nil _).symm
  refine ⟨Nat.le_refl 0, completed, announced, ?_, ?_, ?_, fun _ _ => ⟨rfl, same⟩⟩
  · rw [same]
    exact List.prefix_rfl
  · rw [same]
    exact List.prefix_rfl
  · have stops : StopsReading duplex.output.answers (outcome.trace ++ []) :=
      stopsReading_append_of_taken (by rw [offered]; rfl) (stopsReading_of_no_requests rfl)
    rwa [List.append_nil] at stops

theorem nextRecord_of_nextRequest {limit : Value} {duplex next : Duplex}
    {result : Except Fault (Option Octets)} {trace : List Event}
    (read : (nextRequest limit).run duplex = ⟨result, trace, next⟩) :
    (Source.nextRecord limit).run duplex.input = ⟨result, trace, next.input⟩ ∧
      next.output = duplex.output := by
  cases read
  exact ⟨rfl, rfl⟩

/-- When a record is handed out, nothing but reading has happened before it was completed. -/
theorem trace_of_nextRequest {limit : Value} {duplex next : Duplex} {record : Octets}
    {trace : List Event}
    (read : (nextRequest limit).run duplex = ⟨.ok (some record), trace, next⟩) :
    ∃ before fragments, trace = before ++ [.notice (.recordRead record.length fragments)] ∧
      Confined Event.reads before := by
  obtain ⟨given, _⟩ := nextRecord_of_nextRequest read
  obtain ⟨_, completed⟩ :=
    (Source.completes_nextRecord limit duplex.input).1 record (by rw [given])
  rwa [given] at completed

theorem input_of_reply {address : Value} {record : Octets} {duplex last : Duplex}
    {result : Except Fault Unit} {trace : List Event}
    (replied : (reply address record).run duplex = ⟨result, trace, last⟩) :
    last.input = duplex.input := by
  have untouched := input_reply address record duplex
  rwa [replied] at untouched

theorem run_reply (address : Value) (record : Octets) (duplex : Duplex) :
    (reply address record).run duplex =
      ⟨((Sink.writeReply record).run duplex.output).result,
        .announce (.recordReceived address record) ::
          ((Sink.writeReply record).run duplex.output).trace,
        duplex.input, ((Sink.writeReply record).run duplex.output).state⟩ := rfl

/-- A step of the handler that reads a record and replies to it. -/
structure Exchange (address : Value) (record : Octets) (duplex : Duplex)
    (outcome : Outcome Duplex Unit) : Prop where
  completed : outcome.trace.filterMap Event.completed? = [record.length]
  announced : outcome.trace.filterMap Event.announced? = [.recordReceived address record]
  kept : duplex.output.accepted <+: outcome.state.output.accepted
  leading : outcome.state.output.accepted <+:
    duplex.output.accepted ++ (⟨record, true⟩ : Fragment).octets
  stops : StopsReading duplex.output.answers outcome.trace
  succeeded : outcome.result = .ok () →
    outcome.state.output.accepted =
        duplex.output.accepted ++ (⟨record, true⟩ : Fragment).octets ∧
      outcome.state.output.answers =
        duplex.output.answers.drop (Sink.offers outcome.trace).length ∧
      Sink.tookAll duplex.output.answers (Sink.offers outcome.trace) = true
  failed : ∀ fault, outcome.result = .error fault → endsConversation fault = true →
    Sink.tookAll duplex.output.answers (Sink.offers outcome.trace) = false

/-- A reply succeeds just if its writes are taken, unless it is too long: then it fails with a fault
that the handler does not contain. -/
theorem answered_or_uncontained (record : Octets) (sink : Sink) :
    Sink.Answered sink ((Sink.writeReply record).run sink) ∨
      ∃ fault, ((Sink.writeReply record).run sink).result = .error fault ∧
        endsConversation fault = false := by
  by_cases fits : record.length ≤ Marker.maxLength
  · exact .inl (Sink.answered_writeReply fits sink)
  · rw [Sink.run_writeReply_of_too_long (by omega)]
    exact .inr ⟨_, rfl, rfl⟩

/-- Reading a record and replying to it. -/
theorem exchange_of_reply {address limit : Value} {duplex next last : Duplex} {record : Octets}
    {trace later : List Event} {result : Except Fault Unit}
    (read : (nextRequest limit).run duplex = ⟨.ok (some record), trace, next⟩)
    (replied : (reply address record).run next = ⟨result, later, last⟩) :
    Exchange address record duplex ⟨result, trace ++ later, last⟩ := by
  obtain ⟨_, same⟩ := nextRecord_of_nextRequest read
  obtain ⟨before, fragments, rfl, reads⟩ := trace_of_nextRequest read
  obtain ⟨quiet, silent, unwritten⟩ := filterMap_eq_nil_of_reads reads
  obtain ⟨unread, unshown, unasked⟩ :=
    filterMap_eq_nil_of_writes (Sink.writes_writeReply record duplex.output)
  rw [run_reply, same] at replied
  cases replied
  have outputs := Sink.outputs_writeReply record duplex.output
  have answered := answered_or_uncontained record duplex.output
  generalize ran : (Sink.writeReply record).run duplex.output = written at *
  have offered : Sink.offers (before ++ [.notice (.recordRead record.length fragments)] ++
      .announce (.recordReceived address record) :: written.trace) = Sink.offers written.trace := by
    rw [Sink.offers_append, Sink.offers_append, unwritten]
    rfl
  constructor
  · rw [List.filterMap_append, List.filterMap_append, quiet]
    exact congrArg (record.length :: ·) unread
  · rw [List.filterMap_append, List.filterMap_append, silent]
    exact congrArg (.recordReceived address record :: ·) unshown
  · exact outputs.kept
  · exact outputs.leading
  · refine stopsReading_append_of_taken ?_ (stopsReading_of_no_requests unasked)
    rw [Sink.offers_append, unwritten]
    rfl
  · intro succeeded
    rw [offered]
    rcases answered with answered | ⟨fault, failed, _⟩
    · exact ⟨outputs.complete succeeded, answered.used, answered.succeeds.1 succeeded⟩
    · rw [show written.result = .ok () from succeeded] at failed
      cases failed
  · intro fault failed contained
    rw [offered]
    rcases answered with answered | ⟨other, same, uncontained⟩
    · rw [← Bool.not_eq_true, ← answered.succeeds, show written.result = .error fault from failed]
      simp
    · rw [show written.result = .error fault from failed] at same
      cases same
      rw [contained] at uncontained
      cases uncontained

/-- A failed reply is the last thing that the handler does. -/
theorem Exchange.last {address : Value} {record : Octets} {duplex : Duplex}
    {outcome : Outcome Duplex Unit} {fault : Fault} (others : List Octets)
    (exchange : Exchange address record duplex outcome)
    (failed : outcome.result = .error fault) :
    Echoes address (record :: others) duplex outcome 1 := by
  refine ⟨by simp, exchange.completed, exchange.announced, ?_, ?_, exchange.stops, ?_⟩
  · exact (List.append_nil duplex.output.accepted).symm ▸ exchange.kept
  · simpa [replies] using exchange.leading
  · intro all contained
    rw [exchange.failed fault failed (contained fault failed)] at all
    cases all

/-- Behind a reply that was written the handler goes on with the other records. -/
theorem Exchange.followed {address : Value} {record : Octets} {duplex last : Duplex}
    {trace : List Event} {outcome : Outcome Duplex Unit} {others : List Octets} {count : Nat}
    (exchange : Exchange address record duplex ⟨.ok (), trace, last⟩)
    (echoes : Echoes address others last outcome count) :
    Echoes address (record :: others) duplex (outcome.after trace) (count + 1) := by
  obtain ⟨accepted, answers, all⟩ := exchange.succeeded rfl
  have leads : ∀ records, last.output.accepted ++ replies records =
      duplex.output.accepted ++ replies (record :: records) := by
    intro records
    rw [show last.output.accepted = _ from accepted, List.append_assoc]
    rfl
  constructor
  · have counted := echoes.counted
    simp only [List.length_cons]
    omega
  · rw [Outcome.trace_after, List.filterMap_append, echoes.completed,
      show trace.filterMap Event.completed? = _ from exchange.completed]
    rfl
  · rw [Outcome.trace_after, List.filterMap_append, echoes.announced,
      show trace.filterMap Event.announced? = _ from exchange.announced]
    rfl
  · cases count with
    | zero =>
      refine (List.append_nil duplex.output.accepted).symm ▸ exchange.kept.trans ?_
      exact (List.prefix_append _ _).trans echoes.kept
    | succ count =>
      have kept := echoes.kept
      rw [leads] at kept
      exact kept
  · have leading := echoes.leading
    rw [leads] at leading
    exact leading
  · have stops := echoes.stops
    rw [show last.output.answers = _ from answers] at stops
    exact stopsReading_append_of_taken all stops
  · intro taken contained
    rw [Outcome.trace_after, Sink.offers_append, Sink.tookAll_append,
      ← show last.output.answers = _ from answers, Bool.and_eq_true] at taken
    obtain ⟨counted, finished⟩ := echoes.finished taken.2 contained
    rw [leads] at finished
    exact ⟨congrArg (· + 1) counted, finished⟩

/-- Replying to all records replies to those that the input yields, as far as it comes. -/
theorem echoes_replyToAll (address limit : Value) (duplex : Duplex) :
    ∃ count, Echoes address (Source.iterate limit duplex.input).records duplex
      ((replyToAll address limit).run duplex) count := by
  simp only [replyToAll]
  fun_induction replyToAllFrom address limit duplex with
  | case1 duplex fault trace next read =>
    obtain ⟨given, same⟩ := nextRecord_of_nextRequest read
    have reads := (Source.completes_nextRecord limit duplex.input).2 (by simp [given])
    rw [given] at reads
    rw [Source.iterate_of_error given]
    exact ⟨0, echoes_nothing reads same⟩
  | case2 duplex trace next read =>
    obtain ⟨given, same⟩ := nextRecord_of_nextRequest read
    have reads := (Source.completes_nextRecord limit duplex.input).2 (by simp [given])
    rw [given] at reads
    rw [Source.iterate_of_end given]
    exact ⟨0, echoes_nothing reads same⟩
  | case3 duplex record trace next read fault later last replied =>
    obtain ⟨given, _⟩ := nextRecord_of_nextRequest read
    rw [Source.iterate_of_record given]
    exact ⟨1, (exchange_of_reply read replied).last _ rfl⟩
  | case4 duplex record trace next read later last replied inductionHypothesis =>
    obtain ⟨given, _⟩ := nextRecord_of_nextRequest read
    obtain ⟨count, echoes⟩ := inductionHypothesis
    rw [input_of_reply replied] at echoes
    rw [Source.iterate_of_record given]
    exact ⟨count + 1, (exchange_of_reply read replied).followed echoes⟩

/-- How the handler closes a conversation that ended in this way: the result, and what it announces.
-/
def closing (address : Value) : Except Fault Unit → Except Fault Unit × List Announcement
  | .ok () => (.ok (), [.clientDisconnected address])
  | .error fault =>
    if endsConversation fault then
      (.ok (), [.givingUp address fault, .clientDisconnected address])
    else (.error fault, [])

/-- Around all replies the handler announces only that the client comes and goes. It contains the
faults of the stream and of the protocol. -/
theorem run_handle (address limit : Value) (duplex : Duplex) :
    let replied := (replyToAll address limit).run duplex
    (handle address limit).run duplex =
      ⟨(closing address replied.result).1,
        .announce (.clientConnected address) :: replied.trace ++
          (closing address replied.result).2.map .announce,
        replied.state⟩ := by
  intro replied
  match ran : (replyToAll address limit).run duplex with
  | ⟨.ok (), trace, last⟩ =>
    rw [handle, Activity.run_bind_ok rfl, Activity.run_bind_ok (Activity.run_rescue_ok ran),
      show replied = _ from ran]
    rfl
  | ⟨.error fault, trace, last⟩ =>
    rw [show replied = _ from ran]
    by_cases contained : endsConversation fault = true
    · rw [handle, Activity.run_bind_ok rfl,
        Activity.run_bind_ok (Activity.run_rescue_handled ran contained)]
      simp [closing, contained, Activity.announce, Outcome.after]
    · rw [Bool.not_eq_true] at contained
      rw [handle, Activity.run_bind_ok rfl,
        Activity.run_bind_error (Activity.run_rescue_unhandled ran contained)]
      simp [closing, contained, Outcome.after]

/-- A handler that returns was stopped by no other faults than those it contains. -/
theorem endsConversation_of_returned {address : Value} {replied : Except Fault Unit}
    (returned : (closing address replied).1 = .ok ()) {fault : Fault}
    (failed : replied = .error fault) : endsConversation fault = true := by
  subst failed
  apply Classical.byContradiction
  intro uncontained
  rw [closing, if_neg uncontained] at returned
  cases returned

/-- Announcements are nothing but shown. -/
theorem filterMap_map_announce (announcements : List Announcement) :
    let trace := announcements.map Event.announce
    trace.filterMap Event.completed? = [] ∧ trace.filterMap Event.announced? = announcements ∧
      Sink.offers trace = [] ∧ Source.requests trace = [] := by
  intro trace
  refine ⟨?_, ?_, ?_, ?_⟩
  · exact List.filterMap_eq_nil_iff.2 (by simp [trace, Event.completed?])
  · rw [List.filterMap_map]
    exact List.filterMap_some
  · exact List.filterMap_eq_nil_iff.2 (by simp [trace, Event.offered?])
  · exact List.filterMap_eq_nil_iff.2 (by simp [trace, Event.requested?])

section Lines

variable (address : Value)

/-- The line that shows that a client has come. -/
def connectedLine : String :=
  "Client " ++ address.display ++ " connected"

/-- The line that shows a record of a client. -/
def receivedLine (record : Octets) : String :=
  "Server received record from " ++ address.display ++ ": " ++ Text.quoteOctets record

/-- Of two records the lines are the same only if the records are. -/
theorem receivedLine_inj {first second : Octets}
    (alike : receivedLine address first = receivedLine address second) : first = second :=
  Text.quoteOctets_inj ((String.append_right_inj _).1 alike)

/-- The line that shows why a client is given up. -/
def givingUpLine (fault : Fault) : String :=
  "Disconnecting " ++ address.display ++ ": " ++ fault.message

/-- The line that shows that a client is gone. -/
def disconnectedLine : String :=
  "Client " ++ address.display ++ " disconnected"

/-- The lines that the handler shows behind those about records. -/
inductive Closes : Except Fault Unit → List String → Prop where
  /-- A fault that comes out of the handler ends it at once. -/
  | escaped (fault : Fault) : Closes (.error fault) []
  /-- The client has sent everything. -/
  | finished : Closes (.ok ()) [disconnectedLine address]
  /-- The client is given up. -/
  | givenUp {fault : Fault} (ends : endsConversation fault = true) :
    Closes (.ok ()) [givingUpLine address fault, disconnectedLine address]

theorem closes_closing (replied : Except Fault Unit) :
    Closes address (closing address replied).1
      ((closing address replied).2.map Announcement.text) := by
  cases replied with
  | ok => exact .finished
  | error fault =>
    by_cases contained : endsConversation fault = true
    · rw [closing, if_pos contained]
      exact .givenUp contained
    · rw [closing, if_neg contained]
      exact .escaped fault

/-- When the handler returns, its last line is that the client is gone. -/
theorem Closes.getLast?_eq {address : Value} {lines : List String}
    (closes : Closes address (.ok ()) lines) :
    lines.getLast? = some (disconnectedLine address) := by
  cases closes <;> rfl

/-- The handler shows that the client has come, then the records that its loop announces, and then
how it closes. -/
theorem printed_handle {limit : Value} {duplex : Duplex} {shown : List Octets}
    (announced : ((replyToAll address limit).run duplex).trace.filterMap Event.announced? =
      shown.map (.recordReceived address)) :
    printed ((handle address limit).run duplex).trace =
      connectedLine address :: shown.map (receivedLine address) ++
        (closing address ((replyToAll address limit).run duplex).result).2.map
          Announcement.text := by
  have opened : (.announce (.clientConnected address) ::
      ((replyToAll address limit).run duplex).trace).filterMap Event.announced? =
        .clientConnected address :: shown.map (.recordReceived address) :=
    congrArg (List.cons (Announcement.clientConnected address)) announced
  rw [run_handle, printed_eq_map, List.filterMap_append, opened, (filterMap_map_announce _).2.1,
    List.map_append, List.map_cons, List.map_map]
  rfl

theorem closes_handle (limit : Value) (duplex : Duplex) :
    Closes address ((handle address limit).run duplex).result
      ((closing address ((replyToAll address limit).run duplex).result).2.map
        Announcement.text) := by
  rw [run_handle]
  exact closes_closing address ((replyToAll address limit).run duplex).result

end Lines

/-- The handler reads so many of the records that its input yields, each of at least one octet. The
lines that it shows between the arrival of the client and its departure are those of just these
records, in order, and no other records have these lines. The output accepts a leading part of the
replies to them, in which all but the last one are whole, and once a write was not taken nothing
more is read. If every write is taken and the handler returns, all records of the input are replied
to. -/
theorem transcript_of_handle (address limit : Value) (duplex : Duplex) :
    let records := (Source.iterate limit duplex.input).records
    let outcome := (handle address limit).run duplex
    (∀ record ∈ records, record ≠ []) ∧
    ∃ count lines, count ≤ records.length ∧
      outcome.trace.filterMap Event.completed? = (records.take count).map List.length ∧
      printed outcome.trace =
        connectedLine address :: (records.take count).map (receivedLine address) ++ lines ∧
      (∀ others : List Octets, others.map (receivedLine address) =
        (records.take count).map (receivedLine address) → others = records.take count) ∧
      Closes address outcome.result lines ∧
      duplex.output.accepted ++ replies (records.take (count - 1)) <+:
        outcome.state.output.accepted ∧
      outcome.state.output.accepted <+:
        duplex.output.accepted ++ replies (records.take count) ∧
      StopsReading duplex.output.answers outcome.trace ∧
      (Sink.tookAll duplex.output.answers (Sink.offers outcome.trace) = true →
        outcome.result = .ok () →
        count = records.length ∧
          outcome.state.output.accepted = duplex.output.accepted ++ replies records) := by
  intro records outcome
  obtain ⟨count, echoes⟩ := echoes_replyToAll address limit duplex
  have whole : outcome = _ := run_handle address limit duplex
  obtain ⟨uncompleted, -, unwritten, unread⟩ :=
    filterMap_map_announce (closing address ((replyToAll address limit).run duplex).result).2
  refine ⟨fun record given => Source.ne_nil_of_mem_iterate given, count, _, echoes.counted, ?_,
    printed_handle address echoes.announced,
    fun _ => (List.map_inj_right fun _ _ => receivedLine_inj address).1,
    closes_handle address limit duplex, ?_, ?_, ?_, ?_⟩
  · rw [whole, List.filterMap_append, uncompleted, List.append_nil]
    exact echoes.completed
  · rw [whole]
    exact echoes.kept
  · rw [whole]
    exact echoes.leading
  · have stops : StopsReading duplex.output.answers ([.announce (.clientConnected address)] ++
        ((replyToAll address limit).run duplex).trace) :=
      stopsReading_append_of_taken rfl echoes.stops
    rw [whole]
    exact stops.append_of_no_requests unread
  · intro taken returned
    rw [whole, Sink.offers_append, unwritten, List.append_nil] at taken
    rw [whole] at returned ⊢
    exact echoes.finished taken fun fault failed => endsConversation_of_returned returned failed

/-- Two records, cut anywhere, and an end in the middle of a marker: both are shown and replied to,
and the client is given up. -/
theorem transcript_of_handle_to_torn_marker :
    let address : Value := .tuple [.text "127.0.0.1", .integer 5000]
    let input : Source :=
      [.data [0x80, 0, 0], .data [1, 0x41, 0, 0, 0, 1], .data [0x42, 0x80, 0, 0, 1, 0xff],
        .data [0x80]]
    let duplex : Duplex := ⟨input, .ofAnswers [.silent, .count 1, .full]⟩
    let outcome := (handle address (.integer 16)).run duplex
    Sink.tookAll duplex.output.answers (Sink.offers outcome.trace) = true ∧
      outcome.result = .ok () ∧
      printed outcome.trace =
        ["Client ('127.0.0.1', 5000) connected",
          "Server received record from ('127.0.0.1', 5000): b'A'",
          "Server received record from ('127.0.0.1', 5000): b'B\\xff'",
          "Disconnecting ('127.0.0.1', 5000): short read: got 1, expected 4",
          "Client ('127.0.0.1', 5000) disconnected"] ∧
      (∃ count lines, count = 2 ∧
        printed outcome.trace =
          connectedLine address :: ([[0x41], [0x42, 0xff]].take count).map (receivedLine address) ++
            lines ∧
        Closes address (.ok ()) lines) ∧
      outcome.state.output.accepted = [0x80, 0, 0, 1, 0x41, 0x80, 0, 0, 2, 0x42, 0xff] := by
  intro address input duplex outcome
  have records_eq :
      (Source.iterate (.integer 16) duplex.input).records = [[0x41], [0x42, 0xff]] := by
    decide +kernel
  have taken : Sink.tookAll duplex.output.answers (Sink.offers outcome.trace) = true := by
    decide +kernel
  have returned : outcome.result = .ok () := by decide +kernel
  obtain ⟨_, count, lines, _, _, shown, _, closes, _, _, _, finished⟩ :=
    transcript_of_handle address (.integer 16) duplex
  obtain ⟨counted, accepted⟩ := finished taken returned
  rw [records_eq] at counted shown accepted
  exact ⟨taken, returned, by decide +kernel, ⟨count, lines, counted, shown, returned ▸ closes⟩,
    accepted⟩

end Echo

end RecordMarking
