import RecordMarking.Proofs.Frames
import RecordMarking.Proofs.Transcript

/-!
# What the echo handler contains

An honest stream of octets is one that a system provides: it delivers no more than it is asked for,
takes as much as it likes, and fails only as the system fails. On such streams all faults of reading
and writing are those that the handler contains (`contained_nextRecord`, `contained_writeReply`),
with one exception: a record may be longer than any single fragment, and then its reply cannot be
announced.

`concludes_replyToAll` follows the steps of the handler to the first such record, if there is one.
`disconnects_or_outgrown` says how the handler ends: it shows as its last line that the client is
gone, or it fails behind the line that shows a record which is too long.
-/

namespace RecordMarking

/-- Whether a segment delivers no more than is asked for, and fails only as the system fails. -/
def Segment.honest : Segment → Bool
  | .data _ => true
  | .surplus _ => false
  | .fault failure => failure.isSystem

/-- A source that a system provides: octets that are cut anywhere, and failures of the system. -/
def Source.Honest (source : Source) : Prop :=
  ∀ segment ∈ source, segment.honest = true

/-- Whether an answer to a write fails only as the system fails. -/
def Acceptance.honest : Acceptance → Bool
  | .full | .silent | .count _ => true
  | .fault failure => failure.isSystem

/-- A sink that a system provides: it takes what it likes, or fails as the system fails. -/
def Sink.Honest (sink : Sink) : Prop :=
  ∀ acceptance ∈ sink.answers, acceptance.honest = true

instance (source : Source) : Decidable source.Honest :=
  inferInstanceAs (Decidable (∀ segment ∈ source, segment.honest = true))

instance (sink : Sink) : Decidable sink.Honest :=
  inferInstanceAs (Decidable (∀ acceptance ∈ sink.answers, acceptance.honest = true))

/-- A connection that a system provides. -/
structure Duplex.Honest (duplex : Duplex) : Prop where
  input : duplex.input.Honest
  output : duplex.output.Honest

theorem Echo.endsConversation_of_isSystem {fault : Fault} (system : fault.isSystem = true) :
    endsConversation fault = true := by
  rw [endsConversation, system, Bool.or_true]

/-- An iterator passes on every fault that ends a conversation. -/
theorem Fault.insideIterator_of_endsConversation {fault : Fault}
    (contained : Echo.endsConversation fault = true) : fault.insideIterator = fault := by
  have passedOn : fault.isExhaustion = false := by
    induction fault with
    | reported kind arguments =>
      cases kind with
      | exhausted => cases contained
      | _ => rfl
    | raisedFrom fault cause inductionHypothesis _ => exact inductionHypothesis contained
    | _ => rfl
  exact insideIterator_of_not_exhausted passedOn

/-- A run that keeps what has to be kept of the state, of which the value is good, and that fails
only with faults that end a conversation. -/
structure Outcome.Contained {State Result : Type} (keeps : State → Prop) (good : Result → Prop)
    (outcome : Outcome State Result) : Prop where
  kept : keeps outcome.state
  given : ∀ value, outcome.result = .ok value → good value
  failed : ∀ fault, outcome.result = .error fault → Echo.endsConversation fault = true

namespace Outcome.Contained

variable {State First Second : Type} {keeps : State → Prop} {good : First → Prop}
  {better : Second → Prop}

theorem after {outcome : Outcome State First} (contained : outcome.Contained keeps good)
    (trace : List Event) : (outcome.after trace).Contained keeps good :=
  ⟨contained.kept, contained.given, contained.failed⟩

theorem of_ok {state : State} (kept : keeps state) {value : First} (fine : good value)
    (trace : List Event) : Contained keeps good ⟨.ok value, trace, state⟩ := by
  refine ⟨kept, ?_, fun _ impossible => nomatch impossible⟩
  intro same given
  cases given
  exact fine

theorem of_error {state : State} (kept : keeps state) {fault : Fault}
    (contained : Echo.endsConversation fault = true) (trace : List Event) :
    Contained keeps good ⟨.error fault, trace, state⟩ := by
  refine ⟨kept, fun _ impossible => (nomatch impossible), ?_⟩
  intro same failed
  cases failed
  exact contained

/-- Activities in a row contain what each of them contains. -/
theorem bind {state : State} {first : Activity State First}
    {second : First → Activity State Second} (begun : (first.run state).Contained keeps good)
    (continued : ∀ value between, good value → keeps between →
      ((second value).run between).Contained keeps better) :
    ((first >>= second).run state).Contained keeps better := by
  match ran : first.run state with
  | ⟨.error fault, trace, between⟩ =>
    rw [ran] at begun
    rw [Activity.run_bind_error ran]
    exact .of_error begun.kept (begun.failed fault rfl) trace
  | ⟨.ok value, trace, between⟩ =>
    rw [ran] at begun
    rw [Activity.run_bind_ok ran]
    exact (continued value between (begun.given value rfl) begun.kept).after trace

end Outcome.Contained

namespace Source

variable {source : Source}

/-- One read of an honest source. -/
theorem read_honest (honest : source.Honest) (count : Nat) :
    (source.read count).2.Honest ∧
      (∀ fault, (source.read count).1 = .error fault → fault.isSystem = true) ∧
      ∀ delivered, (source.read count).1 = .ok delivered → delivered.length ≤ count := by
  cases source with
  | nil => exact ⟨honest, by simp [read], by simp [read]⟩
  | cons segment rest =>
    obtain ⟨first, restHonest⟩ := List.forall_mem_cons.1 honest
    cases segment with
    | surplus octets => cases first
    | fault fault =>
      refine ⟨restHonest, ?_, by simp [read]⟩
      intro same failed
      cases failed
      exact first
    | data octets =>
      by_cases fits : (octets.drop count).isEmpty = true
      · rw [read, if_pos fits]
        refine ⟨restHonest, by simp, ?_⟩
        intro delivered given
        cases given
        exact List.drop_eq_nil_iff.1 (List.isEmpty_iff.1 fits)
      · rw [read, if_neg fits]
        refine ⟨List.forall_mem_cons.2 ⟨rfl, restHonest⟩, by simp, ?_⟩
        intro delivered given
        cases given
        exact List.length_take_le count octets

/-- A pull of an honest source takes no more than is missing, and fails only as the system fails. -/
theorem pull_honest {portion : Nat → Nat} (portioned : IsPortion portion) (missing : Nat)
    (honest : source.Honest) :
    (source.pull portion missing).rest.Honest ∧
      (∀ fault, (source.pull portion missing).ending = .failed fault → fault.isSystem = true) ∧
      (source.pull portion missing).octets.length ≤ missing := by
  fun_induction pull portion missing source with
  | case1 source => exact ⟨honest, by simp, Nat.zero_le 0⟩
  | case2 missing source wanted fault rest read =>
    obtain ⟨restHonest, system, _⟩ := read_honest honest (portion missing)
    rw [read] at restHonest system
    refine ⟨restHonest, ?_, Nat.zero_le missing⟩
    intro same failed
    cases failed
    exact system fault rfl
  | case3 missing source wanted rest read =>
    obtain ⟨restHonest, _, _⟩ := read_honest honest (portion missing)
    rw [read] at restHonest
    exact ⟨restHonest, by simp, Nat.zero_le missing⟩
  | case4 missing source wanted octet more rest read later inductionHypothesis =>
    obtain ⟨restHonest, _, bounded⟩ := read_honest honest (portion missing)
    rw [read] at restHonest bounded
    have fits := bounded _ rfl
    have portionFits := (portioned missing (by omega)).2
    obtain ⟨leftHonest, system, short⟩ := inductionHypothesis restHonest
    refine ⟨leftHonest, system, ?_⟩
    simp only [later, List.length_append, List.length_cons] at fits short ⊢
    omega

theorem contained_receive (honest : source.Honest) (size : Value) (count : Nat) :
    ((receive size count).run source).Contained Honest (·.length = count) := by
  obtain ⟨leftHonest, system, short⟩ := pull_honest isPortion_id count honest
  simp only [receive]
  split
  · rename_i complete
    have enough := le_length_octets_pull complete
    refine .of_ok leftHonest ?_ _
    exact Nat.le_antisymm short enough
  · exact .of_error leftHonest rfl _
  · rename_i fault failed
    exact .of_error leftHonest (Echo.endsConversation_of_isSystem (system fault failed)) _

/-- A marker that was read from an honest source has four octets, and so it holds something. -/
theorem contained_readMarker (honest : source.Honest) :
    (readMarker.run source).Contained Honest fun _ => True := by
  refine (contained_receive honest (.integer Marker.size) Marker.size).bind ?_
  intro octets between four betweenHonest
  obtain ⟨marker, fits, rfl⟩ := exists_marker_of_length four
  rw [markerIn, Marker.ofOctets?_octets fits]
  exact .of_ok betweenHonest trivial []

theorem contained_readAway (honest : source.Honest) (length : Value) (count : Nat) :
    ((readAway length count).run source).Contained Honest fun _ => True := by
  obtain ⟨leftHonest, system, _⟩ := pull_honest isPortion_drain count honest
  simp only [readAway]
  split
  · exact .of_ok leftHonest trivial _
  · exact .of_ok leftHonest trivial _
  · rename_i fault failed
    rw [if_pos (system fault failed)]
    exact .of_ok leftHonest trivial _

theorem contained_refusePayload (honest : source.Honest) (limit : Value) (marker : Marker) :
    ((refusePayload limit marker).run source).Contained Honest fun _ => True := by
  have noted : ((Activity.note (.discarding marker.length limit)).run source).Contained Honest
      fun _ => True := .of_ok honest trivial _
  refine noted.bind fun _ between _ betweenHonest => ?_
  refine (contained_readAway betweenHonest (.integer marker.length) marker.length).bind ?_
  rintro ⟨discarded, obstacle⟩ last - lastHonest
  cases obstacle with
  | none => exact .of_error lastHonest rfl []
  | some obstacle => exact .of_error lastHonest rfl []

theorem contained_acceptPayload (honest : source.Honest) (marker : Marker) :
    ((acceptPayload marker).run source).Contained Honest fun _ => True := by
  refine (contained_receive honest (.integer marker.length) marker.length).bind ?_
  intro payload between _ betweenHonest
  exact .of_ok betweenHonest trivial _

/-- What stands behind a marker is accepted or violates the protocol, unless the source ends or
fails. -/
theorem contained_readPayload (honest : source.Honest) (limit : Int) (marker : Marker) :
    ((readPayload (.integer limit) marker).run source).Contained Honest fun _ => True := by
  by_cases empty : marker.length < 1
  · rw [readPayload, if_pos empty]
    exact .of_error honest rfl _
  · rw [readPayload_integer limit (by omega)]
    split
    · exact contained_refusePayload honest (.integer limit) marker
    · exact contained_acceptPayload honest marker

theorem contained_assemble (honest : source.Honest) (limit : Int) (marker : Marker)
    (pieces : List Octets) :
    ((assemble (.integer limit) marker pieces).run source).Contained Honest fun _ => True := by
  simp only [assemble]
  generalize same : Value.integer limit = bound
  fun_induction assembleFrom bound marker pieces source with
  | case1 marker pieces source fault trace rest accepted =>
    have payload := contained_readPayload honest limit marker
    rw [same, accepted] at payload
    exact .of_error payload.kept (payload.failed fault rfl) trace
  | case2 marker pieces source payload trace rest accepted last =>
    have accepting := contained_readPayload honest limit marker
    rw [same, accepted] at accepting
    exact .of_ok accepting.kept trivial _
  | case3 marker pieces source payload trace rest accepted notLast fault later last announced =>
    have accepting := contained_readPayload honest limit marker
    rw [same, accepted] at accepting
    have announcing := contained_readMarker accepting.kept
    rw [announced] at announcing
    exact .of_error announcing.kept (announcing.failed fault rfl) _
  | case4 marker pieces source payload trace rest accepted notLast next later last announced
      inductionHypothesis =>
    have accepting := contained_readPayload honest limit marker
    rw [same, accepted] at accepting
    have announcing := contained_readMarker accepting.kept
    rw [announced] at announcing
    exact (inductionHypothesis announcing.kept).after _

/-- Whatever an honest source holds, reading a record from it fails only in ways that end a
conversation. -/
theorem contained_nextRecord (honest : source.Honest) (limit : Int) :
    ((nextRecord (.integer limit)).run source).Contained Honest fun _ => True := by
  have announcing := contained_readMarker honest
  simp only [nextRecord]
  rcases ran : readMarker.run source with ⟨announced, trace, rest⟩
  rw [ran] at announcing
  cases announced with
  | error fault =>
    have contained := announcing.failed fault rfl
    dsimp only
    split
    · exact .of_ok announcing.kept trivial _
    · rw [Fault.insideIterator_of_endsConversation contained]
      exact .of_error announcing.kept contained trace
  | ok marker =>
    have assembling := contained_assemble announcing.kept limit marker []
    dsimp only
    rcases assembled : (assemble (.integer limit) marker []).run rest with ⟨completed, later, last⟩
    rw [assembled] at assembling
    cases completed with
    | error fault =>
      have contained := assembling.failed fault rfl
      dsimp only
      rw [Fault.insideIterator_of_endsConversation contained]
      exact .of_error assembling.kept contained _
    | ok record => exact .of_ok assembling.kept trivial _

end Source

namespace Sink

variable {sink : Sink}

/-- The next answer of an honest sink is honest, also when it has none of its own. -/
theorem honest_nextAnswer (honest : sink.Honest) : sink.nextAnswer.honest = true := by
  rw [nextAnswer]
  cases answers : sink.answers with
  | nil => rfl
  | cons acceptance later => exact honest acceptance (answers ▸ List.mem_cons_self)

theorem contained_write (honest : sink.Honest) (octets : Octets) :
    ((write octets).run sink).Contained Honest fun _ => True := by
  have next := honest_nextAnswer honest
  refine ⟨fun acceptance among => honest acceptance (List.mem_of_mem_tail among),
    fun _ _ => trivial, ?_⟩
  intro fault failed
  have answered : (answer octets sink.nextAnswer).2 = .error fault := failed
  cases acceptance : sink.nextAnswer with
  | fault failure =>
    rw [acceptance] at answered next
    cases answered
    exact Echo.endsConversation_of_isSystem next
  | _ =>
    rw [acceptance] at answered
    cases answered

/-- A write that is not taken in full fails as the system fails. -/
theorem contained_writeAll (honest : sink.Honest) (octets : Octets) :
    ((writeAll octets).run sink).Contained Honest fun _ => True := by
  refine (contained_write honest octets).bind ?_
  intro returned between _ betweenHonest
  match returned with
  | none => exact .of_ok betweenHonest trivial []
  | some count =>
    dsimp only
    by_cases whole : count = octets.length
    · rw [if_pos whole]
      exact .of_ok betweenHonest trivial []
    · rw [if_neg whole]
      exact .of_error betweenHonest rfl []

/-- A reply that a marker can announce fails only in ways that end a conversation. -/
theorem contained_writeReply (honest : sink.Honest) {record : Octets}
    (fits : record.length ≤ Marker.maxLength) :
    ((writeReply record).run sink).Contained Honest fun _ => True := by
  rw [writeReply_of_fits fits]
  refine (contained_writeAll honest _).bind fun _ between _ betweenHonest => ?_
  refine (contained_writeAll betweenHonest record).bind fun _ last _ lastHonest => ?_
  exact .of_ok lastHonest trivial _

end Sink

namespace Echo

variable {address limit : Value} {duplex last : Duplex} {trace : List Event}

/-- A handler that is stopped by no other faults than those it contains returns. -/
theorem result_handle_of_contained (contained : ∀ fault,
      ((replyToAll address limit).run duplex).result = .error fault →
        endsConversation fault = true) :
    ((handle address limit).run duplex).result = .ok () := by
  rw [run_handle]
  cases replied : ((replyToAll address limit).run duplex).result with
  | ok => rfl
  | error fault =>
    rw [closing, if_pos (contained fault replied)]

/-- A fault that is not the handler's to contain ends it. -/
theorem run_handle_of_uncontained {fault : Fault}
    (ran : (replyToAll address limit).run duplex = ⟨.error fault, trace, last⟩)
    (uncontained : endsConversation fault = false) :
    (handle address limit).run duplex =
      ⟨.error fault, .announce (.clientConnected address) :: trace, last⟩ := by
  rw [run_handle, ran]
  simp [closing, uncontained]

/-- How replying to records ends on honest streams: all records that were shown could be announced,
and a fault is one that ends the conversation, or the last record shown is the first that could not
be announced. -/
inductive Concludes (address : Value) (duplex : Duplex) (outcome : Outcome Duplex Unit) :
    List Octets → Prop where
  | contained {shown : List Octets} (fit : ∀ record ∈ shown, record.length ≤ Marker.maxLength)
      (ends : ∀ fault, outcome.result = .error fault → endsConversation fault = true) :
      Concludes address duplex outcome shown
  | outgrown {earlier : List Octets} {record : Octets}
      (fit : ∀ other ∈ earlier, other.length ≤ Marker.maxLength)
      (long : Marker.maxLength < record.length)
      (result_eq : outcome.result = .error (.lengthOutOfRange (.integer record.length)))
      (replied : outcome.state.output.accepted = duplex.output.accepted ++ replies earlier) :
      Concludes address duplex outcome (earlier ++ [record])

/-- Behind a reply that was written the handler ends as it ends from there. -/
theorem Concludes.after_exchange {record : Octets} {outcome : Outcome Duplex Unit}
    {shown : List Octets} (exchange : Exchange address record duplex ⟨.ok (), trace, last⟩)
    (fits : record.length ≤ Marker.maxLength) (concludes : Concludes address last outcome shown) :
    Concludes address duplex (outcome.after trace) (record :: shown) := by
  cases concludes with
  | contained fit ends =>
    exact .contained (List.forall_mem_cons.2 ⟨fits, fit⟩) ends
  | outgrown fit long result_eq replied =>
    refine .outgrown (List.forall_mem_cons.2 ⟨fits, fit⟩) long result_eq ?_
    obtain ⟨accepted, _, _⟩ := exchange.succeeded rfl
    rw [Outcome.state_after, replied, show last.output.accepted = _ from accepted,
      List.append_assoc]
    rfl

/-- A record that is too long to be announced is shown, and then the reply fails. -/
theorem run_reply_of_too_long {record : Octets} (long : Marker.maxLength < record.length)
    (duplex : Duplex) :
    (reply address record).run duplex =
      ⟨.error (.lengthOutOfRange (.integer record.length)),
        [.announce (.recordReceived address record)], duplex⟩ := by
  rw [run_reply, Sink.run_writeReply_of_too_long long]

theorem contained_nextRequest (honest : duplex.Honest) (limit : Int) :
    ((nextRequest (.integer limit)).run duplex).Contained Duplex.Honest fun _ => True := by
  have reading := Source.contained_nextRecord honest.input limit
  exact ⟨⟨reading.kept, honest.output⟩, fun _ _ => trivial, reading.failed⟩

theorem contained_reply (honest : duplex.Honest) (address : Value) {record : Octets}
    (fits : record.length ≤ Marker.maxLength) :
    ((reply address record).run duplex).Contained Duplex.Honest fun _ => True := by
  have writing := Sink.contained_writeReply honest.output fits
  exact ⟨⟨honest.input, writing.kept⟩, fun _ _ => trivial, writing.failed⟩

/-- On honest streams, replying to records goes on until a fault ends the conversation, or until a
record turns up that cannot be announced. -/
theorem concludes_replyToAll (address : Value) (limit : Int) (honest : duplex.Honest) :
    ∃ shown, shown <+: (Source.iterate (.integer limit) duplex.input).records ∧
      ((replyToAll address (.integer limit)).run duplex).trace.filterMap Event.announced? =
        shown.map (.recordReceived address) ∧
      Concludes address duplex ((replyToAll address (.integer limit)).run duplex) shown := by
  simp only [replyToAll]
  generalize same : Value.integer limit = bound
  fun_induction replyToAllFrom address bound duplex with
  | case1 duplex fault trace next read =>
    obtain ⟨given, _⟩ := nextRecord_of_nextRequest read
    have reading := contained_nextRequest honest limit
    have reads := (Source.completes_nextRecord bound duplex.input).2 (by simp [given])
    rw [given] at reads
    rw [same, read] at reading
    refine ⟨[], List.nil_prefix, (filterMap_eq_nil_of_reads reads).2.1, ?_⟩
    refine .contained (List.forall_mem_nil _) fun other failed => ?_
    cases failed
    exact reading.failed fault rfl
  | case2 duplex trace next read =>
    obtain ⟨given, _⟩ := nextRecord_of_nextRequest read
    have reads := (Source.completes_nextRecord bound duplex.input).2 (by simp [given])
    rw [given] at reads
    refine ⟨[], List.nil_prefix, (filterMap_eq_nil_of_reads reads).2.1, ?_⟩
    exact .contained (List.forall_mem_nil _) (by simp)
  | case3 duplex record trace next read fault later last replied =>
    obtain ⟨given, unwritten⟩ := nextRecord_of_nextRequest read
    have exchange := exchange_of_reply read replied
    have reading := contained_nextRequest honest limit
    rw [same, read] at reading
    rw [Source.iterate_of_record given]
    refine ⟨[record], ⟨_, rfl⟩, exchange.announced, ?_⟩
    by_cases fits : record.length ≤ Marker.maxLength
    · have replying := contained_reply reading.kept address fits
      rw [replied] at replying
      exact .contained (by simpa using fits) replying.failed
    · have long : Marker.maxLength < record.length := by omega
      rw [run_reply_of_too_long long] at replied
      cases replied
      have replied : next.output.accepted = duplex.output.accepted ++ replies [] := by
        rw [unwritten]
        exact (List.append_nil _).symm
      exact .outgrown (List.forall_mem_nil _) long rfl replied
  | case4 duplex record trace next read later last replied inductionHypothesis =>
    obtain ⟨given, _⟩ := nextRecord_of_nextRequest read
    have exchange := exchange_of_reply read replied
    have reading := contained_nextRequest honest limit
    rw [same, read] at reading
    have fits : record.length ≤ Marker.maxLength := by
      refine Nat.le_of_not_lt fun long => ?_
      rw [run_reply_of_too_long long] at replied
      cases replied
    have replying := contained_reply reading.kept address fits
    rw [replied] at replying
    obtain ⟨shown, begins, announced, concludes⟩ := inductionHypothesis replying.kept
    rw [input_of_reply replied] at begins
    rw [Source.iterate_of_record given]
    refine ⟨record :: shown, List.cons_prefix_cons.2 ⟨rfl, begins⟩, ?_,
      concludes.after_exchange exchange fits⟩
    rw [Outcome.trace_after, List.filterMap_append, announced,
      show (trace ++ later).filterMap Event.announced? = _ from exchange.announced]
    rfl

/-- A text begins as its first part does. -/
theorem head?_toList_append {text : String} {first : Char}
    (begins : text.toList.head? = some first) (rest : String) :
    (text ++ rest).toList.head? = some first := by
  rw [String.toList_append, List.head?_append, begins]
  rfl

/-- That a client is gone is not shown by the lines about its arrival and its records. -/
theorem disconnectedLine_notMem (address : Value) (shown : List Octets) :
    disconnectedLine address ∉ connectedLine address :: shown.map (receivedLine address) := by
  intro among
  rcases List.mem_cons.1 among with arrival | received
  · exact absurd ((String.append_right_inj _).1 arrival) (by decide)
  · obtain ⟨record, _, same⟩ := List.mem_map.1 received
    have server : "Server received record from ".toList.head? = some 'S' := by decide
    have client : "Client ".toList.head? = some 'C' := by decide
    have begins : (receivedLine address record).toList.head? = some 'S' :=
      head?_toList_append (head?_toList_append (head?_toList_append server _) _) _
    have other : (disconnectedLine address).toList.head? = some 'C' :=
      head?_toList_append (head?_toList_append client _) _
    rw [same, other] at begins
    exact absurd begins (by decide)

/-- On honest streams the handler shows the records that it reads, and ends in one of two ways. If a
marker can announce each of these records, it returns, and the last line that it shows is that the
client is gone. Otherwise the first record that is too long is the last one that it reads: the
handler has replied to all records before it, shows it in its last line, and fails for its length,
without a line about the departure of the client. -/
theorem disconnects_or_outgrown (address : Value) (limit : Int) {duplex : Duplex}
    (honest : duplex.Honest) :
    let outcome := (handle address (.integer limit)).run duplex
    ∃ shown lines, shown <+: (Source.iterate (.integer limit) duplex.input).records ∧
      printed outcome.trace =
        connectedLine address :: shown.map (receivedLine address) ++ lines ∧
      Closes address outcome.result lines ∧
      ((∀ record ∈ shown, record.length ≤ Marker.maxLength) ∧
          outcome.result = .ok () ∧
          (printed outcome.trace).getLast? = some (disconnectedLine address) ∨
        ∃ earlier record, shown = earlier ++ [record] ∧
          (∀ other ∈ earlier, other.length ≤ Marker.maxLength) ∧
          Marker.maxLength < record.length ∧
          outcome.result = .error (.lengthOutOfRange (.integer record.length)) ∧
          (printed outcome.trace).getLast? = some (receivedLine address record) ∧
          disconnectedLine address ∉ printed outcome.trace ∧
          outcome.state.output.accepted = duplex.output.accepted ++ replies earlier) := by
  intro outcome
  obtain ⟨shown, begins, announced, concludes⟩ := concludes_replyToAll address limit honest
  have printed_eq : printed outcome.trace = _ := printed_handle address announced
  have closes := closes_handle address (.integer limit) duplex
  refine ⟨shown, _, begins, printed_eq, closes, ?_⟩
  rw [printed_eq]
  cases concludes with
  | contained fit ends =>
    have returned : outcome.result = .ok () := result_handle_of_contained ends
    rw [show ((handle address (.integer limit)).run duplex).result = _ from returned] at closes
    refine .inl ⟨fit, returned, ?_⟩
    rw [List.getLast?_append, closes.getLast?_eq]
    rfl
  | @outgrown earlier record fit long result_eq replied =>
    match ran : (replyToAll address (.integer limit)).run duplex with
    | ⟨result, trace, last⟩ =>
      rw [ran] at result_eq replied
      obtain rfl : result = _ := result_eq
      have whole : outcome = _ := run_handle_of_uncontained ran rfl
      have silent :
          (closing address (.error (.lengthOutOfRange (.integer record.length)))).2 = [] := rfl
      rw [whole, silent, List.map_nil, List.append_nil]
      refine .inr ⟨earlier, record, rfl, fit, long, rfl, ?_,
        disconnectedLine_notMem address _, replied⟩
      rw [List.map_append, ← List.cons_append]
      exact List.getLast?_concat

/-- Two records, cut anywhere, and the failure of the system while the reply to the second one is
written: the client is given up. -/
theorem disconnects_after_torn_reply :
    let address : Value := .tuple [.text "127.0.0.1", .integer 5000]
    let input : Source :=
      [.data [0x80, 0, 0], .data [1, 0x41, 0, 0, 0, 1], .data [0x42, 0x80, 0, 0, 1, 0x43],
        .fault (.report (.system .unspecified) [.integer 104, .text "reset"])]
    let duplex : Duplex := ⟨input, .ofAnswers [.full, .silent, .full, .count 1]⟩
    let outcome := (handle address (.integer 16)).run duplex
    duplex.Honest ∧ outcome.result = .ok () ∧
      (printed outcome.trace).getLast? = some "Client ('127.0.0.1', 5000) disconnected" := by
  intro address input duplex outcome
  have honest : duplex.Honest := ⟨by decide +kernel, by decide +kernel⟩
  have records_eq :
      (Source.iterate (.integer 16) duplex.input).records = [[0x41], [0x42, 0x43]] := by
    decide +kernel
  have line_eq : disconnectedLine address = "Client ('127.0.0.1', 5000) disconnected" := by
    decide +kernel
  rw [← line_eq]
  obtain ⟨shown, _, begins, _, _, ⟨_, returned, lastLine⟩ | ⟨earlier, record, rfl, _, long, _⟩⟩ :=
    disconnects_or_outgrown address 16 honest
  · exact ⟨honest, returned, lastLine⟩
  · have among : record ∈ [[0x41], [0x42, 0x43]] := by
      rw [← records_eq]
      exact begins.subset (List.mem_append_right _ List.mem_cons_self)
    have short : ∀ other ∈ ([[0x41], [0x42, 0x43]] : List Octets), other.length ≤ 2 := by decide
    have bounded := short record among
    rw [Marker.maxLength] at long
    omega

/-- Reading a record announces nothing. -/
theorem announced_of_nextRequest {next : Duplex} {record : Octets}
    (read : (nextRequest limit).run duplex = ⟨.ok (some record), trace, next⟩) :
    trace.filterMap Event.announced? = [] := by
  obtain ⟨before, fragments, rfl, reads⟩ := trace_of_nextRequest read
  rw [List.filterMap_append, (filterMap_eq_nil_of_reads reads).2.1]
  rfl

theorem flatMap_octets_ne_nil {fragments : List Fragment} (formed : Fragment.FormRecord fragments) :
    fragments.flatMap Fragment.octets ≠ [] := by
  match fragments with
  | [] => exact formed.elim
  | fragment :: later => exact List.append_ne_nil_of_left_ne_nil (List.cons_ne_nil _ _) _

/-- A client that sends a record of fragments which are all accepted, but which make up more than a
marker can announce, has the handler fail, and no line shows that the client is gone. -/
theorem handle_of_outgrown {limit size : Int} {record : Octets} (address : Value)
    (framable : Framable limit record size) (long : Marker.maxLength < record.length) :
    let framed := (fragments size.toNat record).flatMap Fragment.octets
    let duplex : Duplex := ⟨[.data framed], .ofAnswers []⟩
    let outcome := (handle address (.integer limit)).run duplex
    frame record (.integer size) = .ok framed ∧ duplex.Honest ∧
      outcome.result = .error (.lengthOutOfRange (.integer record.length)) ∧
      disconnectedLine address ∉ printed outcome.trace := by
  intro framed duplex outcome
  have honest : duplex.Honest :=
    ⟨List.forall_mem_singleton.2 rfl, List.forall_mem_nil _⟩
  refine ⟨framable.frame_eq, honest, ?_⟩
  have behaved : duplex.input.WellBehaved :=
    Source.wellBehaved_cons_data.2
      ⟨flatMap_octets_ne_nil framable.formRecord, Source.wellBehaved_nil⟩
  have opens : opening limit duplex.input.octets = (fragments size.toNat record, []) :=
    opening_flatMap_octets framable.formRecord (fun _ among => framable.accepted among) []
  have reading := Source.leaves_nextRecord
    (Source.leaves_readOn limit behaved [] (by rw [opens]; exact framable.formRecord))
  rw [opens, join_fragments] at reading
  match read : (nextRequest (.integer limit)).run duplex with
  | ⟨result, trace, next⟩ =>
    obtain ⟨given, _⟩ := nextRecord_of_nextRequest read
    rw [given] at reading
    obtain rfl : result = .ok (some record) := reading.result_eq
    have ran : (replyToAll address (.integer limit)).run duplex =
        ⟨.error (.lengthOutOfRange (.integer record.length)),
          trace ++ [.announce (.recordReceived address record)], next⟩ := by
      rw [replyToAll_eq, Activity.run_bind_ok read]
      dsimp only
      rw [Activity.run_bind_error (run_reply_of_too_long long next)]
      rfl
    have failed : outcome.result = .error (.lengthOutOfRange (.integer record.length)) := by
      rw [show outcome = _ from run_handle_of_uncontained ran rfl]
    have announced : ((replyToAll address (.integer limit)).run duplex).trace.filterMap
        Event.announced? = [record].map (.recordReceived address) := by
      rw [ran, List.filterMap_append, announced_of_nextRequest read]
      rfl
    have shown : printed outcome.trace = _ := printed_handle address announced
    rw [shown, ran]
    exact ⟨failed, disconnectedLine_notMem address [record]⟩

/-- As many zeros as a marker cannot announce, in fragments of the default size, which a reader with
the default limit accepts. -/
theorem handle_fails_on_outgrown_record :
    let address : Value := .text "peer"
    let record : Octets := List.replicate (Marker.maxLength + 1) 0
    let framed := (fragments defaultFragmentSize.toNat record).flatMap Fragment.octets
    let duplex : Duplex := ⟨[.data framed], .ofAnswers []⟩
    let outcome := (handle address (.integer defaultLimit)).run duplex
    frame record (.integer defaultFragmentSize) = .ok framed ∧ duplex.Honest ∧
      outcome.result = .error (.lengthOutOfRange (.integer record.length)) ∧
      disconnectedLine address ∉ printed outcome.trace := by
  have length : (List.replicate (Marker.maxLength + 1) 0 : Octets).length = Marker.maxLength + 1 :=
    List.length_replicate
  have framable : Framable defaultLimit (List.replicate (Marker.maxLength + 1) 0)
      defaultFragmentSize :=
    ⟨List.ne_nil_of_length_eq_add_one length, by decide, by decide,
      Int.lt_of_le_of_lt (Int.min_le_right _ _) (by decide)⟩
  have long : Marker.maxLength < (List.replicate (Marker.maxLength + 1) 0 : Octets).length := by
    rw [length]
    exact Nat.lt_succ_self _
  exact handle_of_outgrown (.text "peer") framable long

end Echo

end RecordMarking
