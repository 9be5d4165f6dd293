import Mathlib.Data.List.TakeWhile
import RecordMarking.Proofs.Containment
import RecordMarking.Proofs.Skipping

/-!
# Reading the echo

The handler reads a record in fragments and replies to it in a single one. Its limit bounds the
fragments, so a record may be as long as the limit or longer, and then its reply is a fragment that
a reader with the same limit refuses.

`result_replyToAll` says that a handler of which every write is taken ends as an iterator on its
input ends, and `records_iterate_replies` what an iterator on the replies gives: the records in
front of the first one that is not below the limit. `echoed_records_read_back` puts both together,
and `echo_of_long_record_refused` is a client that does not get its record back.
-/

namespace RecordMarking

/-- A record in a single fragment. -/
def Fragment.whole (record : Octets) : Fragment := ⟨record, true⟩

/-- Whether a reader accepts a record in a single fragment, as far as its length goes. -/
def Octets.below (limit : Int) (record : Octets) : Bool :=
  record.length < limit

/-- In a single fragment a record is oversized just if it is not below the limit. -/
theorem Fragment.oversized_whole (limit : Int) (record : Octets) :
    (whole record).oversized limit = !record.below limit := by
  rw [Octets.below, ← decide_not]
  exact decide_eq_decide.2 Int.not_lt.symm

namespace Echo

section Replies

variable {limit : Int} {records : List Octets}

/-- The reply to a record that is not below the limit stops a reader. -/
theorem front_replies_of_long {record : Octets}
    (announceable : (Fragment.whole record).Announceable) (long : record.below limit = false)
    (later : List Octets) :
    (front limit (replies (record :: later))).payload limit =
        .error ((Fragment.whole record).refusal limit) ∧
      (front limit (replies (record :: later))).isFragment = false := by
  have oversized : (Fragment.whole record).oversized limit = true := by
    rw [Fragment.oversized_whole, long]
    rfl
  obtain ⟨refused, _⟩ := front_octets_append_of_oversized announceable oversized (replies later)
  refine ⟨refused, ?_⟩
  have stands : replies (record :: later) = (Fragment.whole record).octets ++ replies later := rfl
  rw [stands]
  match found : front limit ((Fragment.whole record).octets ++ replies later) with
  | .fragment _ _ =>
    rw [found] at refused
    cases refused
  | .cutMarker _ | .zeroLength _ | .tooLarge .. | .cutPayload .. => rfl

/-- The replies to records split into the accepted ones in front, and what begins with the first one
that is not below the limit. -/
theorem split_replies (announceable : ∀ record ∈ records, (Fragment.whole record).Announceable) :
    split limit (replies records) =
      ((records.takeWhile (Octets.below limit)).map Fragment.whole,
        replies (records.dropWhile (Octets.below limit))) := by
  induction records with
  | nil => exact split_of_blocked rfl
  | cons record later inductionHypothesis =>
    obtain ⟨first, others⟩ := List.forall_mem_cons.1 announceable
    cases fits : record.below limit with
    | true =>
      have small : (Fragment.whole record).oversized limit = false := by
        rw [Fragment.oversized_whole, fits]
        rfl
      have found : front limit (replies (record :: later)) =
          .fragment (Fragment.whole record) (replies later) :=
        front_octets_append (accepted_of_not_oversized first small) (replies later)
      rw [split_of_front found, inductionHypothesis others, List.takeWhile_cons_of_pos fits,
        List.dropWhile_cons_of_pos fits]
      rfl
    | false =>
      rw [List.takeWhile_cons_of_neg (by simp [fits]), List.dropWhile_cons_of_neg (by simp [fits])]
      exact split_of_blocked (front_replies_of_long first fits later).2

theorem regroup_whole (records : List Octets) :
    regroup [] (records.map Fragment.whole) = (records, []) := by
  induction records with
  | nil => rfl
  | cons record later inductionHypothesis =>
    have last : (Fragment.whole record).last = true := rfl
    rw [List.map_cons, regroup, inductionHypothesis, if_pos last]
    rfl

/-- An iterator on the replies to records gives those in front of the first one that is not below
the limit. -/
theorem records_iterate_replies {back : Source}
    (announceable : ∀ record ∈ records, (Fragment.whole record).Announceable)
    (behaved : back.WellBehaved) (holds : back.octets = replies records) :
    (Source.iterate (.integer limit) back).records = records.takeWhile (Octets.below limit) := by
  obtain ⟨given, _⟩ := Source.iterate_of_wellBehaved limit behaved
  rw [given, holds, split_replies announceable, regroup_whole]

/-- It ends cleanly if there is no such record. -/
theorem ending_iterate_replies {back : Source}
    (announceable : ∀ record ∈ records, (Fragment.whole record).Announceable)
    (behaved : back.WellBehaved) (holds : back.octets = replies records)
    (fit : ∀ record ∈ records, record.below limit = true) :
    (Source.iterate (.integer limit) back).ending = .ok () := by
  obtain ⟨_, ending, _⟩ := Source.iterate_of_wellBehaved limit behaved
  have none : records.dropWhile (Octets.below limit) = [] := List.dropWhile_eq_nil_iff.2 fit
  rw [ending, holds, split_replies announceable, regroup_whole, none]
  rfl

/-- It ends with the refusal of the reply to this record if there is one. -/
theorem ending_iterate_replies_of_long {earlier later : List Octets} {record : Octets}
    {back : Source}
    (announceable : ∀ other ∈ earlier ++ record :: later, (Fragment.whole other).Announceable)
    (behaved : back.WellBehaved) (holds : back.octets = replies (earlier ++ record :: later))
    (fit : ∀ other ∈ earlier, other.below limit = true) (long : record.below limit = false) :
    (Source.iterate (.integer limit) back).ending =
      .error ((Fragment.whole record).refusal limit) := by
  obtain ⟨_, ending, _⟩ := Source.iterate_of_wellBehaved limit behaved
  have stops : (earlier ++ record :: later).dropWhile (Octets.below limit) = record :: later := by
    rw [List.dropWhile_append_of_pos fit, List.dropWhile_cons_of_neg (by simp [long])]
  obtain ⟨refused, _⟩ := front_replies_of_long
    (announceable record (List.mem_append_right _ List.mem_cons_self)) long later
  have something : ¬ (([] : Octets) = [] ∧ replies (record :: later) = []) := by
    rintro ⟨_, nothing⟩
    cases nothing
  rw [ending, holds, split_replies announceable, regroup_whole, stops, Source.Iteration.endingAt,
    if_neg something, refused]
  rfl

end Replies

section Result

variable {address limit : Value} {duplex : Duplex}

/-- Reading a record offers nothing. -/
theorem offers_of_nextRequest {next : Duplex} {trace : List Event} {record : Octets}
    (read : (nextRequest limit).run duplex = ⟨.ok (some record), trace, next⟩) :
    Sink.offers trace = [] := by
  obtain ⟨before, fragments, rfl, reads⟩ := trace_of_nextRequest read
  rw [Sink.offers_append, (filterMap_eq_nil_of_reads reads).2.2]
  rfl

/-- A reply of which both writes are taken succeeds, if a marker can announce it. -/
theorem result_reply_of_taken {record : Octets} (fits : record.length ≤ Marker.maxLength)
    (taken : Sink.tookAll duplex.output.answers
      (Sink.offers ((reply address record).run duplex).trace) = true) :
    ((reply address record).run duplex).result = .ok () :=
  (Sink.answered_writeReply fits duplex.output).succeeds.2 taken

/-- A handler of which every write is taken ends as an iterator on its input ends, if markers can
announce all records. -/
theorem result_replyToAll
    (fit : ∀ record ∈ (Source.iterate limit duplex.input).records,
      record.length ≤ Marker.maxLength)
    (taken : Sink.tookAll duplex.output.answers
      (Sink.offers ((replyToAll address limit).run duplex).trace) = true) :
    ((replyToAll address limit).run duplex).result =
      (Source.iterate limit duplex.input).ending := by
  simp only [replyToAll] at taken ⊢
  fun_induction replyToAllFrom address limit duplex with
  | case1 duplex fault trace next read =>
    obtain ⟨given, _⟩ := nextRecord_of_nextRequest read
    rw [Source.iterate_of_error given]
  | case2 duplex trace next read =>
    obtain ⟨given, _⟩ := nextRecord_of_nextRequest read
    rw [Source.iterate_of_end given]
  | case3 duplex record trace next read fault later last replied =>
    obtain ⟨given, same⟩ := nextRecord_of_nextRequest read
    rw [Source.iterate_of_record given] at fit
    rw [Sink.offers_append, offers_of_nextRequest read, List.nil_append, ← same] at taken
    have succeeds := @result_reply_of_taken address next record (fit record List.mem_cons_self)
    rw [replied] at succeeds
    cases succeeds taken
  | case4 duplex record trace next read later last replied inductionHypothesis =>
    obtain ⟨given, _⟩ := nextRecord_of_nextRequest read
    obtain ⟨_, answers, all⟩ := (exchange_of_reply read replied).succeeded rfl
    rw [Source.iterate_of_record given] at fit ⊢
    rw [Outcome.trace_after, Sink.offers_append, Sink.tookAll_append,
      ← show last.output.answers = _ from answers, Bool.and_eq_true] at taken
    rw [input_of_reply replied] at inductionHypothesis
    exact inductionHypothesis (fun other among => fit other (List.mem_cons_of_mem _ among)) taken.2

/-- What the handler writes, it writes in its loop. -/
theorem offers_handle (address limit : Value) (duplex : Duplex) :
    Sink.offers ((handle address limit).run duplex).trace =
      Sink.offers ((replyToAll address limit).run duplex).trace := by
  rw [run_handle, Sink.offers_append, (filterMap_map_announce _).2.2.1, List.append_nil]
  rfl

/-- A handler that reads its input to a clean end, and of which every write is taken, returns and
has replied to every record. -/
theorem handle_of_clean_end
    (fit : ∀ record ∈ (Source.iterate limit duplex.input).records,
      record.length ≤ Marker.maxLength)
    (clean : (Source.iterate limit duplex.input).ending = .ok ())
    (taken : Sink.tookAll duplex.output.answers
      (Sink.offers ((handle address limit).run duplex).trace) = true) :
    ((handle address limit).run duplex).result = .ok () ∧
      ((handle address limit).run duplex).state.output.accepted =
        duplex.output.accepted ++ replies (Source.iterate limit duplex.input).records := by
  rw [offers_handle] at taken
  have returned := result_replyToAll fit taken
  rw [clean] at returned
  have contained : ∀ fault, ((replyToAll address limit).run duplex).result = .error fault →
      endsConversation fault = true := by
    intro fault failed
    rw [returned] at failed
    cases failed
  obtain ⟨_, echoes⟩ := echoes_replyToAll address limit duplex
  refine ⟨result_handle_of_contained contained, ?_⟩
  rw [run_handle]
  exact (echoes.finished taken contained).2

end Result

/-- The records that were framed are what an iterator gives on their frames, and then it ends
cleanly. -/
theorem iterate_of_frames {limit : Int} {records : List (Octets × Int)}
    (framable : ∀ entry ∈ records, Framable limit entry.1 entry.2) {source : Source}
    (behaved : source.WellBehaved)
    (holds : source.octets = ((fragmentGroups records).map (·.flatMap Fragment.octets)).flatten) :
    (Source.iterate (.integer limit) source).records = records.map Prod.fst ∧
      (Source.iterate (.integer limit) source).ending = .ok () := by
  obtain ⟨given, ending, _⟩ := Source.iterate_of_wellBehaved limit behaved
  have accepted : ∀ group ∈ fragmentGroups records, ∀ fragment ∈ group, fragment.Accepted limit :=
    fun group among fragment => accepted_of_mem_fragmentGroups framable among
  rw [holds, split_flatten_frames accepted,
    regroup_flatten fun group => formRecord_of_mem_fragmentGroups framable] at given ending
  rw [map_join_fragmentGroups] at given
  exact ⟨given, ending⟩

/-- Records that a client frames for a limit are all echoed, each in a single fragment. A reader
with the same limit gets exactly these records back just if each of them is shorter than the limit.
Otherwise it gets those in front of the first that is not, and then refuses the reply to that one.
-/
theorem echoed_records_read_back {limit : Int} (least : 2 ≤ limit) {records : List (Octets × Int)}
    (framable : ∀ entry ∈ records, Framable limit entry.1 entry.2)
    (announced : ∀ entry ∈ records, entry.1.length ≤ Marker.maxLength) :
    let sent := records.map Prod.fst
    checkLimit (.integer limit) = .ok limit ∧
      ∃ frames, records.mapM (fun entry => frame entry.1 (.integer entry.2)) = .ok frames ∧
        ∀ (address : Value) (duplex : Duplex), duplex.input.WellBehaved →
          duplex.input.octets = frames.flatten →
          let outcome := (handle address (.integer limit)).run duplex
          Sink.tookAll duplex.output.answers (Sink.offers outcome.trace) = true →
          outcome.result = .ok () ∧
            outcome.state.output.accepted = duplex.output.accepted ++ replies sent ∧
            ∀ back : Source, back.WellBehaved →
              duplex.output.accepted ++ back.octets = outcome.state.output.accepted →
              let echoed := Source.iterate (.integer limit) back
              (echoed.records = sent ∧ echoed.ending = .ok () ↔
                ∀ record ∈ sent, (record.length : Int) < limit) ∧
              ∀ earlier record later, sent = earlier ++ record :: later →
                (∀ other ∈ earlier, (other.length : Int) < limit) → limit ≤ record.length →
                echoed.records = earlier ∧
                  echoed.ending = .error (.fragmentTooLarge (.integer record.length)
                    (.integer limit) (.integer record.length)) := by
  intro sent
  have nonempty : ∀ record ∈ sent, (Fragment.whole record).Announceable := by
    intro record among
    obtain ⟨entry, listed, rfl⟩ := List.mem_map.1 among
    exact ⟨List.length_pos_iff.2 (framable entry listed).nonempty, announced entry listed⟩
  have fit : ∀ record ∈ sent, record.length ≤ Marker.maxLength :=
    fun record among => (nonempty record among).announced
  refine ⟨if_pos least, _, mapM_frame_eq framable, ?_⟩
  intro address duplex behaved holds outcome taken
  obtain ⟨given, clean⟩ := iterate_of_frames framable behaved holds
  obtain ⟨returned, accepted⟩ := handle_of_clean_end (by rwa [given]) clean taken
  rw [given] at accepted
  refine ⟨returned, accepted, ?_⟩
  intro back backBehaved written echoed
  have same : back.octets = replies sent := by
    rw [show outcome.state.output.accepted = _ from accepted] at written
    exact List.append_cancel_left written
  have gives := @records_iterate_replies limit sent back nonempty backBehaved same
  refine ⟨⟨?_, ?_⟩, ?_⟩
  · rintro ⟨whole, _⟩ record among
    rw [show echoed.records = _ from gives, List.takeWhile_eq_self_iff] at whole
    simpa [Octets.below] using whole record among
  · intro shorter
    have below : ∀ record ∈ sent, record.below limit = true :=
      fun record among => decide_eq_true (shorter record among)
    refine ⟨?_, ending_iterate_replies nonempty backBehaved same below⟩
    exact gives.trans (List.takeWhile_eq_self_iff.2 below)
  · intro earlier record later cut shorter long
    have below : ∀ other ∈ earlier, other.below limit = true :=
      fun other among => decide_eq_true (shorter other among)
    have above : record.below limit = false := decide_eq_false (Int.not_lt.2 long)
    rw [cut] at nonempty same gives
    refine ⟨?_, ending_iterate_replies_of_long nonempty backBehaved same below above⟩
    refine Eq.trans gives ?_
    rw [List.takeWhile_append_of_pos below, List.takeWhile_cons_of_neg (by simp [above]),
      List.append_nil]

/-- Under a limit of three, of the echoes of `a`, `bcde` and `f` only the first is read back. -/
theorem echoed_records_read_back_up_to_long :
    let records : List (Octets × Int) := [([97], 1), ([98, 99, 100, 101], 2), ([102], 1)]
    let address : Value := .text "peer"
    let input : Source :=
      [.data [0x80, 0, 0, 1, 97, 0, 0], .data [0, 2, 98, 99, 0x80],
        .data [0, 0, 2, 100, 101, 0x80, 0, 0, 1, 102]]
    let duplex : Duplex := ⟨input, .ofAnswers [.silent, .count 1]⟩
    let outcome := (handle address (.integer 3)).run duplex
    let back : Source :=
      [.data [0x80, 0, 0, 1, 97, 0x80, 0, 0, 4, 98, 99, 100, 101, 0x80, 0, 0, 1, 102]]
    (∀ entry ∈ records, Framable 3 entry.1 entry.2) ∧ outcome.result = .ok () ∧
      back.octets = outcome.state.output.accepted ∧
      (Source.iterate (.integer 3) back).records = [[97]] ∧
      (Source.iterate (.integer 3) back).ending =
        .error (.fragmentTooLarge (.integer 4) (.integer 3) (.integer 4)) := by
  intro records address input duplex outcome back
  have framable : ∀ entry ∈ records, Framable 3 entry.1 entry.2 := by
    refine List.forall_mem_cons.2 ⟨⟨by decide, by decide, by decide, by decide⟩, ?_⟩
    refine List.forall_mem_cons.2 ⟨⟨by decide, by decide, by decide, by decide⟩, ?_⟩
    exact List.forall_mem_singleton.2 ⟨by decide, by decide, by decide, by decide⟩
  obtain ⟨_, frames, framed, echoes⟩ :=
    echoed_records_read_back (by decide) framable (by decide +kernel)
  have frames_eq : records.mapM (fun entry => frame entry.1 (.integer entry.2)) =
      .ok [[0x80, 0, 0, 1, 97], [0, 0, 0, 2, 98, 99, 0x80, 0, 0, 2, 100, 101],
        [0x80, 0, 0, 1, 102]] := by
    decide +kernel
  rw [frames_eq] at framed
  cases framed
  have behaved : duplex.input.WellBehaved := by
    simp [duplex, input, Source.WellBehaved]
  obtain ⟨returned, accepted, reads⟩ :=
    echoes address duplex behaved (by decide +kernel) (by decide +kernel)
  have backBehaved : back.WellBehaved := by simp [back, Source.WellBehaved]
  have written : back.octets = outcome.state.output.accepted := by decide +kernel
  obtain ⟨_, stops⟩ := reads back backBehaved written
  obtain ⟨given, refused⟩ := stops [[97]] [98, 99, 100, 101] [[102]] rfl (by decide) (by decide)
  exact ⟨framable, returned, written, given, refused⟩

/-- Under a limit of two, a client sends `AB` in two fragments, which the handler accepts. The echo
is a single fragment, which a reader with the same limit refuses. -/
theorem echo_of_long_record_refused :
    let duplex : Duplex := ⟨[.data [0, 0, 0, 1, 0x41, 0x80, 0, 0, 1, 0x42]], .ofAnswers []⟩
    let outcome := (handle (.text "peer") (.integer 2)).run duplex
    frame [0x41, 0x42] (.integer 1) = .ok duplex.input.octets ∧ outcome.result = .ok () ∧
      outcome.state.output.accepted = [0x80, 0, 0, 2, 0x41, 0x42] ∧
      (Source.readAll (.integer 2) [.data outcome.state.output.accepted]).result =
        .error (.fragmentTooLarge (.integer 2) (.integer 2) (.integer 2)) := by
  decide +kernel

end Echo

end RecordMarking
