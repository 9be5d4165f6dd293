import RecordMarking.Proofs.Output
import RecordMarking.Proofs.Reading

/-!
# Reading a reply

`Sink.writeReply` frames a record without the checks of `frame`: it refuses a record that is too
long for a marker, but not one without octets. So what it writes is a fragment that a reader takes
for the whole record, unless the record is empty; then it is a marker that every reader refuses.

`leaves_readRecord_reply` and `leaves_readRecord_empty_reply` are the two cases of the reader, and
`reads_reply_unless_empty` joins them to the writer.
-/

namespace RecordMarking.Source

variable {limit : Int} {source : Source} {record behind : Octets}

/-- A single last fragment below the limit is read as the record, wherever it is cut. -/
theorem leaves_readRecord_reply (behaved : source.WellBehaved) (nonempty : record ≠ [])
    (announced : record.length ≤ Marker.maxLength) (below : (record.length : Int) < limit)
    (stands : source.octets = (⟨record, true⟩ : Fragment).octets ++ behind) :
    Leaves ((readRecord (.integer limit)).run source) (.ok record) behind := by
  have filled : 1 ≤ record.length := List.length_pos_iff.2 nonempty
  have clear : (Value.integer limit).isReachedBy record.length = .ok false := by
    simp [below]
  apply leaves_readOn_clear_fragment behaved filled announced clear stands
  intro between betweenBehaved left
  refine ⟨?_, left, betweenBehaved⟩
  simp [finish, bind, Activity.andThen, Activity.note]

/-- The reply to an empty record is refused as soon as its marker is read. -/
theorem leaves_readRecord_empty_reply (behaved : source.WellBehaved)
    (stands : source.octets = (⟨[], true⟩ : Fragment).octets ++ behind) :
    Leaves ((readRecord (.integer limit)).run source) (.error .zeroLengthFragment) behind := by
  have found : front limit source.octets = .zeroLength behind := by
    rw [stands, Fragment.octets, List.append_assoc, front_marker (Nat.zero_le _)]
    rfl
  have fails := leaves_readOn_error behaved [] (congrArg (Front.payload limit) found)
  rwa [found] at fails

/-- A reply of which every write is taken is written just if a marker can announce the record. Then
every reader whose limit is above the length of the record reads exactly the record and leaves what
stands behind the reply, unless the record is empty: the reply to an empty record is refused. -/
theorem reads_reply_unless_empty (record : Octets) (sink : Sink) :
    let outcome := (Sink.writeReply record).run sink
    Sink.tookAll sink.answers (Sink.offers outcome.trace) = true →
    (outcome.result = .ok () ↔ record.length ≤ Marker.maxLength) ∧
      (outcome.result = .ok () →
        ∀ (limit : Int) (source : Source) (behind : Octets), 2 ≤ limit →
          (record.length : Int) < limit → source.WellBehaved →
          sink.accepted ++ source.octets = outcome.state.accepted ++ behind →
          checkLimit (.integer limit) = .ok limit ∧
            (record ≠ [] →
              Leaves ((readRecord (.integer limit)).run source) (.ok record) behind) ∧
            (record = [] →
              Leaves ((readRecord (.integer limit)).run source) (.error .zeroLengthFragment)
                behind)) := by
  intro outcome taken
  have written_iff : outcome.result = .ok () ↔ record.length ≤ Marker.maxLength := by
    by_cases fits : record.length ≤ Marker.maxLength
    · exact iff_of_true ((Sink.answered_writeReply fits sink).succeeds.2 taken) fits
    · have refused := Sink.run_writeReply_of_too_long (Nat.not_le.1 fits) sink
      refine iff_of_false ?_ fits
      rw [show outcome = _ from refused]
      intro impossible
      cases impossible
  refine ⟨written_iff, ?_⟩
  intro written limit source behind least below behaved holds
  have complete := (Sink.outputs_writeReply record sink).complete written
  have stands : source.octets = (⟨record, true⟩ : Fragment).octets ++ behind := by
    rw [show outcome.state.accepted = _ from complete, List.append_assoc] at holds
    exact List.append_cancel_left holds
  refine ⟨if_pos least, ?_, ?_⟩
  · intro nonempty
    exact leaves_readRecord_reply behaved nonempty (written_iff.1 written) below stands
  · rintro rfl
    exact leaves_readRecord_empty_reply behaved stands

/-- A reply to `ok` is read from a source that cuts its marker in two, and the octet behind it is
left. -/
theorem reads_reply_behind_cut_marker :
    let outcome := (Sink.writeReply [111, 107]).run (.ofAnswers [.silent, .count 2])
    let source : Source := [.data [0x80, 0], .data [0, 2, 111, 107, 7]]
    outcome.result = .ok () ∧
      checkLimit (.integer 3) = .ok 3 ∧
      Leaves ((readRecord (.integer 3)).run source) (.ok [111, 107]) [7] := by
  intro outcome source
  obtain ⟨written_iff, reads⟩ :=
    reads_reply_unless_empty [111, 107] (.ofAnswers [.silent, .count 2]) (by decide +kernel)
  have written : outcome.result = .ok () := written_iff.2 (by decide)
  have behaved : source.WellBehaved := by simp [source, WellBehaved]
  obtain ⟨checked, whole, _⟩ :=
    reads written 3 source [7] (by decide) (by decide) behaved (by decide +kernel)
  exact ⟨written, checked, whole (by decide)⟩

/-- The reply to an empty record is written without a fault, and no reader accepts it. -/
theorem empty_reply_is_refused :
    let outcome := (Sink.writeReply []).run (.ofAnswers [])
    outcome.result = .ok () ∧ outcome.state.accepted = [0x80, 0, 0, 0] ∧
      checkLimit (.integer 32768) = .ok 32768 ∧
      ((readRecord (.integer 32768)).run [.data outcome.state.accepted]).result =
        .error .zeroLengthFragment := by
  decide +kernel

end RecordMarking.Source
