import RecordMarking.Reader
import RecordMarking.Proofs.Grammar
import RecordMarking.Proofs.Stream

/-!
# Reading well-behaved sources

On a well-behaved source a reader does what the grammar says, however the octets are cut:
`leaves_readOn` gives the record of an opening that forms one, and
`leaves_readOn_opening_error` the fault of what stands where the opening ends.
-/

namespace RecordMarking

/-- What can be read away of an oversized payload, and what hinders the rest. -/
def drained (length : Nat) (behind : Octets) : Nat × Option Fault :=
  if length ≤ behind.length then (length, none)
  else (behind.length, some (.shortRead (.integer behind.length) (.integer length)))

namespace Front

/-- What reading on comes to: the payload of an accepted fragment, or a fault. -/
def payload (limit : Int) : Front → Except Fault Octets
  | .fragment accepted _ => .ok accepted.payload
  | .cutMarker octets => .error (.shortRead (.integer octets.length) (.integer Marker.size))
  | .zeroLength _ => .error .zeroLengthFragment
  | .tooLarge length behind =>
    .error (Source.refusal length (.integer limit) (drained length behind))
  | .cutPayload marker behind =>
    .error (.shortRead (.integer behind.length) (.integer marker.length))

/-- The octets that are left when a reader has dealt with what stands there. -/
def unread : Front → Octets
  | .fragment _ rest => rest
  | .cutMarker _ | .cutPayload .. => []
  | .zeroLength behind => behind
  | .tooLarge length behind => behind.drop length

theorem exists_fault_of_blocked (limit : Int) {front : Front}
    (blocked : front.isFragment = false) : ∃ fault, front.payload limit = .error fault := by
  cases front with
  | fragment => simp [isFragment] at blocked
  | cutMarker | zeroLength | tooLarge | cutPayload => exact ⟨_, rfl⟩

end Front

namespace Source

variable {source : Source} {limit : Int}

theorem leaves_receive (behaved : source.WellBehaved) (size : Value) {count : Nat}
    (enough : count ≤ source.octets.length) :
    Leaves ((receive size count).run source) (.ok (source.octets.take count))
      (source.octets.drop count) := by
  obtain ⟨taken, left, leftBehaved, ending⟩ := pull_octets isPortion_id count behaved
  rw [if_pos enough] at ending
  simp only [receive, ending]
  exact ⟨by rw [taken], left, leftBehaved⟩

theorem leaves_receive_short (behaved : source.WellBehaved) (size : Value) {count : Nat}
    (short : source.octets.length < count) :
    Leaves ((receive size count).run source)
      (.error (.shortRead (.integer source.octets.length) size)) [] := by
  obtain ⟨taken, left, leftBehaved, ending⟩ := pull_octets isPortion_id count behaved
  rw [if_neg (by omega)] at ending
  rw [List.take_of_length_le (by omega)] at taken
  rw [List.drop_of_length_le (by omega)] at left
  simp only [receive, ending]
  exact ⟨by rw [taken], left, leftBehaved⟩

theorem leaves_readMarker (behaved : source.WellBehaved) {marker : Marker} {behind : Octets}
    (fits : marker.length ≤ Marker.maxLength) (stands : source.octets = marker.octets ++ behind) :
    Leaves (readMarker.run source) (.ok marker) behind := by
  have enough : Marker.size ≤ source.octets.length := by simp [stands]
  have begun := leaves_receive behaved (.integer Marker.size) enough
  rw [stands, List.take_left' marker.length_octets, List.drop_left' marker.length_octets] at begun
  refine begun.bind fun between betweenBehaved left => ?_
  rw [markerIn, Marker.ofOctets?_octets fits, ← left]
  exact .conclude betweenBehaved _

theorem leaves_readMarker_short (behaved : source.WellBehaved)
    (short : source.octets.length < Marker.size) :
    Leaves (readMarker.run source)
      (.error (.shortRead (.integer source.octets.length) (.integer Marker.size))) [] :=
  (leaves_receive_short behaved (.integer Marker.size) short).bind_error

theorem isPortion_drain : IsPortion (min drainPortion) := by
  intro missing positive
  rw [drainPortion]
  omega

theorem leaves_readAway (behaved : source.WellBehaved) (length : Nat) :
    Leaves ((readAway (.integer length) length).run source) (.ok (drained length source.octets))
      (source.octets.drop length) := by
  obtain ⟨taken, left, leftBehaved, ending⟩ :=
    pull_octets isPortion_drain length behaved
  by_cases enough : length ≤ source.octets.length
  · rw [if_pos enough] at ending
    simp only [readAway, ending, drained, if_pos enough]
    exact ⟨by rw [taken, List.length_take_of_le enough], left, leftBehaved⟩
  · rw [if_neg enough] at ending
    simp only [readAway, ending, drained, if_neg enough]
    exact ⟨by rw [taken, List.take_of_length_le (by omega)], left, leftBehaved⟩

theorem leaves_refusePayload (behaved : source.WellBehaved) (marker : Marker) :
    Leaves ((refusePayload (.integer limit) marker).run source)
      (.error (refusal marker.length (.integer limit) (drained marker.length source.octets)))
      (source.octets.drop marker.length) := by
  have noted : Leaves ((Activity.note (.discarding marker.length (.integer limit))).run source)
      (.ok ()) source.octets := ⟨rfl, rfl, behaved⟩
  refine noted.bind fun between betweenBehaved same => ?_
  rw [← same]
  refine (leaves_readAway betweenBehaved marker.length).bind fun last lastBehaved left => ?_
  rw [← left]
  exact .conclude lastBehaved _

theorem leaves_acceptPayload (behaved : source.WellBehaved) (marker : Marker)
    (enough : marker.length ≤ source.octets.length) :
    Leaves ((acceptPayload marker).run source) (.ok (source.octets.take marker.length))
      (source.octets.drop marker.length) := by
  refine (leaves_receive behaved (.integer marker.length) enough).bind
    fun between betweenBehaved left => ?_
  exact ⟨rfl, left, betweenBehaved⟩

theorem leaves_acceptPayload_short (behaved : source.WellBehaved) {marker : Marker}
    (short : source.octets.length < marker.length) :
    Leaves ((acceptPayload marker).run source)
      (.error (.shortRead (.integer source.octets.length) (.integer marker.length))) [] :=
  (leaves_receive_short behaved (.integer marker.length) short).bind_error

/-- Reading behind a marker does what the marker and the octets behind it mean together. -/
theorem leaves_readPayload (limit : Int) (behaved : source.WellBehaved) (marker : Marker) :
    Leaves ((readPayload (.integer limit) marker).run source)
      ((marker.front limit source.octets).payload limit)
      (marker.front limit source.octets).unread := by
  unfold Marker.front
  by_cases empty : marker.length < 1
  · rw [if_pos empty, readPayload, if_pos empty]
    exact ⟨rfl, rfl, behaved⟩
  · rw [if_neg empty, readPayload_integer limit (by omega)]
    by_cases large : limit ≤ marker.length
    · rw [if_pos large, if_pos large]
      exact leaves_refusePayload behaved marker
    · rw [if_neg large, if_neg large]
      by_cases short : source.octets.length < marker.length
      · rw [if_pos short]
        exact leaves_acceptPayload_short behaved short
      · rw [if_neg short]
        exact leaves_acceptPayload behaved marker (by omega)

/-- Read the rest of a record from its next marker on. The pieces collected so far are listed
latest first. Without any it is a whole record that is read. -/
def readOn (limit : Value) (pieces : List Octets) : Activity Source Octets := do
  let marker ← readMarker
  assemble limit marker pieces

/-- The rest of a record is one fragment, and unless that was the last one, the rest behind
it. -/
theorem readOn_eq (limit : Value) (pieces : List Octets) :
    readOn limit pieces =
      (do
        let marker ← readMarker
        let payload ← readPayload limit marker
        if marker.last then finish (payload :: pieces) else readOn limit (payload :: pieces)) := by
  rw [readOn]
  congr 1
  funext marker
  exact assemble_eq limit marker pieces

/-- Where no accepted fragment stands, reading on fails. -/
theorem leaves_readOn_error (behaved : source.WellBehaved) (pieces : List Octets) {fault : Fault}
    (fails : (front limit source.octets).payload limit = .error fault) :
    Leaves ((readOn (.integer limit) pieces).run source) (.error fault)
      (front limit source.octets).unread := by
  rw [readOn_eq]
  rcases short_or_exists_marker source.octets with short | ⟨marker, behind, fits, stands⟩
  · rw [front_of_short short] at fails ⊢
    simp only [Front.payload, Except.error.injEq] at fails
    subst fails
    exact (leaves_readMarker_short behaved short).bind_error
  · rw [stands, front_marker fits] at fails ⊢
    refine (leaves_readMarker behaved fits stands).bind fun between betweenBehaved left => ?_
    have payload := leaves_readPayload limit betweenBehaved marker
    rw [left, fails] at payload
    exact payload.bind_error

/-- A fragment that does not reach the limit is taken off the front, and reading goes on behind it.
-/
theorem leaves_readOn_clear_fragment {limit : Value} (behaved : source.WellBehaved)
    {pieces : List Octets} {fragment : Fragment} {rest last : Octets}
    {result : Except Fault Octets} (nonempty : 1 ≤ fragment.payload.length)
    (announced : fragment.payload.length ≤ Marker.maxLength)
    (clear : limit.isReachedBy fragment.payload.length = .ok false)
    (stands : source.octets = fragment.octets ++ rest)
    (continued : ∀ between : Source, between.WellBehaved → between.octets = rest →
      Leaves ((if fragment.last then finish (fragment.payload :: pieces)
        else readOn limit (fragment.payload :: pieces)).run between) result last) :
    Leaves ((readOn limit pieces).run source) result last := by
  have positive : ¬ fragment.marker.length < 1 := Nat.not_lt.2 nonempty
  have accepts : readPayload limit fragment.marker = acceptPayload fragment.marker := by
    rw [readPayload, if_neg positive, show limit.isReachedBy fragment.marker.length = _ from clear]
  rw [Fragment.octets, List.append_assoc] at stands
  rw [readOn_eq]
  refine (leaves_readMarker behaved announced stands).bind fun between betweenBehaved left => ?_
  have enough : fragment.marker.length ≤ between.octets.length := by
    rw [left, List.length_append]
    exact Nat.le_add_right _ _
  have payload := leaves_acceptPayload betweenBehaved fragment.marker enough
  have taken : (fragment.payload ++ rest).take fragment.marker.length = fragment.payload :=
    List.take_left' rfl
  have dropped : (fragment.payload ++ rest).drop fragment.marker.length = rest :=
    List.drop_left' rfl
  rw [left, taken, dropped] at payload
  rw [accepts]
  exact payload.bind continued

/-- Where an accepted fragment stands, reading goes on behind it. -/
theorem leaves_readOn_fragment (behaved : source.WellBehaved) {pieces : List Octets}
    {fragment : Fragment} {rest last : Octets} {result : Except Fault Octets}
    (found : front limit source.octets = .fragment fragment rest)
    (continued : ∀ between : Source, between.WellBehaved → between.octets = rest →
      Leaves ((if fragment.last then finish (fragment.payload :: pieces)
        else readOn (.integer limit) (fragment.payload :: pieces)).run between) result last) :
    Leaves ((readOn (.integer limit) pieces).run source) result last := by
  obtain ⟨accepted, stands⟩ := accepted_of_front found
  have clear : (Value.integer limit).isReachedBy fragment.payload.length = .ok false := by
    simp [accepted.below]
  exact leaves_readOn_clear_fragment behaved accepted.nonempty accepted.announced clear stands
    continued

/-- An opening that forms a record is read as that record, up to its end. -/
theorem leaves_readOn (limit : Int) (behaved : source.WellBehaved) (pieces : List Octets)
    (formed : Fragment.FormRecord (opening limit source.octets).1) :
    Leaves ((readOn (.integer limit) pieces).run source)
      (.ok (pieces.reverse.flatten ++ Fragment.join (opening limit source.octets).1))
      (opening limit source.octets).2 := by
  generalize same : source.octets = octets at formed ⊢
  fun_induction opening limit octets generalizing source pieces with
  | case1 octets fragment rest found last =>
    refine leaves_readOn_fragment behaved (same ▸ found) fun between betweenBehaved left => ?_
    rw [if_pos last]
    refine ⟨?_, left, betweenBehaved⟩
    simp [finish, bind, Activity.andThen, Activity.note, Fragment.join]
  | case2 octets fragment rest found notLast inductionHypothesis =>
    refine leaves_readOn_fragment behaved (same ▸ found) fun between betweenBehaved left => ?_
    rw [if_neg notLast]
    have later : Fragment.FormRecord (opening limit rest).1 := by
      cases tail : (opening limit rest).1 with
      | nil => rw [tail] at formed; exact absurd formed notLast
      | cons next more => rw [tail] at formed; exact formed.2
    have tail := inductionHypothesis betweenBehaved (fragment.payload :: pieces) left later
    simpa [Fragment.join] using tail
  | case3 | case4 | case5 | case6 => exact formed.elim

/-- An opening that forms no record fails where it ends. -/
theorem leaves_readOn_opening_error (behaved : source.WellBehaved) (pieces : List Octets)
    (unfinished : ∀ fragment ∈ (opening limit source.octets).1, fragment.last = false)
    {fault : Fault}
    (fails : (front limit (opening limit source.octets).2).payload limit = .error fault) :
    Leaves ((readOn (.integer limit) pieces).run source) (.error fault)
      (front limit (opening limit source.octets).2).unread := by
  generalize same : source.octets = octets at unfinished fails ⊢
  fun_induction opening limit octets generalizing source pieces with
  | case1 octets fragment rest found last => simp [last] at unfinished
  | case2 octets fragment rest found notLast inductionHypothesis =>
    refine leaves_readOn_fragment behaved (same ▸ found) fun between betweenBehaved left => ?_
    rw [if_neg notLast]
    exact inductionHypothesis betweenBehaved (fragment.payload :: pieces) left
      (fun other among => unfinished other (by simp [among])) fails
  | case3 | case4 | case5 | case6 =>
    subst same
    exact leaves_readOn_error behaved pieces fails

end Source

end RecordMarking
