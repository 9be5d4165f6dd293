import RecordMarking.Marker
import RecordMarking.Source

/-!
# Reading records

A reader puts records together from the fragments on a source. It keeps no state between
records: all that it has is a limit, below which the length of every fragment has to stay.
A fragment at or above the limit is read away, so that the source stands at the next marker,
and refused. The limit is an integer unless a caller assigned something else; a length cannot
be compared with what is no number.

`readRecord` reads one record. `nextRecord` differs in one respect: where the source ends
before the first octet of a record, it reports that there are no more records instead of
failing. `readAll` repeats it. Both terminate because a marker takes octets away from the
source, which `unread_readMarker_lt` states.
-/

namespace RecordMarking

/-- The limit of readers and endpoints that are not given one. -/
def defaultLimit : Int := 32768

/-- A limit that a caller chose: an integer above one. -/
def checkLimit : Value → Except Fault Int
  | .integer limit =>
    if 2 ≤ limit then .ok limit else .error (.invalidLimit (.integer limit))
  | other => .error (.invalidLimit other)

namespace Source

/-- Read `count` octets, more only if the source delivers more than it is asked for. Should
the source end first, `size` is what was expected of it. -/
def receive (size : Value) (count : Nat) : Activity Source Octets where
  run source :=
    let pulled := source.pull id count
    match pulled.ending with
    | .complete => ⟨.ok pulled.octets, pulled.trace, pulled.rest⟩
    | .exhausted =>
      ⟨.error (.shortRead (.integer pulled.octets.length) size), pulled.trace, pulled.rest⟩
    | .failed fault => ⟨.error fault, pulled.trace, pulled.rest⟩

/-- Read exactly as many octets as a size asks for. -/
def readExactly (size : Value) : Activity Source Octets := do
  let count ← .conclude size.octetCount
  receive size count

/-- An integer asks for as many octets as it says. -/
theorem readExactly_integer (size : Int) :
    readExactly (.integer size) = receive (.integer size) size.toNat := rfl

/-- The number of octets read away at a time. -/
def drainPortion : Nat := 8192

/-- Read `count` octets away. The result is how many were received and what hindered the
rest: the end of the source, of which `length` was expected, or a failure of the system. Any
other failure is passed on. -/
def readAway (length : Value) (count : Nat) : Activity Source (Nat × Option Fault) where
  run source :=
    let pulled := source.pull (min drainPortion) count
    let discarded := pulled.octets.length
    let hindered (obstacle : Fault) : Outcome Source (Nat × Option Fault) :=
      ⟨.ok (discarded, some obstacle),
        pulled.trace ++ [.notice (.discardFailed discarded obstacle)], pulled.rest⟩
    match pulled.ending with
    | .complete => ⟨.ok (discarded, none), pulled.trace, pulled.rest⟩
    | .exhausted => hindered (.shortRead (.integer discarded) length)
    | .failed fault =>
      if fault.isSystem then hindered fault else ⟨.error fault, pulled.trace, pulled.rest⟩

/-- Read as many octets away as a length asks for. -/
def drain (length : Value) : Activity Source (Nat × Option Fault) := do
  let count ← .conclude length.octetCount
  readAway length count

/-- An integer asks for as many octets to be read away as it says. -/
theorem drain_integer (length : Int) :
    drain (.integer length) = readAway (.integer length) length.toNat := rfl

/-- The marker in what was read for one. -/
def markerIn (octets : Octets) : Except Fault Marker :=
  match Marker.ofOctets? octets with
  | some marker => .ok marker
  | none => .error .malformedMarker

/-- Read a marker. -/
def readMarker : Activity Source Marker := do
  let octets ← readExactly (.integer Marker.size)
  .conclude (markerIn octets)

/-- The fault for an oversized fragment of which so many octets were read away. -/
def oversized (length : Nat) (limit : Value) : Nat × Option Fault → Fault
  | (discarded, none) => .fragmentTooLarge (.integer length) limit (.integer discarded)
  | (discarded, some obstacle) =>
    .fragmentUndrained (.integer length) limit (.integer discarded) obstacle

/-- This fault as a reader raises it: what hindered the reading away is also its cause. -/
def refusal (length : Nat) (limit : Value) (drained : Nat × Option Fault) : Fault :=
  (oversized length limit drained).from? drained.2

/-- Read a payload away and refuse it. -/
def refusePayload (limit : Value) (marker : Marker) : Activity Source Octets := do
  .note (.discarding marker.length limit)
  let drained ← drain (.integer marker.length)
  .fail (refusal marker.length limit drained)

/-- Read a payload. -/
def acceptPayload (marker : Marker) : Activity Source Octets := do
  let payload ← readExactly (.integer marker.length)
  .note (.fragmentRead marker.length marker.last)
  pure payload

/-- Read the payload that a marker announces, or refuse it. -/
def readPayload (limit : Value) (marker : Marker) : Activity Source Octets :=
  if marker.length < 1 then do
    .note .zeroLengthRejected
    .fail .zeroLengthFragment
  else
    match limit.isReachedBy marker.length with
    | .error fault => .fail fault
    | .ok true => refusePayload limit marker
    | .ok false => acceptPayload marker

/-- Under a limit that is an integer, a payload is refused at the limit and above it. -/
theorem readPayload_integer (limit : Int) {marker : Marker} (positive : 1 ≤ marker.length) :
    readPayload (.integer limit) marker =
      if limit ≤ marker.length then refusePayload (.integer limit) marker
      else acceptPayload marker := by
  rw [readPayload, if_neg (by omega), Value.isReachedBy_integer]
  by_cases reached : limit ≤ marker.length <;> simp [reached]

/-- The end of a record: its pieces, latest first, are put together. -/
def finish (pieces : List Octets) : Activity Source Octets := do
  let record := pieces.reverse.flatten
  .note (.recordRead record.length pieces.length)
  pure record

/-- A reading activity never puts octets back. -/
def Consuming {Result : Type} (activity : Activity Source Result) : Prop :=
  ∀ source, (activity.run source).state.unread ≤ source.unread

theorem consuming_conclude {Result : Type} (result : Except Fault Result) :
    Consuming (.conclude result) := fun _ => Nat.le_refl _

theorem consuming_emit (event : Event) : Consuming (.emit event) := fun _ => Nat.le_refl _

theorem consuming_pure {Result : Type} (value : Result) :
    Consuming (pure value : Activity Source Result) := fun _ => Nat.le_refl _

theorem consuming_bind {First Second : Type} {first : Activity Source First}
    {second : First → Activity Source Second} (consumingFirst : Consuming first)
    (consumingSecond : ∀ value, Consuming (second value)) : Consuming (first >>= second) := by
  intro source
  have before := consumingFirst source
  match ran : first.run source with
  | ⟨.error fault, trace, rest⟩ =>
    rw [ran] at before
    rw [Activity.run_bind_error ran]
    exact before
  | ⟨.ok value, trace, rest⟩ =>
    rw [ran] at before
    rw [Activity.run_bind_ok ran]
    exact Nat.le_trans (consumingSecond value rest) before

theorem consuming_receive (size : Value) (count : Nat) : Consuming (receive size count) := by
  intro source
  have accounted := unread_pull id count source
  simp only [receive]
  split <;> dsimp only <;> omega

theorem consuming_readExactly (size : Value) : Consuming (readExactly size) :=
  consuming_bind (consuming_conclude _) fun _ => consuming_receive _ _

theorem consuming_readAway (length : Value) (count : Nat) :
    Consuming (readAway length count) := by
  intro source
  have accounted := unread_pull (min drainPortion) count source
  simp only [readAway]
  split
  · dsimp only; omega
  · dsimp only; omega
  · split <;> dsimp only <;> omega

theorem consuming_drain (length : Value) : Consuming (drain length) :=
  consuming_bind (consuming_conclude _) fun _ => consuming_readAway _ _

theorem consuming_readMarker : Consuming readMarker :=
  consuming_bind (consuming_readExactly _) fun _ => consuming_conclude _

theorem consuming_readPayload (limit : Value) (marker : Marker) :
    Consuming (readPayload limit marker) := by
  unfold readPayload
  split
  · exact consuming_bind (consuming_emit _) fun _ => consuming_conclude _
  · split
    · exact consuming_conclude _
    · exact consuming_bind (consuming_emit _) fun _ =>
        consuming_bind (consuming_drain _) fun _ => consuming_conclude _
    · exact consuming_bind (consuming_readExactly _) fun _ =>
        consuming_bind (consuming_emit _) fun _ => consuming_pure _

theorem consuming_finish (pieces : List Octets) : Consuming (finish pieces) :=
  consuming_bind (consuming_emit _) fun _ => consuming_pure _

/-- Exact reading that succeeds takes at least the octets it was asked for. -/
theorem unread_of_receive {size : Value} {count : Nat} {source rest : Source} {octets : Octets}
    {trace : List Event} (read : (receive size count).run source = ⟨.ok octets, trace, rest⟩) :
    count ≤ octets.length ∧ octets.length + rest.unread = source.unread := by
  have accounted := unread_pull id count source
  have received := @le_length_octets_pull id count source
  simp only [receive] at read
  split at read <;> rename_i ending <;> simp only [Outcome.mk.injEq, reduceCtorEq,
    Except.ok.injEq, false_and] at read
  obtain ⟨rfl, _, rfl⟩ := read
  exact ⟨received ending, accounted⟩

/-- A marker that was read took octets away. -/
theorem unread_readMarker_lt {source rest : Source} {marker : Marker} {trace : List Event}
    (read : readMarker.run source = ⟨.ok marker, trace, rest⟩) : rest.unread < source.unread := by
  obtain ⟨octets, before, middle, later, exact, concluded, _⟩ :=
    Activity.exists_of_run_bind_ok read
  rw [readExactly_integer] at exact
  have accounted := unread_of_receive exact
  simp only [Activity.run_conclude, Outcome.mk.injEq] at concluded
  obtain ⟨_, _, rfl⟩ := concluded
  have enough : 4 ≤ octets.length := accounted.1
  omega

/-- One run of `assemble`. -/
def assembleFrom (limit : Value) (marker : Marker) (pieces : List Octets) (source : Source) :
    Outcome Source Octets :=
  match _accepted : (readPayload limit marker).run source with
  | ⟨.error fault, trace, rest⟩ => ⟨.error fault, trace, rest⟩
  | ⟨.ok payload, trace, rest⟩ =>
    if marker.last then ((finish (payload :: pieces)).run rest).after trace
    else
      match _announced : readMarker.run rest with
      | ⟨.error fault, later, last⟩ => ⟨.error fault, trace ++ later, last⟩
      | ⟨.ok next, later, last⟩ =>
        (assembleFrom limit next (payload :: pieces) last).after (trace ++ later)
termination_by source.unread
decreasing_by
  have payloadTaken := consuming_readPayload limit marker source
  rw [_accepted] at payloadTaken
  exact Nat.lt_of_lt_of_le (unread_readMarker_lt _announced) payloadTaken

/-- Read the rest of a record whose next marker was read already. The pieces collected so far
are listed latest first. -/
def assemble (limit : Value) (marker : Marker) (pieces : List Octets) : Activity Source Octets :=
  ⟨assembleFrom limit marker pieces⟩

/-- The rest of a record is one payload, and unless its marker was the last one, another
marker and the rest of the record behind it. -/
theorem assemble_eq (limit : Value) (marker : Marker) (pieces : List Octets) :
    assemble limit marker pieces =
      (do
        let payload ← readPayload limit marker
        if marker.last then finish (payload :: pieces)
        else
          let next ← readMarker
          assemble limit next (payload :: pieces)) := by
  ext source
  simp only [assemble]
  rw [assembleFrom]
  split
  · rename_i accepted
    exact (Activity.run_bind_error accepted).symm
  · rename_i payload trace rest accepted
    rw [Activity.run_bind_ok accepted]
    split
    · rfl
    · split
      · rename_i announced
        rw [Activity.run_bind_error announced]
        rfl
      · rename_i announced
        rw [Activity.run_bind_ok announced, Outcome.after_after]

theorem consuming_assemble (limit : Value) (marker : Marker) (pieces : List Octets) :
    Consuming (assemble limit marker pieces) := by
  intro source
  simp only [assemble]
  fun_induction assembleFrom limit marker pieces source with
  | case1 marker pieces source fault trace rest accepted =>
    simpa [accepted] using consuming_readPayload limit marker source
  | case2 marker pieces source payload trace rest accepted _ =>
    have payloadTaken := consuming_readPayload limit marker source
    rw [accepted] at payloadTaken
    exact Nat.le_trans (consuming_finish (payload :: pieces) rest) payloadTaken
  | case3 marker pieces source payload trace rest accepted _ fault later last announced =>
    have payloadTaken := consuming_readPayload limit marker source
    have markerTaken := consuming_readMarker rest
    rw [accepted] at payloadTaken
    rw [announced] at markerTaken
    exact Nat.le_trans markerTaken payloadTaken
  | case4 marker pieces source payload trace rest accepted _ next later last announced
      inductionHypothesis =>
    have payloadTaken := consuming_readPayload limit marker source
    rw [accepted] at payloadTaken
    have markerTaken := unread_readMarker_lt announced
    simp only [Outcome.state_after] at payloadTaken ⊢
    omega

/-- Read one record. -/
def readRecord (limit : Value) : Activity Source Octets := do
  let marker ← readMarker
  assemble limit marker []

end Source

/-- Whether a fault is a report of exhaustion. -/
def Fault.isExhaustion : Fault → Bool
  | .reported .exhausted _ => true
  | .raisedFrom fault _ => fault.isExhaustion
  | _ => false

/-- How an iterator passes on a fault: a source that reports exhaustion while it is read from
must not look like the end of the iteration. -/
def Fault.insideIterator (fault : Fault) : Fault :=
  if fault.isExhaustion then .exhaustedInside else fault

/-- Any other fault is passed on as it is. -/
theorem Fault.insideIterator_of_not_exhausted {fault : Fault} (other : fault.isExhaustion = false) :
    fault.insideIterator = fault := by
  rw [insideIterator, if_neg (by simp [other])]

/-- Whether a fault says that a source ended before it delivered anything. -/
def Fault.atOnceEnded : Fault → Bool
  | .shortRead got _ => got.isZero
  | .raisedFrom fault _ => fault.atOnceEnded
  | _ => false

namespace Source

/-- Read the next record, if the source does not end before its first octet. -/
def nextRecord (limit : Value) : Activity Source (Option Octets) where
  run source :=
    match readMarker.run source with
    | ⟨.error fault, trace, rest⟩ =>
      if fault.atOnceEnded then ⟨.ok none, trace ++ [.notice .streamEnded], rest⟩
      else ⟨.error fault.insideIterator, trace, rest⟩
    | ⟨.ok marker, trace, rest⟩ =>
      match (assemble limit marker []).run rest with
      | ⟨.error fault, later, last⟩ => ⟨.error fault.insideIterator, trace ++ later, last⟩
      | ⟨.ok record, later, last⟩ => ⟨.ok (some record), trace ++ later, last⟩

/-- A record that was read took octets away. -/
theorem unread_nextRecord_lt {limit : Value} {source rest : Source} {record : Octets}
    {trace : List Event}
    (read : (nextRecord limit).run source = ⟨.ok (some record), trace, rest⟩) :
    rest.unread < source.unread := by
  simp only [nextRecord] at read
  split at read
  · split at read <;> simp at read
  · rename_i marker requests middle announced
    have markerTaken := unread_readMarker_lt announced
    have restTaken := consuming_assemble limit marker [] middle
    split at read
    · simp at read
    · rename_i completed later last assembled
      rw [assembled] at restTaken
      simp only [Outcome.mk.injEq] at read
      obtain ⟨_, _, rfl⟩ := read
      exact Nat.lt_of_le_of_lt restTaken markerTaken

/-- Read records until the source ends where a record could begin. -/
def readAll (limit : Value) (source : Source) : Outcome Source (List Octets) :=
  match _read : (nextRecord limit).run source with
  | ⟨.error fault, trace, rest⟩ => ⟨.error fault, trace, rest⟩
  | ⟨.ok none, trace, rest⟩ => ⟨.ok [], trace, rest⟩
  | ⟨.ok (some record), trace, rest⟩ =>
    match readAll limit rest with
    | ⟨.error fault, later, last⟩ => ⟨.error fault, trace ++ later, last⟩
    | ⟨.ok records, later, last⟩ => ⟨.ok (record :: records), trace ++ later, last⟩
termination_by source.unread
decreasing_by exact unread_nextRecord_lt _read

end Source

end RecordMarking
