import RecordMarking.Marker

/-!
# Framing

A record is one message. On a stream it is a sequence of fragments, each behind its marker,
of which only the final one is flagged as last. `frame` goes through a record in steps of a given
size and packs a fragment at each: the octets that stand there, flagged if the step reaches the end.

`fragments` is the same division of a record as a list, and `packFrom_eq` says that the steps from
any offset pack the fragments of what stands behind it. `frame_eq` is framing in these terms, and
`frame_eq_ok_iff` says exactly when it succeeds for a size that is an integer.
-/

namespace RecordMarking

/-- A part of a record, as it travels behind its marker. -/
structure Fragment where
  payload : Octets
  last : Bool
deriving DecidableEq, Repr, Inhabited

namespace Fragment

/-- The marker that announces a fragment. -/
def marker (fragment : Fragment) : Marker :=
  ⟨fragment.payload.length, fragment.last⟩

/-- A fragment on a stream: its marker, then its payload. -/
def octets (fragment : Fragment) : Octets :=
  fragment.marker.octets ++ fragment.payload

/-- A fragment as it is packed: its marker is encoded and written as four octets, and the payload
comes behind it. -/
def pack (fragment : Fragment) : Except Fault Octets :=
  match Marker.encode (.integer fragment.payload.length) fragment.last with
  | .error fault => .error fault
  | .ok word => (Marker.wordOctets word).map (· ++ fragment.payload)

/-- A fragment that a marker can announce is packed as its octets. -/
theorem pack_of_fits {fragment : Fragment} (fits : fragment.payload.length ≤ Marker.maxLength) :
    fragment.pack = .ok fragment.octets := by
  have bounds : (0 : Int) ≤ fragment.payload.length ∧
      (fragment.payload.length : Int) ≤ Marker.maxLength := by omega
  rw [pack, Marker.encode_integer, Marker.announce, if_pos bounds]
  rfl

/-- The fragments that carry consecutive pieces of one record. -/
def ofPieces : List Octets → List Fragment
  | [] => []
  | [piece] => [⟨piece, true⟩]
  | piece :: next :: rest => ⟨piece, false⟩ :: ofPieces (next :: rest)

/-- The record that fragments carry. -/
def join (fragments : List Fragment) : Octets :=
  fragments.flatMap payload

@[simp] theorem length_octets (fragment : Fragment) :
    fragment.octets.length = Marker.size + fragment.payload.length := by
  simp [octets]

/-- The fragments of pieces carry the pieces in order. -/
@[simp] theorem join_ofPieces (pieces : List Octets) : join (ofPieces pieces) = pieces.flatten := by
  fun_induction ofPieces pieces with
  | case1 => rfl
  | case2 piece => simp [join]
  | case3 piece next rest inductionHypothesis =>
    have tail : (ofPieces (next :: rest)).flatMap payload = (next :: rest).flatten :=
      inductionHypothesis
    rw [join, List.flatMap_cons, tail]
    rfl

end Fragment

/-- The fragments of a record, each of `size` octets except that the last may be shorter. -/
def fragments (size : Nat) (record : Octets) : List Fragment :=
  Fragment.ofPieces (record.slices size)

/-- The fragments of a record carry exactly the record. -/
@[simp] theorem join_fragments (size : Nat) (record : Octets) :
    Fragment.join (fragments size record) = record := by
  simp [fragments]

/-- A record that one fragment can hold is not divided. -/
theorem fragments_of_length_le {size : Nat} {record : Octets} (nonempty : record ≠ [])
    (fits : record.length ≤ size) : fragments size record = [⟨record, true⟩] := by
  have whole : record.length ≤ max 1 size := by omega
  rw [fragments, Octets.slices, if_neg (by simpa using nonempty),
    List.take_of_length_le whole, List.drop_of_length_le whole, Octets.slices_nil]
  rfl

/-- From a longer record a full fragment is taken, and the rest is divided. -/
theorem fragments_of_lt_length {size : Nat} {record : Octets} (positive : 1 ≤ size)
    (exceeds : size < record.length) :
    fragments size record = ⟨record.take size, false⟩ :: fragments size (record.drop size) := by
  have nonempty : record ≠ [] := List.ne_nil_of_length_pos (by omega)
  have leaves : record.drop size ≠ [] := by
    apply List.ne_nil_of_length_pos
    rw [List.length_drop]
    omega
  have several := Octets.slices_ne_nil size leaves
  rw [fragments, Octets.slices, if_neg (by simpa using nonempty), Nat.max_eq_right positive,
    fragments]
  cases rest : Octets.slices size (record.drop size) with
  | nil => exact absurd rest several
  | cons piece more => rfl

/-- The fragment of a record that begins at an offset: what stands there, up to a size, flagged if
the size reaches to the end. -/
def fragmentAt (record : Octets) (size offset : Nat) : Fragment :=
  ⟨(record.drop offset).take size, decide (record.length ≤ offset + size)⟩

/-- Pack the fragments that begin at an offset and at every step of `size` behind it. What was
packed so far is listed latest first. -/
def packFrom (record : Octets) (size offset : Nat) (packed : List Octets) : Except Fault Octets :=
  if _inside : offset < record.length ∧ 0 < size then
    match (fragmentAt record size offset).pack with
    | .error fault => .error fault
    | .ok octets => packFrom record size (offset + size) (octets :: packed)
  else .ok packed.reverse.flatten
termination_by record.length - offset
decreasing_by omega

/-- The octets at an offset begin with the fragment there, and the fragments at the later steps are
behind it. -/
theorem fragments_drop {record : Octets} {size offset : Nat} (positive : 1 ≤ size)
    (inside : offset < record.length) :
    fragments size (record.drop offset) =
      fragmentAt record size offset :: fragments size (record.drop (offset + size)) := by
  have left : (record.drop offset).length = record.length - offset := List.length_drop
  by_cases reaches : record.length ≤ offset + size
  · have nonempty : record.drop offset ≠ [] := List.ne_nil_of_length_pos (by omega)
    rw [fragments_of_length_le nonempty (by omega), fragmentAt, decide_eq_true reaches,
      List.take_of_length_le (by omega), List.drop_of_length_le reaches, fragments,
      Octets.slices_nil]
    rfl
  · rw [fragments_of_lt_length positive (by omega), fragmentAt, decide_eq_false reaches,
      List.drop_drop]

/-- Packing from an offset on packs the fragments of what stands there, behind what was packed so
far, if markers can announce the size. -/
theorem packFrom_eq {size : Nat} (positive : 1 ≤ size) (announced : size ≤ Marker.maxLength)
    (record : Octets) (offset : Nat) (packed : List Octets) :
    packFrom record size offset packed =
      .ok (packed.reverse.flatten ++
        (fragments size (record.drop offset)).flatMap Fragment.octets) := by
  have packs (place : Nat) : (fragmentAt record size place).pack =
      .ok (fragmentAt record size place).octets := by
    have short : ((record.drop place).take size).length ≤ size := List.length_take_le size _
    exact Fragment.pack_of_fits (Nat.le_trans short announced)
  fun_induction packFrom record size offset packed with
  | case1 offset packed inside fault failed =>
    rw [packs offset] at failed
    cases failed
  | case2 offset packed inside octets done inductionHypothesis =>
    rw [packs offset] at done
    cases done
    rw [inductionHypothesis, fragments_drop positive inside.1]
    simp
  | case3 offset packed outside =>
    have past : record.length ≤ offset := by omega
    rw [List.drop_of_length_le past, fragments, Octets.slices_nil]
    exact congrArg Except.ok (List.append_nil _).symm

/-- Fragments of this size stay below the record size that readers accept by default. -/
def defaultFragmentSize : Int := 32767

/-- The size of the fragments of a record: an integer that a marker can announce. -/
def checkFragmentSize (fragmentSize : Value) : Except Fault Int :=
  match fragmentSize.comparedBy .atMost with
  | .error fault => .error fault
  | .ok quantity =>
    if quantity.within 1 Marker.maxLength then fragmentSize.whole
    else .error (.fragmentSizeOutOfRange fragmentSize)

/-- A size that is a whole number is checked for its range alone. -/
theorem checkFragmentSize_of_whole {fragmentSize : Value} {size : Int}
    (integral : fragmentSize.whole = .ok size) :
    checkFragmentSize fragmentSize =
      if 1 ≤ size ∧ size ≤ Marker.maxLength then .ok size
      else .error (.fragmentSizeOutOfRange fragmentSize) := by
  simp [checkFragmentSize, Value.comparedBy_of_whole integral, integral]

/-- A size that passes the check can be announced. -/
theorem bounds_of_checkFragmentSize {fragmentSize : Value} {size : Int}
    (passed : checkFragmentSize fragmentSize = .ok size) :
    1 ≤ size ∧ size ≤ Marker.maxLength := by
  have checked := passed
  rw [checkFragmentSize] at checked
  split at checked
  · cases checked
  · split at checked
    · rw [checkFragmentSize_of_whole checked] at passed
      by_cases bounds : 1 ≤ size ∧ size ≤ Marker.maxLength
      · exact bounds
      · rw [if_neg bounds] at passed
        cases passed
    · cases checked

/-- A record on a stream, in fragments of the given size. A record needs at least one octet,
and the size has to be one that a marker can announce. -/
def frame (record : Octets) (fragmentSize : Value) : Except Fault Octets :=
  if record.isEmpty then .error .emptyRecord
  else
    match checkFragmentSize fragmentSize with
    | .error fault => .error fault
    | .ok size => packFrom record size.toNat 0 []

/-- Framing writes the fragments of a record, unless the record or the size is refused. -/
theorem frame_eq (record : Octets) (fragmentSize : Value) :
    frame record fragmentSize =
      if record = [] then .error .emptyRecord
      else (checkFragmentSize fragmentSize).map fun size =>
        (fragments size.toNat record).flatMap Fragment.octets := by
  rw [frame]
  by_cases empty : record = []
  · simp [empty]
  · rw [if_neg (by simpa using empty), if_neg empty]
    split
    · rename_i fault refused
      rw [refused]
      rfl
    · rename_i size passed
      have bounds := bounds_of_checkFragmentSize passed
      rw [passed, packFrom_eq (by omega) (by omega), List.drop_zero]
      rfl

/-- Framing succeeds exactly for a record with octets and a size within the range of
markers. -/
theorem frame_eq_ok_iff {record framed : Octets} {fragmentSize : Int} :
    frame record (.integer fragmentSize) = .ok framed ↔
      record ≠ [] ∧ 1 ≤ fragmentSize ∧ fragmentSize ≤ Marker.maxLength ∧
        (fragments fragmentSize.toNat record).flatMap Fragment.octets = framed := by
  rw [frame_eq, checkFragmentSize_of_whole (Value.whole_integer fragmentSize)]
  split
  · simp_all
  · split
    · simp_all [Except.map]
    · simp only [Except.map, reduceCtorEq, false_iff, not_and]
      intro _ positive bounded
      omega

end RecordMarking
