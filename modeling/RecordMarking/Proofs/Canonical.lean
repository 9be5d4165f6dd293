import RecordMarking.Proofs.Frames
import RecordMarking.Proofs.Partition

/-!
# The canonical fragments of a record

A record has one canonical division into fragments of a size: every fragment but the final one is
full, the final one holds the octets that are left, and it alone is flagged. `Canonical` says this
without a recursion and `Canonical.eq_fragments` that it determines the fragments.

Frames are self-delimiting: `frames_append_inj` says that the octets of one record's fragments are
never the beginning of another's. `frame_is_canonical` puts both together for framing at a size.
-/

namespace RecordMarking

/-- Fragments of one size that carry a record: all are full except the final one, which has octets
and at most as many, and which alone is flagged. -/
structure Canonical (size : Nat) (record : Octets) (fragments : List Fragment) : Prop where
  /-- The payloads, one behind another, are the record. -/
  carried : Fragment.join fragments = record
  /-- The final fragment is flagged as last, and no other. -/
  flagged : Fragment.FormRecord fragments
  /-- Every fragment but the final one is full. -/
  full : ∀ fragment ∈ fragments.dropLast, fragment.payload.length = size
  /-- The final fragment holds what is left. -/
  final : ∀ fragment ∈ fragments.getLast?,
    1 ≤ fragment.payload.length ∧ fragment.payload.length ≤ size

section Canonical

variable {size : Nat} {record : Octets} {fragment : Fragment} {fragments : List Fragment}

/-- One fragment is canonical for a record that it holds in full. -/
theorem canonical_singleton_iff :
    Canonical size record [fragment] ↔
      fragment = ⟨record, true⟩ ∧ 1 ≤ record.length ∧ record.length ≤ size := by
  constructor
  · rintro ⟨carried, flagged, -, final⟩
    obtain ⟨payload, last⟩ := fragment
    obtain rfl : payload = record := by simpa [Fragment.join] using carried
    obtain rfl : last = true := flagged
    exact ⟨rfl, final _ rfl⟩
  · rintro ⟨rfl, bounds⟩
    refine ⟨List.append_nil record, rfl, by simp, ?_⟩
    rintro other ⟨⟩
    exact bounds

/-- Several fragments are canonical if the first is full and not flagged, and the others are
canonical for what it leaves. -/
theorem canonical_cons_iff {next : Fragment} :
    Canonical size record (fragment :: next :: fragments) ↔
      fragment.last = false ∧ fragment.payload.length = size ∧
        ∃ rest, record = fragment.payload ++ rest ∧ Canonical size rest (next :: fragments) := by
  constructor
  · rintro ⟨carried, ⟨notLast, flagged⟩, full, final⟩
    have fullFirst := full fragment (by simp)
    refine ⟨notLast, fullFirst, _, carried.symm, rfl, flagged, ?_, ?_⟩
    · intro other among
      exact full other (by simp [among])
    · intro other ends
      exact final other (by simpa using ends)
  · rintro ⟨notLast, fullFirst, rest, rfl, ⟨carried, flagged, full, final⟩⟩
    refine ⟨congrArg (fragment.payload ++ ·) carried, ⟨notLast, flagged⟩, ?_, ?_⟩
    · intro other among
      rcases List.mem_cons.1 among with rfl | later
      · exact fullFirst
      · exact full other later
    · intro other ends
      exact final other (by simpa using ends)

/-- The fragments of a record are canonical. -/
theorem canonical_fragments (positive : 1 ≤ size) (nonempty : record ≠ []) :
    Canonical size record (RecordMarking.fragments size record) := by
  -- What is left behind a full fragment is shorter, which carries the induction.
  induction length : record.length using Nat.strongRecOn generalizing record with
  | ind length inductionHypothesis =>
    have filled := List.length_pos_iff.2 nonempty
    by_cases fits : record.length ≤ size
    · rw [fragments_of_length_le nonempty fits]
      exact canonical_singleton_iff.2 ⟨rfl, filled, fits⟩
    · have leaves : (record.drop size).length = record.length - size := List.length_drop
      have rest : Canonical size (record.drop size)
          (RecordMarking.fragments size (record.drop size)) :=
        inductionHypothesis _ (by omega) (List.ne_nil_of_length_pos (by omega)) leaves
      rw [fragments_of_lt_length positive (by omega)]
      cases later : RecordMarking.fragments size (record.drop size) with
      | nil =>
        rw [later] at rest
        exact rest.flagged.elim
      | cons next more =>
        rw [later] at rest
        refine canonical_cons_iff.2 ⟨rfl, ?_, _, (List.take_append_drop size record).symm, rest⟩
        exact List.length_take_of_le (by omega)

namespace Canonical

/-- A record that fragments carry canonically has octets. -/
theorem length_pos (canonical : Canonical size record fragments) : 1 ≤ record.length := by
  fun_induction Fragment.FormRecord fragments generalizing record with
  | case1 => exact canonical.flagged.elim
  | case2 fragment => exact (canonical_singleton_iff.1 canonical).2.1
  | case3 fragment next later inductionHypothesis =>
    obtain ⟨-, -, rest, rfl, behind⟩ := canonical_cons_iff.1 canonical
    have filled := inductionHypothesis behind
    rw [List.length_append]
    omega

/-- Only the fragments that a record is divided into are canonical for it. -/
theorem eq_fragments (positive : 1 ≤ size) (canonical : Canonical size record fragments) :
    fragments = RecordMarking.fragments size record := by
  fun_induction Fragment.FormRecord fragments generalizing record with
  | case1 => exact canonical.flagged.elim
  | case2 fragment =>
    obtain ⟨rfl, filled, fits⟩ := canonical_singleton_iff.1 canonical
    exact (fragments_of_length_le (List.ne_nil_of_length_pos filled) fits).symm
  | case3 fragment next later inductionHypothesis =>
    obtain ⟨notLast, full, rest, rfl, behind⟩ := canonical_cons_iff.1 canonical
    have filled := behind.length_pos
    rw [fragments_of_lt_length positive (by rw [List.length_append]; omega), ← full,
      List.take_left, List.drop_left, full, ← inductionHypothesis behind, ← notLast]

/-- There are as many canonical fragments as the record has sizes, begun ones included. -/
theorem length_eq (positive : 1 ≤ size) (canonical : Canonical size record fragments) :
    fragments.length = (record.length + size - 1) / size := by
  fun_induction Fragment.FormRecord fragments generalizing record with
  | case1 => exact canonical.flagged.elim
  | case2 fragment =>
    obtain ⟨-, filled, fits⟩ := canonical_singleton_iff.1 canonical
    have single : record.length + size - 1 = record.length - 1 + size := by omega
    rw [single, Nat.add_div_right _ positive, Nat.div_eq_of_lt (by omega)]
    rfl
  | case3 fragment next later inductionHypothesis =>
    obtain ⟨-, full, rest, rfl, behind⟩ := canonical_cons_iff.1 canonical
    have filled := behind.length_pos
    have begun : (fragment.payload ++ rest).length + size - 1 = rest.length + size - 1 + size := by
      rw [List.length_append]
      omega
    rw [begun, Nat.add_div_right _ positive, ← inductionHypothesis behind]
    rfl

end Canonical

end Canonical

/-- Each fragment takes the octets of a marker in addition to its payload. -/
theorem length_flatMap_octets (fragments : List Fragment) :
    (fragments.flatMap Fragment.octets).length =
      (Fragment.join fragments).length + Marker.size * fragments.length := by
  induction fragments with
  | nil => rfl
  | cons fragment later inductionHypothesis =>
    have joined : Fragment.join (fragment :: later) = fragment.payload ++ Fragment.join later := rfl
    rw [List.flatMap_cons, List.length_append, inductionHypothesis, Fragment.length_octets, joined,
      List.length_append, List.length_cons, Nat.mul_succ]
    omega

/-- The octets of one record's fragments are not the beginning of another's. -/
theorem frames_append_inj {fragments others : List Fragment} {behind : Octets}
    (formed : Fragment.FormRecord fragments) (alsoFormed : Fragment.FormRecord others)
    (announced : ∀ fragment ∈ fragments, fragment.Announced)
    (alsoAnnounced : ∀ fragment ∈ others, fragment.Announced)
    (same : fragments.flatMap Fragment.octets ++ behind = others.flatMap Fragment.octets) :
    fragments = others := by
  fun_induction Fragment.FormRecord fragments generalizing others with
  | case1 => exact formed.elim
  | case2 fragment =>
    cases others with
    | nil => exact alsoFormed.elim
    | cons other more =>
      rw [List.flatMap_cons, List.flatMap_cons, List.append_assoc] at same
      obtain ⟨rfl, -⟩ := octets_append_inj (announced fragment (by simp))
        (alsoAnnounced other (by simp)) same
      cases more with
      | nil => rfl
      | cons next later => exact absurd (formed.symm.trans alsoFormed.1) (by simp)
  | case3 fragment next later inductionHypothesis =>
    cases others with
    | nil => exact alsoFormed.elim
    | cons other more =>
      rw [List.flatMap_cons, List.flatMap_cons, List.append_assoc] at same
      obtain ⟨rfl, rests⟩ := octets_append_inj (announced fragment (by simp))
        (alsoAnnounced other (by simp)) same
      cases more with
      | nil => exact absurd (alsoFormed.symm.trans formed.1) (by simp)
      | cons second others =>
        rw [inductionHypothesis formed.2 alsoFormed.2
          (fun among listed => announced among (List.mem_cons_of_mem _ listed))
          (fun among listed => alsoAnnounced among (List.mem_cons_of_mem _ listed)) rests]

/-- The marker in front of a fragment's payload is the big-endian word of its length, with the
flag added if the fragment is the last one. -/
structure Fragment.Marked (fragment : Fragment) (word : Nat) : Prop where
  word_eq : word = fragment.payload.length + if fragment.last then Marker.lastFlag else 0
  encoded : Marker.encode (.integer fragment.payload.length) fragment.last = .ok (.integer word)
  written : fragment.octets = Octets.ofWord word ++ fragment.payload
  readBack : Octets.toWord? (fragment.octets.take Marker.size) = some word

/-- A fragment that can be announced is marked. -/
theorem Fragment.Announced.marked {fragment : Fragment} (announced : fragment.Announced) :
    fragment.Marked fragment.marker.word := by
  have fits : (fragment.payload.length : Int) ≤ Marker.maxLength := Int.ofNat_le.2 announced
  refine ⟨rfl, ?_, rfl, ?_⟩
  · rw [Marker.encode_integer, Marker.announce, if_pos ⟨by omega, fits⟩]
    rfl
  · have taken : fragment.octets.take Marker.size = fragment.marker.octets :=
      List.take_left' fragment.marker.length_octets
    have word : fragment.marker.word < 0x100000000 := Marker.word_lt announced
    rw [taken, Marker.octets, Octets.toWord?_ofWord word]

/-- Framing at a whole number fails only for a record without octets or a size that no marker can
announce, and otherwise writes the fragments of the record. -/
theorem frame_of_whole (record : Octets) {fragmentSize : Value} {size : Int}
    (integral : fragmentSize.whole = .ok size) :
    frame record fragmentSize =
      if record = [] then .error .emptyRecord
      else if 1 ≤ size ∧ size ≤ Marker.maxLength then
        .ok ((fragments size.toNat record).flatMap Fragment.octets)
      else .error (.fragmentSizeOutOfRange fragmentSize) := by
  rw [frame_eq, checkFragmentSize_of_whole integral]
  by_cases inRange : 1 ≤ size ∧ size ≤ Marker.maxLength
  · rw [if_pos inRange, if_pos inRange]
    rfl
  · rw [if_neg inRange, if_neg inRange]
    rfl

/-- Canonical fragments of a size that markers can announce are announced. -/
theorem Canonical.announced {size : Nat} {record : Octets} {fragments : List Fragment}
    (canonical : Canonical size record fragments) (bounded : size ≤ Marker.maxLength)
    {fragment : Fragment} (among : fragment ∈ fragments) : fragment.Announced := by
  have several : fragments ≠ [] := List.ne_nil_of_mem among
  rw [← List.dropLast_concat_getLast several] at among
  rcases List.mem_append.1 among with earlier | ends
  · have full := canonical.full fragment earlier
    rw [Fragment.Announced]
    omega
  · obtain rfl := List.mem_singleton.1 ends
    have bounds := canonical.final _ (List.getLast?_eq_some_getLast several)
    rw [Fragment.Announced]
    omega

/-- A frame that consists of the canonical fragments of a record and determines them. -/
structure CanonicalFrame (size : Nat) (record framed : Octets) (fragments : List Fragment) :
    Prop where
  canonical : Canonical size record fragments
  octets_eq : framed = fragments.flatMap Fragment.octets
  /-- There is a fragment for every begun size of the record. -/
  count_eq : fragments.length = (record.length + size - 1) / size
  marked : ∀ fragment ∈ fragments, ∃ word, fragment.Marked word
  /-- No other fragments are canonical for the record. -/
  unique : ∀ others, Canonical size record others → others = fragments
  /-- The frame is not the octets of any other fragments. -/
  readAlike : ∀ others : List Fragment, (∀ fragment ∈ others, fragment.Announced) →
    others.flatMap Fragment.octets = framed → others = fragments

/-- The fragments of a record are the canonical ones, and their octets the only frame of it. -/
theorem canonicalFrame_fragments {size : Nat} {record : Octets} (positive : 1 ≤ size)
    (bounded : size ≤ Marker.maxLength) (nonempty : record ≠ []) :
    CanonicalFrame size record ((fragments size record).flatMap Fragment.octets)
      (fragments size record) := by
  have canonical := canonical_fragments positive nonempty
  have announced : ∀ fragment ∈ fragments size record, fragment.Announced :=
    fun _ among => canonical.announced bounded among
  refine ⟨canonical, rfl, canonical.length_eq positive,
    fun _ among => ⟨_, (announced _ among).marked⟩,
    fun _ other => other.eq_fragments positive, fun others alsoAnnounced same => ?_⟩
  have nothing : ∀ (fragment : Fragment) (behind : Octets), fragment.Announced →
      ([] : Octets) ≠ fragment.octets ++ behind := by
    intro fragment behind _ empty
    have short := congrArg List.length empty
    rw [List.length_append, Fragment.length_octets, Marker.size, List.length_nil] at short
    omega
  exact (divides_unique ⟨(List.append_nil _).symm, alsoAnnounced, nothing⟩
    ⟨same.trans (List.append_nil _).symm, announced, nothing⟩).1

/-- What framing writes is the canonical frame. -/
theorem canonicalFrame_of_frame {record framed : Octets} {fragmentSize : Value} {size : Int}
    (integral : fragmentSize.whole = .ok size) (ran : frame record fragmentSize = .ok framed) :
    size ≤ Marker.maxLength ∧
      CanonicalFrame size.toNat record framed (fragments size.toNat record) := by
  rw [frame_of_whole record integral] at ran
  split at ran
  · simp at ran
  · rename_i nonempty
    split at ran
    · rename_i inRange
      rw [← Except.ok.inj ran]
      exact ⟨inRange.2, canonicalFrame_fragments (by omega) (by omega) nonempty⟩
    · simp at ran

namespace CanonicalFrame

variable {size : Nat} {record framed : Octets} {fragments : List Fragment}

/-- A canonical frame is as long as its record and a marker for each of its fragments. -/
theorem length_eq (frame : CanonicalFrame size record framed fragments) :
    framed.length = record.length + Marker.size * ((record.length + size - 1) / size) := by
  rw [frame.octets_eq, length_flatMap_octets, frame.canonical.carried, frame.count_eq]

/-- Canonical frames of which one begins with the other are frames of the same record. -/
theorem eq_of_isPrefix {other framedOther : Octets} {others : List Fragment}
    (bounded : size ≤ Marker.maxLength) (frame : CanonicalFrame size record framed fragments)
    (otherFrame : CanonicalFrame size other framedOther others) (begins : framed <+: framedOther) :
    record = other := by
  obtain ⟨behind, whole⟩ := begins
  rw [frame.octets_eq, otherFrame.octets_eq] at whole
  have same : fragments = others :=
    frames_append_inj frame.canonical.flagged otherFrame.canonical.flagged
      (fun _ among => frame.canonical.announced bounded among)
      (fun _ among => otherFrame.canonical.announced bounded among) whole
  rw [← frame.canonical.carried, same, otherFrame.canonical.carried]

end CanonicalFrame

/-- Framing at a whole number fails exactly for a record without octets and for a size outside the
range of markers, and the missing octets are reported first. -/
theorem frame_eq_error_iff {record : Octets} {fragmentSize : Value} {size : Int} {fault : Fault}
    (integral : fragmentSize.whole = .ok size) :
    frame record fragmentSize = .error fault ↔
      (record = [] ∨ size < 1 ∨ Marker.maxLength < size) ∧
        fault = if record = [] then .emptyRecord else .fragmentSizeOutOfRange fragmentSize := by
  rw [frame_of_whole record integral]
  by_cases empty : record = []
  · simp [empty, eq_comm]
  · by_cases inRange : 1 ≤ size ∧ size ≤ Marker.maxLength
    · have accepted : ¬ (size < 1 ∨ Marker.maxLength < size) := by omega
      simp [empty, inRange, accepted]
    · have refused : size < 1 ∨ Marker.maxLength < size := by omega
      simp [empty, inRange, refused, eq_comm]

/-- Framing at a whole number fails exactly for a record without octets and for a size outside the
range of markers, and then with the fault of an invalid value. Otherwise the frame consists of the
canonical fragments of the record and of no others, is longer than the record by a marker for each,
and neither begins with the frame of another record at that size nor is the beginning of it. -/
theorem frame_is_canonical (record : Octets) {fragmentSize : Value} {size : Int}
    (integral : fragmentSize.whole = .ok size) :
    (∀ fault, frame record fragmentSize = .error fault ↔
        (record = [] ∨ size < 1 ∨ Marker.maxLength < size) ∧
          fault = if record = [] then .emptyRecord else .fragmentSizeOutOfRange fragmentSize) ∧
      (∀ fault, frame record fragmentSize = .error fault → fault.isInvalidValue = true) ∧
      ∀ framed, frame record fragmentSize = .ok framed →
        (∃ fragments, CanonicalFrame size.toNat record framed fragments) ∧
        framed.length =
          record.length + Marker.size * ((record.length + size.toNat - 1) / size.toNat) ∧
        ∀ other framedOther, frame other fragmentSize = .ok framedOther → record ≠ other →
          ¬ framed <+: framedOther ∧ ¬ framedOther <+: framed := by
  refine ⟨fun _ => frame_eq_error_iff integral, fun fault failed => ?_, ?_⟩
  · rw [((frame_eq_error_iff integral).1 failed).2]
    split <;> rfl
  intro framed ran
  obtain ⟨bounded, framedAs⟩ := canonicalFrame_of_frame integral ran
  refine ⟨⟨_, framedAs⟩, framedAs.length_eq, ?_⟩
  intro other framedOther alsoRan different
  obtain ⟨-, otherFramedAs⟩ := canonicalFrame_of_frame integral alsoRan
  constructor
  · intro begins
    exact different (framedAs.eq_of_isPrefix (by omega) otherFramedAs begins)
  · intro begins
    exact different (otherFramedAs.eq_of_isPrefix (by omega) framedAs begins).symm

/-- At size two, three octets are framed as two fragments, and neither this frame nor the one of
the first two octets begins with the other. -/
theorem frame_is_canonical_of_three :
    (Value.integer 2).whole = .ok 2 ∧
      ∃ framed framedOther, frame [97, 98, 99] (.integer 2) = .ok framed ∧
        frame [97, 98] (.integer 2) = .ok framedOther ∧
        (∃ fragments, CanonicalFrame 2 [97, 98, 99] framed fragments) ∧
        framed.length = 11 ∧ ¬ framed <+: framedOther ∧ ¬ framedOther <+: framed := by
  have integral : (Value.integer 2).whole = .ok 2 := rfl
  have framed : frame [97, 98, 99] (.integer 2) =
      .ok [0, 0, 0, 2, 97, 98, 128, 0, 0, 1, 99] := by decide +kernel
  have framedOther : frame [97, 98] (.integer 2) = .ok [128, 0, 0, 2, 97, 98] := by decide +kernel
  obtain ⟨-, -, succeeded⟩ := frame_is_canonical [97, 98, 99] integral
  obtain ⟨canonical, length, separate⟩ := succeeded _ framed
  obtain ⟨forwards, backwards⟩ := separate _ _ framedOther (by decide)
  exact ⟨integral, _, _, framed, framedOther, canonical, length, forwards, backwards⟩

end RecordMarking
