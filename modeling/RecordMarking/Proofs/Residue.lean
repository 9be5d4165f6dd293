import RecordMarking.Proofs.Assembly

/-!
# What an assembler gives away of what it holds

An assembler that holds anything at all, be it part of a marker, part of a fragment or fragments of
a begun record, can be told from an empty one by what it finds in octets that arrive later:
`eq_empty_iff_findings_eq`. Zero octets tell them apart, because an empty assembler refuses the
fourth of them and no other does, unless nothing but a begun record is held, which shows in the
next record.
-/

namespace RecordMarking

/-- A marker that is not refused announces an acceptable length. -/
theorem bounds_of_kept {limit : Int} {marker : Marker} (fits : marker.length ≤ Marker.maxLength)
    {behind : Octets} (kept : (front limit (marker.octets ++ behind)).rejection? limit = none) :
    1 ≤ marker.length ∧ (marker.length : Int) < limit := by
  rw [front_marker fits, Marker.front] at kept
  split at kept
  · simp [Front.rejection?] at kept
  · split at kept
    · simp [Front.rejection?] at kept
    · omega

/-- Accepted fragments that complete no record and leave no begun one are none. -/
theorem eq_nil_of_regroup {limit : Int} {begun : Octets} {fragments : List Fragment}
    (accepted : ∀ fragment ∈ fragments, fragment.Accepted limit)
    (nothing : regroup begun fragments = ([], [])) : begun = [] ∧ fragments = [] := by
  induction fragments generalizing begun with
  | nil => exact ⟨(Prod.mk.inj nothing).2, rfl⟩
  | cons fragment later inductionHypothesis =>
    have nonempty := (accepted fragment (by simp)).nonempty
    rw [regroup] at nothing
    split at nothing
    · simp at nothing
    · have joined :=
        inductionHypothesis (fun other among => accepted other (by simp [among])) nothing
      have empty : fragment.payload = [] := (List.append_eq_nil_iff.1 joined.1).2
      simp [empty] at nonempty

namespace Assembler

variable {limit : Int}

/-- So many octets that are zero. -/
def zeros (count : Nat) : Octets := List.replicate count 0

theorem zeros_add (first second : Nat) : zeros (first + second) = zeros first ++ zeros second :=
  (List.replicate_append_replicate).symm

@[simp] theorem length_zeros (count : Nat) : (zeros count).length = count := List.length_replicate

/-- What an assembler finds when octets arrive, by what it holds. -/
theorem settle_receive_eq (assembler : Assembler) (octets : Octets) :
    settle limit (assembler.receive octets) =
      settle limit ⟨assembler.pending ++ octets, assembler.collected, .awaitingMarker⟩ :=
  settle_congr (pending_receive octets assembler) rfl

/-- Behind a complete fragment the fourth zero octet is refused, and nothing is found before. -/
theorem findings_zeros (begun : Octets) (count : Nat) :
    (settle limit ⟨zeros count, begun, .awaitingMarker⟩).1 =
      if count < Marker.size then [] else [.rejection .zeroLength] := by
  split
  · rename_i few
    have short : (zeros count).length < Marker.size := by rwa [length_zeros]
    rw [← waiting_of_short begun short, settle_waiting]
    all_goals
      rw [front_of_short short]
      rfl
  · rename_i enough
    have parted : zeros count = (⟨0, false⟩ : Marker).octets ++ zeros (count - Marker.size) := by
      have four : (⟨0, false⟩ : Marker).octets = zeros Marker.size := by decide
      rw [four, ← zeros_add]
      congr 1
      omega
    have fits : (⟨0, false⟩ : Marker).length ≤ Marker.maxLength := Nat.zero_le _
    have refused : (front limit (zeros count)).rejection? limit = some .zeroLength := by
      rw [parted, front_marker fits]
      rfl
    rw [settle_of_refused_marker refused]

/-- An assembler that waits for the rest of a fragment finds something else in zero octets than one
that holds nothing but such octets. -/
theorem findings_zeros_ne {marker : Marker} {begun behind : Octets} {held : Nat}
    (fits : marker.length ≤ Marker.maxLength) (positive : 1 ≤ marker.length)
    (below : (marker.length : Int) < limit) (cut : behind.length < marker.length)
    (same : ∀ count,
      (settle limit ⟨marker.octets ++ behind ++ zeros count, begun, .awaitingMarker⟩).1 =
        (settle limit ⟨zeros (held + count), [], .awaitingMarker⟩).1) : False := by
  let missing := marker.length - behind.length
  let fragment : Fragment := ⟨behind ++ zeros missing, marker.last⟩
  have length : fragment.payload.length = marker.length := by
    simp only [fragment, missing, List.length_append, length_zeros]
    omega
  have accepted : fragment.Accepted limit := by
    refine ⟨?_, ?_, ?_⟩ <;> rw [length] <;> assumption
  have written : fragment.octets = marker.octets ++ behind ++ zeros missing := by
    have announced : fragment.marker = marker := by
      rw [Fragment.marker, length]
    rw [Fragment.octets, announced, List.append_assoc]
  have found (more : Octets) :
      front limit (marker.octets ++ behind ++ zeros missing ++ more) = .fragment fragment more := by
    rw [← written, front_octets_append accepted]
  cases last : marker.last with
  | true =>
    -- The fragment ends a record, and zero octets alone deliver none.
    have here := same missing
    rw [findings_zeros, ← List.append_nil (_ ++ zeros missing), settle_of_last (found []) last]
      at here
    split at here <;> simp at here
  | false =>
    -- Three more octets are not refused behind the fragment, while they are behind all the others.
    have here := same (missing + 3)
    rw [zeros_add, ← List.append_assoc, settle_of_not_last (found (zeros 3)) last, findings_zeros,
      findings_zeros, if_pos (by decide), if_neg (by simp only [Marker.size]; omega)] at here
    simp at here

/-- A begun record and the octets behind it do not show in what is found later. -/
def Hidden (limit : Int) (begun rest : Octets) : Prop :=
  ∀ octets,
    (settle limit ⟨rest ++ octets, begun, .awaitingMarker⟩).1 =
      (settle limit ⟨octets, [], .awaitingMarker⟩).1

section Hidden

variable {begun rest : Octets}

/-- A begun record shows in the next record. -/
theorem Hidden.begun_eq_nil (hidden : Hidden limit begun []) (enough : 2 ≤ limit) :
    begun = [] := by
  let fragment : Fragment := ⟨[0], true⟩
  have accepted : fragment.Accepted limit := ⟨by decide, enough, by decide⟩
  have found : front limit fragment.octets = .fragment fragment [] := by
    rw [← List.append_nil fragment.octets, front_octets_append accepted]
  have ends (begun : Octets) :=
    @settle_of_last limit ⟨fragment.octets, begun, .awaitingMarker⟩ fragment [] found rfl
  have here := hidden fragment.octets
  rw [List.nil_append, ends, ends] at here
  have records : begun ++ [0] = [0] := by simpa [fragment] using here
  simpa using records

/-- A fragment that is not there in full shows when zero octets complete it. -/
theorem Hidden.not_cut {marker : Marker} {behind : Octets}
    (hidden : Hidden limit begun (marker.octets ++ behind))
    (fits : marker.length ≤ Marker.maxLength)
    (blocked : (front limit (marker.octets ++ behind)).isFragment = false)
    (kept : (front limit (marker.octets ++ behind)).rejection? limit = none) : False := by
  obtain ⟨positive, below⟩ := bounds_of_kept fits kept
  have cut : behind.length < marker.length := by
    rw [front_marker fits, Marker.front, if_neg (by omega), if_neg (by omega)] at blocked
    split at blocked
    · assumption
    · simp [Front.isFragment] at blocked
  refine @findings_zeros_ne limit marker begun behind 0 fits positive below cut fun count => ?_
  rw [Nat.zero_add, hidden]

/-- So does a marker that is not there in full: the zero octets that complete it are too few to be a
marker themselves. -/
theorem Hidden.not_short (hidden : Hidden limit begun rest) (short : rest.length < Marker.size)
    (something : rest ≠ []) : False := by
  have positive := List.length_pos_iff.2 something
  let missing := Marker.size - rest.length
  have four : (rest ++ zeros missing).length = Marker.size := by
    rw [List.length_append, length_zeros]
    omega
  have few : missing < Marker.size := by omega
  obtain ⟨marker, fits, written⟩ := exists_marker_of_length four
  have quiet := hidden (zeros missing)
  rw [findings_zeros, if_pos few, written] at quiet
  have kept : (front limit (marker.octets ++ [])).rejection? limit = none := by
    rw [List.append_nil]
    match refused : (front limit marker.octets).rejection? limit with
    | none => rfl
    | some rejection => simp [settle_of_refused_marker refused] at quiet
  obtain ⟨announces, below⟩ := bounds_of_kept fits kept
  refine @findings_zeros_ne limit marker begun [] missing fits announces below announces
    fun count => ?_
  rw [List.append_nil, ← written, List.append_assoc, ← zeros_add, hidden]

/-- Nothing is hidden but nothing. -/
theorem Hidden.eq_nil (hidden : Hidden limit begun rest) (enough : 2 ≤ limit)
    (blocked : (front limit rest).isFragment = false)
    (kept : (front limit rest).rejection? limit = none) : begun = [] ∧ rest = [] := by
  rcases short_or_exists_marker rest with short | ⟨marker, behind, fits, rfl⟩
  · by_cases nothing : rest = []
    · subst nothing
      exact ⟨hidden.begun_eq_nil enough, rfl⟩
    · exact (hidden.not_short short nothing).elim
  · exact (hidden.not_cut fits blocked kept).elim

end Hidden

/-- An assembler without octets that wait and without a begun record holds nothing. -/
theorem eq_empty_of_pending {assembler : Assembler} (waits : assembler.pending = [])
    (begun : assembler.collected = []) : assembler = empty := by
  obtain ⟨buffer, collected, phase⟩ := assembler
  cases phase with
  | awaitingMarker =>
    obtain rfl : buffer = [] := waits
    obtain rfl : collected = [] := begun
    rfl
  | awaitingFragment marker =>
    have four := marker.length_octets
    rw [(List.append_eq_nil_iff.1 waits).1] at four
    simp [Marker.size] at four

/-- An assembler that finds in octets what an empty one does settles with something hidden. -/
theorem hidden_settle {assembler : Assembler}
    (same : ∀ octets,
      (settle limit (assembler.receive octets)).1 = (settle limit (empty.receive octets)).1) :
    assembler.refusal? limit = none ∧ (settle limit assembler).1 = [] ∧
      Hidden limit (settle limit assembler).2.collected (settle limit assembler).2.pending := by
  have quiet := same []
  rw [receive_nil, receive_nil, settle_empty] at quiet
  have kept : assembler.refusal? limit = none := by
    have reasons := reasons_settle limit assembler
    rw [quiet] at reasons
    exact Option.toList_eq_nil_iff.1 reasons.symm
  refine ⟨kept, quiet, fun octets => ?_⟩
  have keptAgain : (assembler.receive []).refusal? limit = none := by rw [receive_nil, kept]
  have behind := settle_receive_append keptAgain octets
  rw [List.nil_append, receive_nil, quiet, List.nil_append] at behind
  have both := same octets
  rw [behind, settle_receive_eq, settle_receive_eq] at both
  exact both

/-- Only an empty assembler finds in octets what an empty one does. -/
theorem eq_empty_iff_findings_eq {assembler : Assembler} (enough : 2 ≤ limit) :
    assembler = empty ↔ ∀ octets,
      (settle limit (assembler.receive octets)).1 = (settle limit (empty.receive octets)).1 := by
  constructor
  · rintro rfl octets
    rfl
  · intro same
    obtain ⟨kept, quiet, hidden⟩ := hidden_settle same
    rw [settle_of_no_refusal kept] at quiet hidden
    rw [collected_waiting, pending_waiting] at hidden
    obtain ⟨noneBegun, noneLeft⟩ :=
      hidden.eq_nil enough (blocked_split limit assembler.pending) kept
    have nothing : regroup assembler.collected (split limit assembler.pending).1 = ([], []) :=
      Prod.ext (List.map_eq_nil_iff.1 quiet) noneBegun
    obtain ⟨collected, fragments⟩ := eq_nil_of_regroup (fun _ => accepted_of_mem_split) nothing
    have whole := flatMap_octets_split limit assembler.pending
    rw [fragments, noneLeft] at whole
    exact eq_empty_of_pending whole.symm collected

end Assembler

end RecordMarking
