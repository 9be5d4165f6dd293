import RecordMarking.Framing

/-!
# The grammar of fragments

What octets mean at a place where a fragment could begin depends on the octets and on the limit
alone, not on how they arrive. `front` judges the next marker and takes the fragment behind it
if it is accepted. `split` repeats this as long as it can, and `regroup` puts the payloads
together into records.

`front_octets_append` says that `front` finds an accepted fragment wherever its octets
stand, and `split_append` that octets which arrive later only add to what was found before.
-/

namespace RecordMarking

/-- What stands where a fragment could begin. -/
inductive Front where
  /-- An accepted fragment, and the octets behind it. -/
  | fragment (fragment : Fragment) (rest : Octets)
  /-- Octets that are too few for a marker. -/
  | cutMarker (octets : Octets)
  /-- The marker of a fragment without octets, and the octets behind the marker. -/
  | zeroLength (behind : Octets)
  /-- The marker of a fragment at or above the limit, and the octets behind the marker. -/
  | tooLarge (length : Nat) (behind : Octets)
  /-- A marker of which the payload is not there in full. -/
  | cutPayload (marker : Marker) (behind : Octets)
deriving DecidableEq, Repr

/-- A fragment that a marker can announce and that has octets, but fewer than the limit. -/
structure Fragment.Accepted (limit : Int) (fragment : Fragment) : Prop where
  nonempty : 1 ≤ fragment.payload.length
  below : (fragment.payload.length : Int) < limit
  announced : fragment.payload.length ≤ Marker.maxLength

/-- What a marker and the octets behind it mean. -/
def Marker.front (limit : Int) (marker : Marker) (behind : Octets) : Front :=
  if marker.length < 1 then .zeroLength behind
  else if limit ≤ marker.length then .tooLarge marker.length behind
  else if behind.length < marker.length then .cutPayload marker behind
  else .fragment ⟨behind.take marker.length, marker.last⟩ (behind.drop marker.length)

/-- What octets mean where a fragment could begin. -/
def front (limit : Int) (octets : Octets) : Front :=
  match Marker.ofOctets? (octets.take Marker.size) with
  | none => .cutMarker octets
  | some marker => marker.front limit (octets.drop Marker.size)

section Front

variable {limit : Int}

/-- Every four octets are those of a marker. -/
theorem exists_marker_of_length {octets : Octets} (four : octets.length = Marker.size) :
    ∃ marker : Marker, marker.length ≤ Marker.maxLength ∧ octets = marker.octets := by
  obtain ⟨word, held⟩ : ∃ word, Octets.toWord? octets = some word := by
    match octets, four with
    | [_, _, _, _], _ => exact ⟨_, rfl⟩
  obtain ⟨written, fits⟩ := Octets.eq_ofWord_of_toWord? held
  refine ⟨Marker.decode word, ?_, ?_⟩
  · simp only [Marker.decode, Marker.lastFlag, Marker.maxLength]
    omega
  · rw [Marker.octets, Marker.word_decode fits, written]

/-- Octets are too few for a marker or begin with one. -/
theorem short_or_exists_marker (octets : Octets) :
    octets.length < Marker.size ∨
      ∃ (marker : Marker) (behind : Octets),
        marker.length ≤ Marker.maxLength ∧ octets = marker.octets ++ behind := by
  by_cases short : octets.length < Marker.size
  · exact .inl short
  · right
    have four : (octets.take Marker.size).length = Marker.size := by
      rw [List.length_take]
      omega
    obtain ⟨marker, fits, written⟩ := exists_marker_of_length four
    exact ⟨marker, octets.drop Marker.size, fits, by rw [← written, List.take_append_drop]⟩

theorem ofOctets?_take_of_short {octets : Octets} (short : octets.length < Marker.size) :
    Marker.ofOctets? (octets.take Marker.size) = none := by
  rw [Marker.size] at short
  match octets, short with
  | [], _ | [_], _ | [_, _], _ | [_, _, _], _ => rfl

theorem front_of_short {octets : Octets} (short : octets.length < Marker.size) :
    front limit octets = .cutMarker octets := by
  rw [front, ofOctets?_take_of_short short]

theorem front_marker {marker : Marker} (fits : marker.length ≤ Marker.maxLength)
    (behind : Octets) : front limit (marker.octets ++ behind) = marker.front limit behind := by
  have taken : (marker.octets ++ behind).take Marker.size = marker.octets :=
    List.take_left' marker.length_octets
  have dropped : (marker.octets ++ behind).drop Marker.size = behind :=
    List.drop_left' marker.length_octets
  rw [front, taken, dropped, Marker.ofOctets?_octets fits]

/-- An accepted fragment is found where its octets stand. -/
theorem front_octets_append {fragment : Fragment} (accepted : fragment.Accepted limit)
    (rest : Octets) : front limit (fragment.octets ++ rest) = .fragment fragment rest := by
  obtain ⟨nonempty, below, announced⟩ := accepted
  have notEmpty : ¬ fragment.marker.length < 1 := by simp only [Fragment.marker]; omega
  have notLarge : ¬ limit ≤ fragment.marker.length := by simp only [Fragment.marker]; omega
  have notCut : ¬ (fragment.payload ++ rest).length < fragment.marker.length := by
    simp [Fragment.marker]
  rw [Fragment.octets, List.append_assoc, front_marker announced, Marker.front, if_neg notEmpty,
    if_neg notLarge, if_neg notCut]
  simp [Fragment.marker]

/-- Where a fragment is found, it is accepted and its octets stand there. -/
theorem accepted_of_front {octets rest : Octets} {fragment : Fragment}
    (found : front limit octets = .fragment fragment rest) :
    fragment.Accepted limit ∧ octets = fragment.octets ++ rest := by
  rcases short_or_exists_marker octets with short | ⟨marker, behind, fits, rfl⟩
  · simp [front_of_short short] at found
  · rw [front_marker fits, Marker.front] at found
    split at found
    · simp at found
    · split at found
      · simp at found
      · split at found
        · simp at found
        · rename_i positive below enough
          simp only [Front.fragment.injEq] at found
          obtain ⟨rfl, rfl⟩ := found
          have length : (behind.take marker.length).length = marker.length := by
            rw [List.length_take]
            omega
          refine ⟨⟨?_, ?_, ?_⟩, ?_⟩
          · simp only [length]; omega
          · simp only [length]; omega
          · simp only [length]; exact fits
          · simp only [Fragment.octets, Fragment.marker, length, List.append_assoc,
              List.take_append_drop]

/-- Taking a fragment takes octets away. -/
theorem length_lt_of_front {octets rest : Octets} {fragment : Fragment}
    (found : front limit octets = .fragment fragment rest) : rest.length < octets.length := by
  obtain ⟨accepted, rfl⟩ := accepted_of_front found
  have nonempty := accepted.nonempty
  rw [List.length_append, Fragment.length_octets]
  omega

end Front

/-- Whether an accepted fragment stands there. -/
def Front.isFragment : Front → Bool
  | .fragment .. => true
  | .cutMarker _ | .zeroLength _ | .tooLarge .. | .cutPayload .. => false

/-- The accepted fragments that stand one behind another, and the octets that are left where
there is no further one. -/
def split (limit : Int) (octets : Octets) : List Fragment × Octets :=
  match _found : front limit octets with
  | .fragment fragment rest => (fragment :: (split limit rest).1, (split limit rest).2)
  | .cutMarker _ | .zeroLength _ | .tooLarge .. | .cutPayload .. => ([], octets)
termination_by octets.length
decreasing_by all_goals exact length_lt_of_front _found

section Split

variable {limit : Int}

theorem split_of_front {octets rest : Octets} {fragment : Fragment}
    (found : front limit octets = .fragment fragment rest) :
    split limit octets = (fragment :: (split limit rest).1, (split limit rest).2) := by
  rw [split]
  split <;> simp_all

theorem split_of_blocked {octets : Octets} (blocked : (front limit octets).isFragment = false) :
    split limit octets = ([], octets) := by
  rw [split]
  split <;> simp_all [Front.isFragment]

/-- What is left begins with no accepted fragment. -/
theorem blocked_split (limit : Int) (octets : Octets) :
    (front limit (split limit octets).2).isFragment = false := by
  fun_induction split limit octets with
  | case1 octets fragment rest found inductionHypothesis => exact inductionHypothesis
  | case2 | case3 | case4 | case5 => simp_all [Front.isFragment]

/-- Splitting loses nothing and reorders nothing. -/
theorem flatMap_octets_split (limit : Int) (octets : Octets) :
    (split limit octets).1.flatMap Fragment.octets ++ (split limit octets).2 = octets := by
  fun_induction split limit octets with
  | case1 octets fragment rest found inductionHypothesis =>
    obtain ⟨_, rfl⟩ := accepted_of_front found
    simp only [List.flatMap_cons, List.append_assoc, inductionHypothesis]
  | case2 | case3 | case4 | case5 => rfl

theorem accepted_of_mem_split {octets : Octets} {fragment : Fragment}
    (found : fragment ∈ (split limit octets).1) : fragment.Accepted limit := by
  fun_induction split limit octets with
  | case1 octets first rest stands inductionHypothesis =>
    rcases List.mem_cons.1 found with rfl | later
    · exact (accepted_of_front stands).1
    · exact inductionHypothesis later
  | case2 | case3 | case4 | case5 => simp at found

/-- Octets that arrive later only add to the fragments that were found before. -/
theorem split_append (limit : Int) (octets more : Octets) :
    split limit (octets ++ more) =
      ((split limit octets).1 ++ (split limit ((split limit octets).2 ++ more)).1,
        (split limit ((split limit octets).2 ++ more)).2) := by
  fun_induction split limit octets with
  | case1 octets fragment rest found inductionHypothesis =>
    obtain ⟨accepted, rfl⟩ := accepted_of_front found
    rw [List.append_assoc, split_of_front (front_octets_append accepted (rest ++ more)),
      inductionHypothesis]
    rfl
  | case2 | case3 | case4 | case5 => rfl

/-- Accepted fragments are found again in front of whatever follows them. -/
theorem split_flatMap_octets {fragments : List Fragment}
    (accepted : ∀ fragment ∈ fragments, fragment.Accepted limit) (rest : Octets) :
    split limit (fragments.flatMap Fragment.octets ++ rest) =
      (fragments ++ (split limit rest).1, (split limit rest).2) := by
  induction fragments with
  | nil => rfl
  | cons fragment later inductionHypothesis =>
    rw [List.flatMap_cons, List.append_assoc,
      split_of_front (front_octets_append (accepted fragment (by simp)) _),
      inductionHypothesis fun other among => accepted other (by simp [among])]
    rfl

end Split

/-- The records that fragments complete, and what they leave of the next one. `begun` is what
earlier fragments left. -/
def regroup (begun : Octets) : List Fragment → List Octets × Octets
  | [] => ([], begun)
  | fragment :: later =>
    if fragment.last then
      ((begun ++ fragment.payload) :: (regroup [] later).1, (regroup [] later).2)
    else regroup (begun ++ fragment.payload) later

/-- Later fragments go on with what the earlier ones left. -/
theorem regroup_append (begun : Octets) (earlier later : List Fragment) :
    regroup begun (earlier ++ later) =
      ((regroup begun earlier).1 ++ (regroup (regroup begun earlier).2 later).1,
        (regroup (regroup begun earlier).2 later).2) := by
  fun_induction regroup begun earlier with
  | case1 begun => rfl
  | case2 begun fragment more last inductionHypothesis =>
    simp only [List.cons_append, regroup, last, if_true, inductionHypothesis]
  | case3 begun fragment more notLast inductionHypothesis =>
    simp only [List.cons_append, regroup, notLast, inductionHypothesis]
    rfl

/-- Fragments of one record: the final one, and no other, is flagged as last. -/
def Fragment.FormRecord : List Fragment → Prop
  | [] => False
  | [fragment] => fragment.last = true
  | fragment :: next :: later => fragment.last = false ∧ FormRecord (next :: later)

/-- The fragments of a record complete it, and leave nothing of the next one. -/
theorem regroup_of_formRecord {fragments : List Fragment} (formed : Fragment.FormRecord fragments)
    (begun : Octets) : regroup begun fragments = ([begun ++ Fragment.join fragments], []) := by
  fun_induction Fragment.FormRecord fragments generalizing begun with
  | case1 => exact formed.elim
  | case2 fragment => simp [regroup, formed, Fragment.join]
  | case3 fragment next later inductionHypothesis =>
    rw [regroup, formed.1, if_neg (by simp), inductionHypothesis formed.2]
    simp [Fragment.join]

/-- Several records one behind another are found again, each from its own fragments. -/
theorem regroup_flatten {groups : List (List Fragment)}
    (formed : ∀ group ∈ groups, Fragment.FormRecord group) :
    regroup [] groups.flatten = (groups.map Fragment.join, []) := by
  induction groups with
  | nil => rfl
  | cons group later inductionHypothesis =>
    rw [List.flatten_cons, regroup_append, regroup_of_formRecord (formed group (by simp)),
      inductionHypothesis fun other among => formed other (by simp [among])]
    rfl

/-- Fragments of which none is flagged as last complete nothing. -/
theorem regroup_of_unfinished {fragments : List Fragment}
    (unfinished : ∀ fragment ∈ fragments, fragment.last = false) (begun : Octets) :
    regroup begun fragments = ([], begun ++ Fragment.join fragments) := by
  induction fragments generalizing begun with
  | nil => simp [regroup, Fragment.join]
  | cons fragment later inductionHypothesis =>
    rw [regroup, unfinished fragment (by simp), if_neg (by simp),
      inductionHypothesis fun other among => unfinished other (by simp [among])]
    simp [Fragment.join]

/-- The accepted fragments up to the first that is flagged as last, and the octets behind
them. -/
def opening (limit : Int) (octets : Octets) : List Fragment × Octets :=
  match _found : front limit octets with
  | .fragment fragment rest =>
    if fragment.last then ([fragment], rest)
    else (fragment :: (opening limit rest).1, (opening limit rest).2)
  | .cutMarker _ | .zeroLength _ | .tooLarge .. | .cutPayload .. => ([], octets)
termination_by octets.length
decreasing_by all_goals exact length_lt_of_front _found

section Opening

variable {limit : Int}

theorem opening_of_last {octets rest : Octets} {fragment : Fragment}
    (found : front limit octets = .fragment fragment rest) (last : fragment.last = true) :
    opening limit octets = ([fragment], rest) := by
  rw [opening]
  split <;> simp_all

theorem opening_of_not_last {octets rest : Octets} {fragment : Fragment}
    (found : front limit octets = .fragment fragment rest) (notLast : fragment.last = false) :
    opening limit octets = (fragment :: (opening limit rest).1, (opening limit rest).2) := by
  rw [opening]
  split <;> simp_all

/-- The opening either is a record, or it ends where no accepted fragment stands. -/
theorem formRecord_or_unfinished_opening (limit : Int) (octets : Octets) :
    Fragment.FormRecord (opening limit octets).1 ∨
      (∀ fragment ∈ (opening limit octets).1, fragment.last = false) ∧
        (front limit (opening limit octets).2).isFragment = false := by
  fun_induction opening limit octets with
  | case1 octets fragment rest found last => exact .inl last
  | case2 octets fragment rest found notLast inductionHypothesis =>
    have unflagged : fragment.last = false := by simpa using notLast
    rcases inductionHypothesis with formed | ⟨unfinished, blocked⟩
    · left
      match later : (opening limit rest).1, formed with
      | next :: more, formed => exact ⟨unflagged, formed⟩
    · right
      refine ⟨fun other among => ?_, blocked⟩
      rcases List.mem_cons.1 among with rfl | among
      · exact unflagged
      · exact unfinished other among
  | case3 | case4 | case5 | case6 => simp_all [Front.isFragment]

/-- The fragments of the opening are the first ones. -/
theorem split_opening (limit : Int) (octets : Octets) :
    split limit octets =
      ((opening limit octets).1 ++ (split limit (opening limit octets).2).1,
        (split limit (opening limit octets).2).2) := by
  fun_induction opening limit octets with
  | case1 octets fragment rest found last => exact split_of_front found
  | case2 octets fragment rest found notLast inductionHypothesis =>
    rw [split_of_front found, inductionHypothesis]
    rfl
  | case3 | case4 | case5 | case6 => rfl

/-- An opening that is a record is the first record, and the others come from what is behind
it. -/
theorem regroup_split_of_formRecord {octets : Octets}
    (formed : Fragment.FormRecord (opening limit octets).1) (begun : Octets) :
    regroup begun (split limit octets).1 =
      ((begun ++ Fragment.join (opening limit octets).1) ::
          (regroup [] (split limit (opening limit octets).2).1).1,
        (regroup [] (split limit (opening limit octets).2).1).2) := by
  rw [split_opening limit octets, regroup_append, regroup_of_formRecord formed]
  rfl

/-- An opening that is no record is all there is. -/
theorem split_of_unfinished {octets : Octets}
    (blocked : (front limit (opening limit octets).2).isFragment = false) :
    split limit octets = opening limit octets := by
  rw [split_opening limit octets, split_of_blocked blocked, List.append_nil]

/-- The fragments of one record are the opening of what begins with them. -/
theorem opening_flatMap_octets {fragments : List Fragment}
    (formed : Fragment.FormRecord fragments)
    (accepted : ∀ fragment ∈ fragments, fragment.Accepted limit) (rest : Octets) :
    opening limit (fragments.flatMap Fragment.octets ++ rest) = (fragments, rest) := by
  fun_induction Fragment.FormRecord fragments with
  | case1 => exact formed.elim
  | case2 fragment =>
    have found := front_octets_append (accepted fragment (by simp)) rest
    simpa using opening_of_last found formed
  | case3 fragment next later inductionHypothesis =>
    have tail := inductionHypothesis formed.2 fun other among => accepted other (by simp [among])
    rw [List.flatMap_cons, List.append_assoc,
      opening_of_not_last (front_octets_append (accepted fragment (by simp)) _) formed.1, tail]

end Opening

end RecordMarking
