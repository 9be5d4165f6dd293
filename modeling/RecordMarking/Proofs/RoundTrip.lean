import RecordMarking.Proofs.Frames
import RecordMarking.Proofs.Iteration

/-!
# Framed records come back

Records that were framed one behind another, each at a size of its own, are read back in order
from every well-behaved source that holds the frames, however it cuts them:
`read_back_of_frames` says so of iterating and of reading one record at a time.
-/

namespace RecordMarking.Source

variable {limit : Int} {source : Source}

/-- The outcomes of reading so many records one after another, each on the source that the one
before it left. -/
def successiveReads (limit : Value) : Nat → Source → List (Outcome Source Octets)
  | 0, _ => []
  | count + 1, source =>
    (readRecord limit).run source ::
      successiveReads limit count ((readRecord limit).run source).state

/-- Each of successive reads takes the fragments of one record, and leaves those of the later
ones. -/
theorem successiveReads_of_groups {groups : List (List Fragment)}
    (formed : ∀ group ∈ groups, Fragment.FormRecord group)
    (accepted : ∀ group ∈ groups, ∀ fragment ∈ group, fragment.Accepted limit)
    (behaved : source.WellBehaved)
    (holds : source.octets = (groups.map (·.flatMap Fragment.octets)).flatten)
    {index : Nat} {group : List Fragment} (listed : groups[index]? = some group) :
    ∃ outcome, (successiveReads (.integer limit) groups.length source)[index]? = some outcome ∧
      outcome.result = .ok (Fragment.join group) ∧
      outcome.state.octets =
        ((groups.map (·.flatMap Fragment.octets)).drop (index + 1)).flatten := by
  induction groups generalizing source index with
  | nil => simp at listed
  | cons first later inductionHypothesis =>
    rw [List.map_cons, List.flatten_cons] at holds
    have opens := opening_flatMap_octets (formed first (by simp)) (accepted first (by simp))
      (later.map (·.flatMap Fragment.octets)).flatten
    rw [← holds] at opens
    have read := leaves_readOn limit behaved [] (by rw [opens]; exact formed first (by simp))
    rw [opens, List.reverse_nil, List.flatten_nil, List.nil_append] at read
    cases index with
    | zero =>
      obtain rfl : first = group := by simpa using listed
      exact ⟨_, rfl, read.result_eq, read.octets_eq⟩
    | succ index =>
      exact inductionHypothesis (fun other among => formed other (by simp [among]))
        (fun other among => accepted other (by simp [among])) read.wellBehaved read.octets_eq
        listed

/-- Reading everything takes the fragments of all records, and leaves nothing. -/
theorem readAll_of_groups {groups : List (List Fragment)}
    (formed : ∀ group ∈ groups, Fragment.FormRecord group)
    (accepted : ∀ group ∈ groups, ∀ fragment ∈ group, fragment.Accepted limit)
    (behaved : source.WellBehaved)
    (holds : source.octets = (groups.map (·.flatMap Fragment.octets)).flatten) :
    (readAll (.integer limit) source).result = .ok (groups.map Fragment.join) ∧
      (readAll (.integer limit) source).state.octets = [] := by
  obtain ⟨records, ending, left, _⟩ := iterate_of_wellBehaved limit behaved
  obtain ⟨result, state⟩ := readAll_eq_iterate (.integer limit) source
  rw [holds, split_flatten_frames accepted, regroup_flatten formed] at records ending
  rw [holds, split_flatten_frames accepted] at left
  rw [result, state, ending, records, left]
  exact ⟨rfl, rfl⟩

/-- Framed records are read back in order from every well-behaved source that holds their
frames. -/
theorem read_back_of_frames (enough : 2 ≤ limit) {records : List (Octets × Int)}
    (framable : ∀ entry ∈ records, Framable limit entry.1 entry.2) :
    checkLimit (.integer limit) = .ok limit ∧
      ∃ frames, records.mapM (fun entry => frame entry.1 (.integer entry.2)) = .ok frames ∧
        ∀ source : Source, source.WellBehaved → source.octets = frames.flatten →
          ((readAll (.integer limit) source).result = .ok (records.map Prod.fst) ∧
            (readAll (.integer limit) source).state.octets = []) ∧
          ∀ index entry, records[index]? = some entry →
            ∃ outcome,
              (successiveReads (.integer limit) records.length source)[index]? = some outcome ∧
                outcome.result = .ok entry.1 ∧
                outcome.state.octets = (frames.drop (index + 1)).flatten := by
  refine ⟨if_pos enough, _, mapM_frame_eq framable, fun source behaved holds => ⟨?_, ?_⟩⟩
  · have all := readAll_of_groups (fun group => formRecord_of_mem_fragmentGroups framable)
      (fun group among fragment => accepted_of_mem_fragmentGroups framable among) behaved holds
    rwa [map_join_fragmentGroups] at all
  · intro index entry listed
    have group : (fragmentGroups records)[index]? = some (fragments entry.2.toNat entry.1) := by
      simp [fragmentGroups, listed]
    have read := successiveReads_of_groups
      (fun group => formRecord_of_mem_fragmentGroups framable)
      (fun group among fragment => accepted_of_mem_fragmentGroups framable among) behaved holds
      group
    simpa [fragmentGroups] using read

/-- Two records of different sizes come back from a source that delivers one octet at a time. -/
theorem read_back_of_frames_octet_by_octet :
    ∃ frames,
      [([97, 98, 99, 100], 2), ([101], 0x7fffffff)].mapM
          (fun entry : Octets × Int => frame entry.1 (.integer entry.2)) = .ok frames ∧
        (let source : Source := frames.flatten.map fun octet => .data [octet]
        source.WellBehaved ∧
          (readAll (.integer 3) source).result = .ok [[97, 98, 99, 100], [101]] ∧
          (readAll (.integer 3) source).state.octets = [] ∧
          ∃ outcome, (successiveReads (.integer 3) 2 source)[0]? = some outcome ∧
            outcome.result = .ok [97, 98, 99, 100] ∧
            outcome.state.octets = (frames.drop 1).flatten) := by
  have framable : ∀ entry ∈ [([97, 98, 99, 100], 2), ([101], 0x7fffffff)],
      Framable 3 entry.1 entry.2 := by
    intro entry among
    rcases List.mem_cons.1 among with rfl | among
    · exact ⟨by decide, by decide, by decide, by decide⟩
    · obtain rfl := List.mem_singleton.1 among
      exact ⟨by decide, by decide, by decide, by decide⟩
  obtain ⟨_, frames, framed, reads⟩ := read_back_of_frames (by decide) framable
  have behaved : WellBehaved (frames.flatten.map fun octet => .data [octet]) := by
    intro segment among
    obtain ⟨octet, _, rfl⟩ := List.mem_map.1 among
    exact ⟨[octet], by simp, rfl⟩
  have holds : octets (frames.flatten.map fun octet => .data [octet]) = frames.flatten := by
    rw [octets, List.flatMap_map]
    exact List.flatMap_singleton' _
  obtain ⟨⟨all, left⟩, each⟩ := reads _ behaved holds
  exact ⟨frames, framed, behaved, all, left, each 0 _ rfl⟩

end RecordMarking.Source
