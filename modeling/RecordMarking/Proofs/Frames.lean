import RecordMarking.Proofs.Grammar

/-!
# Frames in the grammar

The frame of a record is the octets of fragments that form one record and carry it. They are
accepted by everyone whose limit is above the size of the largest of them, which is the
fragment size or the length of the record, whichever is less.
-/

namespace RecordMarking

/-- A slice has octets, and at most as many as the size says and as there are. -/
theorem Octets.length_of_mem_slices {size : Nat} (positive : 1 ≤ size) {octets slice : Octets}
    (among : slice ∈ octets.slices size) :
    1 ≤ slice.length ∧ slice.length ≤ size ∧ slice.length ≤ octets.length := by
  fun_induction Octets.slices size octets with
  | case1 octets empty => simp at among
  | case2 octets nonempty inductionHypothesis =>
    have filled : 1 ≤ octets.length := by
      rw [List.isEmpty_iff] at nonempty
      exact List.length_pos_iff.2 nonempty
    rcases List.mem_cons.1 among with rfl | later
    · rw [List.length_take]
      omega
    · have bounds := inductionHypothesis later
      rw [List.length_drop] at bounds
      omega

namespace Fragment

@[simp] theorem map_payload_ofPieces (pieces : List Octets) :
    (ofPieces pieces).map payload = pieces := by
  fun_induction ofPieces pieces with
  | case1 | case2 => rfl
  | case3 piece next rest inductionHypothesis => rw [List.map_cons, inductionHypothesis]

/-- The fragments of pieces form a record. -/
theorem formRecord_ofPieces {pieces : List Octets} (nonempty : pieces ≠ []) :
    FormRecord (ofPieces pieces) := by
  fun_induction ofPieces pieces with
  | case1 => exact absurd rfl nonempty
  | case2 piece => exact rfl
  | case3 piece next rest inductionHypothesis =>
    have formed := inductionHypothesis (List.cons_ne_nil next rest)
    cases tail : ofPieces (next :: rest) with
    | nil => rw [tail] at formed; exact formed.elim
    | cons first others => rw [tail] at formed; exact ⟨rfl, formed⟩

end Fragment

/-- A record that can be framed at a fragment size, for those who accept lengths below a
limit. -/
structure Framable (limit : Int) (record : Octets) (size : Int) : Prop where
  nonempty : record ≠ []
  positive : 1 ≤ size
  announced : size ≤ Marker.maxLength
  below : min (record.length : Int) size < limit

namespace Framable

variable {limit size : Int} {record : Octets}

theorem frame_eq (framable : Framable limit record size) :
    frame record (.integer size) =
      .ok ((fragments size.toNat record).flatMap Fragment.octets) :=
  frame_eq_ok_iff.2 ⟨framable.nonempty, framable.positive, framable.announced, rfl⟩

theorem formRecord (framable : Framable limit record size) :
    Fragment.FormRecord (fragments size.toNat record) :=
  Fragment.formRecord_ofPieces (Octets.slices_ne_nil _ framable.nonempty)

theorem accepted (framable : Framable limit record size) {fragment : Fragment}
    (among : fragment ∈ fragments size.toNat record) : fragment.Accepted limit := by
  obtain ⟨nonempty, positive, announced, below⟩ := framable
  have piece : fragment.payload ∈ record.slices size.toNat := by
    rw [← Fragment.map_payload_ofPieces (record.slices size.toNat)]
    exact List.mem_map_of_mem among
  have bounds := Octets.length_of_mem_slices (by omega) piece
  exact ⟨bounds.1, by omega, by omega⟩

end Framable

/-- The fragments of each of several records, with a fragment size for each. -/
def fragmentGroups (records : List (Octets × Int)) : List (List Fragment) :=
  records.map fun entry => fragments entry.2.toNat entry.1

/-- Framable records can all be framed. -/
theorem mapM_frame_eq {limit : Int} {records : List (Octets × Int)}
    (framable : ∀ entry ∈ records, Framable limit entry.1 entry.2) :
    records.mapM (fun entry => frame entry.1 (.integer entry.2)) =
      .ok ((fragmentGroups records).map (·.flatMap Fragment.octets)) := by
  induction records with
  | nil => rfl
  | cons entry later inductionHypothesis =>
    rw [List.mapM_cons, (framable entry (by simp)).frame_eq,
      inductionHypothesis fun other among => framable other (by simp [among])]
    rfl

theorem map_join_fragmentGroups (records : List (Octets × Int)) :
    (fragmentGroups records).map Fragment.join = records.map Prod.fst := by
  simp [fragmentGroups, Function.comp_def]

theorem formRecord_of_mem_fragmentGroups {limit : Int} {records : List (Octets × Int)}
    (framable : ∀ entry ∈ records, Framable limit entry.1 entry.2) {group : List Fragment}
    (among : group ∈ fragmentGroups records) : Fragment.FormRecord group := by
  obtain ⟨entry, listed, rfl⟩ := List.mem_map.1 among
  exact (framable entry listed).formRecord

theorem accepted_of_mem_fragmentGroups {limit : Int} {records : List (Octets × Int)}
    (framable : ∀ entry ∈ records, Framable limit entry.1 entry.2) {group : List Fragment}
    (among : group ∈ fragmentGroups records) {fragment : Fragment} (part : fragment ∈ group) :
    fragment.Accepted limit := by
  obtain ⟨entry, listed, rfl⟩ := List.mem_map.1 among
  exact (framable entry listed).accepted part

/-- Frames one behind another split into the fragments of all records, and nothing is left. -/
theorem split_flatten_frames {limit : Int} {groups : List (List Fragment)}
    (accepted : ∀ group ∈ groups, ∀ fragment ∈ group, fragment.Accepted limit) :
    split limit (groups.map (·.flatMap Fragment.octets)).flatten = (groups.flatten, []) := by
  have whole : (groups.map (·.flatMap Fragment.octets)).flatten =
      groups.flatten.flatMap Fragment.octets ++ [] := by
    rw [List.append_nil, ← List.flatMap_id, List.flatMap_map, ← List.flatMap_id, List.flatMap_assoc]
    rfl
  have each : ∀ fragment ∈ groups.flatten, fragment.Accepted limit := by
    intro fragment among
    obtain ⟨group, listed, part⟩ := List.mem_flatten.1 among
    exact accepted group listed fragment part
  rw [whole, split_flatMap_octets each, split_of_blocked rfl, List.append_nil]

end RecordMarking
