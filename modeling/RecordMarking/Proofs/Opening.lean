import RecordMarking.Proofs.Reading

/-!
# What reading a record comes to

`Opens` says without recursion which fragments octets begin with, up to the end of a record or as
far as fragments can be accepted; `opens_iff` that there is always one way to take them, which is
the one that `opening` takes. `read_follows_grammar` says for every well-behaved source how reading
a record ends and what it leaves, in each of the cases that can stand behind these fragments.
-/

namespace RecordMarking

/-- None of the fragments ends its record. -/
def Fragment.Unfinished (fragments : List Fragment) : Prop :=
  ∀ fragment ∈ fragments, fragment.last = false

/-- Octets begin with these accepted fragments. Either they form a record, or none of them ends one
and no further fragment can be accepted. -/
structure Opens (limit : Int) (octets : Octets) (fragments : List Fragment) (rest : Octets) :
    Prop where
  octets_eq : octets = fragments.flatMap Fragment.octets ++ rest
  accepted : ∀ fragment ∈ fragments, fragment.Accepted limit
  ends : Fragment.FormRecord fragments ∨
    Fragment.Unfinished fragments ∧
      ∀ (fragment : Fragment) (behind : Octets),
        fragment.Accepted limit → rest ≠ fragment.octets ++ behind

section Opens

variable {limit : Int} {octets rest : Octets} {fragments : List Fragment}

/-- Fragments that form a record are not unfinished. -/
theorem not_unfinished_of_formRecord (formed : Fragment.FormRecord fragments) :
    ¬ Fragment.Unfinished fragments := by
  fun_induction Fragment.FormRecord fragments with
  | case1 => exact formed.elim
  | case2 fragment => simp [Fragment.Unfinished, formed]
  | case3 fragment next later inductionHypothesis =>
    intro unfinished
    exact inductionHypothesis formed.2 fun other among => unfinished other (by simp [among])

/-- No accepted fragment stands in front of octets exactly if none is found there. -/
theorem isFragment_front_eq_false_iff :
    (front limit octets).isFragment = false ↔
      ∀ (fragment : Fragment) (behind : Octets),
        fragment.Accepted limit → octets ≠ fragment.octets ++ behind := by
  constructor
  · rintro blocked fragment behind accepted rfl
    simp [front_octets_append accepted, Front.isFragment] at blocked
  · intro none
    cases found : front limit octets with
    | fragment fragment behind =>
      obtain ⟨accepted, stands⟩ := accepted_of_front found
      exact absurd stands (none fragment behind accepted)
    | cutMarker | zeroLength | tooLarge | cutPayload => rfl

/-- Unfinished fragments in front of which no further one can be accepted are the opening. -/
theorem opening_of_unfinished (accepted : ∀ fragment ∈ fragments, fragment.Accepted limit)
    (unfinished : Fragment.Unfinished fragments) (blocked : (front limit rest).isFragment = false) :
    opening limit (fragments.flatMap Fragment.octets ++ rest) = (fragments, rest) := by
  induction fragments with
  | nil =>
    rw [List.flatMap_nil, List.nil_append, opening]
    split <;> simp_all [Front.isFragment]
  | cons fragment later inductionHypothesis =>
    rw [List.flatMap_cons, List.append_assoc,
      opening_of_not_last (front_octets_append (accepted fragment (by simp)) _)
        (unfinished fragment (by simp)),
      inductionHypothesis (fun other among => accepted other (by simp [among]))
        fun other among => unfinished other (by simp [among])]

/-- The fragments of the opening are accepted and stand in front of what is behind them. -/
theorem opens_opening (limit : Int) (octets : Octets) :
    Opens limit octets (opening limit octets).1 (opening limit octets).2 := by
  have whole := split_opening limit octets
  refine ⟨?_, fun fragment among => ?_, ?_⟩
  · have all := flatMap_octets_split limit octets
    have behind := flatMap_octets_split limit (opening limit octets).2
    rw [whole, List.flatMap_append, List.append_assoc, behind] at all
    exact all.symm
  · have found : fragment ∈ (split limit octets).1 := by
      rw [whole]
      exact List.mem_append_left _ among
    exact accepted_of_mem_split found
  · exact (formRecord_or_unfinished_opening limit octets).imp_right fun ⟨unfinished, blocked⟩ =>
      ⟨unfinished, isFragment_front_eq_false_iff.1 blocked⟩

/-- There is one way to take the fragments that octets begin with. -/
theorem opens_iff :
    Opens limit octets fragments rest ↔ opening limit octets = (fragments, rest) := by
  constructor
  · rintro ⟨rfl, accepted, formed | ⟨unfinished, none⟩⟩
    · exact opening_flatMap_octets formed accepted rest
    · exact opening_of_unfinished accepted unfinished (isFragment_front_eq_false_iff.2 none)
  · intro same
    have opens := opens_opening limit octets
    rwa [same] at opens

end Opens

/-- How reading a record ends behind the fragments that a source begins with, and what it leaves. -/
structure ReadsAs (limit : Int) (fragments : List Fragment) (rest : Octets)
    (result : Except Fault Octets) (left : Octets) : Prop where
  /-- A record is read up to its end. -/
  record : Fragment.FormRecord fragments → result = .ok (Fragment.join fragments) ∧ left = rest
  /-- Octets that are too few for a marker are all read. -/
  cutMarker : Fragment.Unfinished fragments → rest.length < Marker.size →
    result = .error (.shortRead (.integer rest.length) (.integer Marker.size)) ∧ left = []
  /-- Behind the marker of a fragment without octets nothing is read. -/
  zeroLength : Fragment.Unfinished fragments → ∀ (marker : Marker) (behind : Octets),
    marker.length ≤ Marker.maxLength → rest = marker.octets ++ behind → marker.length = 0 →
      result = .error .zeroLengthFragment ∧ left = behind
  /-- A fragment at or above the limit is read away as far as it is there. -/
  tooLarge : Fragment.Unfinished fragments → ∀ (marker : Marker) (behind : Octets),
    marker.length ≤ Marker.maxLength → rest = marker.octets ++ behind → limit ≤ marker.length →
      let length : Value := .integer marker.length
      let discarded := min marker.length behind.length
      result =
          .error
            (if marker.length ≤ behind.length then
              .fragmentTooLarge length (.integer limit) (.integer discarded)
            else
              let obstacle : Fault := .shortRead (.integer discarded) length
              .raisedFrom
                (.fragmentUndrained length (.integer limit) (.integer discarded) obstacle)
                obstacle) ∧
        left = behind.drop discarded
  /-- Of any other fragment the payload is not there in full, and all of it is read. -/
  cutPayload : Fragment.Unfinished fragments → ∀ (marker : Marker) (behind : Octets),
    marker.length ≤ Marker.maxLength → rest = marker.octets ++ behind → 1 ≤ marker.length →
      marker.length < limit →
        behind.length < marker.length ∧
          result = .error (.shortRead (.integer behind.length) (.integer marker.length)) ∧
          left = []

section ReadsAs

variable {limit : Int} {fragments : List Fragment} {rest : Octets}

theorem readsAs_of_formRecord (formed : Fragment.FormRecord fragments) :
    ReadsAs limit fragments rest (.ok (Fragment.join fragments)) rest := by
  have finished := not_unfinished_of_formRecord formed
  exact ⟨fun _ => ⟨rfl, rfl⟩, fun unfinished => absurd unfinished finished,
    fun unfinished => absurd unfinished finished, fun unfinished => absurd unfinished finished,
    fun unfinished => absurd unfinished finished⟩

/-- An oversized fragment is read away as far as it is there. -/
theorem refusal_drained (limit : Int) (length : Nat) (behind : Octets) :
    let discarded : Value := .integer (min length behind.length : Nat)
    Source.refusal length (.integer limit) (drained length behind) =
      if length ≤ behind.length then
        .fragmentTooLarge (.integer length) (.integer limit) discarded
      else
        let obstacle : Fault := .shortRead discarded (.integer length)
        .raisedFrom (.fragmentUndrained (.integer length) (.integer limit) discarded obstacle)
          obstacle := by
  intro discarded
  simp only [drained, discarded]
  by_cases enough : length ≤ behind.length
  · rw [if_pos enough, if_pos enough, Nat.min_eq_left enough]
    rfl
  · rw [if_neg enough, if_neg enough, Nat.min_eq_right (by omega)]
    rfl

/-- Behind unfinished fragments it is what stands there that decides. -/
theorem readsAs_of_unfinished (enough : 2 ≤ limit) (unfinished : Fragment.Unfinished fragments)
    (blocked : (front limit rest).isFragment = false) :
    ReadsAs limit fragments rest ((front limit rest).payload limit) (front limit rest).unread where
  record formed := absurd unfinished (not_unfinished_of_formRecord formed)
  cutMarker _ short := by
    rw [front_of_short short]
    exact ⟨rfl, rfl⟩
  zeroLength := by
    rintro - marker behind fits rfl zero
    rw [front_marker fits, Marker.front, if_pos (by omega)]
    exact ⟨rfl, rfl⟩
  tooLarge := by
    rintro - marker behind fits rfl large
    rw [front_marker fits, Marker.front, if_neg (by omega), if_pos large]
    refine ⟨congrArg Except.error (refusal_drained limit marker.length behind), ?_⟩
    rw [Front.unread, List.drop_eq_drop_iff]
    omega
  cutPayload := by
    rintro - marker behind fits rfl positive below
    rw [front_marker fits, Marker.front, if_neg (by omega), if_neg (by omega)] at blocked ⊢
    by_cases short : behind.length < marker.length
    · rw [if_pos short]
      exact ⟨short, rfl, rfl⟩
    · rw [if_neg short] at blocked
      simp [Front.isFragment] at blocked

end ReadsAs

namespace Source

variable {limit : Int}

/-- What reading a record comes to is decided by the octets alone. -/
theorem exists_reading (enough : 2 ≤ limit) (octets : Octets) :
    ∃ result left, ReadsAs limit (opening limit octets).1 (opening limit octets).2 result left ∧
      ∀ source : Source, source.WellBehaved → source.octets = octets →
        Leaves ((readRecord (.integer limit)).run source) result left := by
  rcases formRecord_or_unfinished_opening limit octets with formed | ⟨unfinished, blocked⟩
  · refine ⟨_, _, readsAs_of_formRecord formed, ?_⟩
    rintro source behaved rfl
    exact leaves_readOn limit behaved [] formed
  · obtain ⟨fault, fails⟩ := Front.exists_fault_of_blocked limit blocked
    have reads := readsAs_of_unfinished enough unfinished blocked
    rw [fails] at reads
    refine ⟨_, _, reads, ?_⟩
    rintro source behaved rfl
    exact leaves_readOn_opening_error behaved [] unfinished fails

/-- Reading a record takes the fragments that the source begins with, up to the end of the record.
Where no further fragment can be accepted before that, it fails with the fault of what stands there,
and has read exactly what it had to. How the source cuts its octets makes no difference. -/
theorem read_follows_grammar (enough : 2 ≤ limit) {source : Source}
    (behaved : source.WellBehaved) :
    checkLimit (.integer limit) = .ok limit ∧
      ∃ fragments rest, Opens limit source.octets fragments rest ∧
        (∀ others more, Opens limit source.octets others more →
          others = fragments ∧ more = rest) ∧
        let outcome := (readRecord (.integer limit)).run source
        ReadsAs limit fragments rest outcome.result outcome.state.octets ∧
          ∀ other : Source, other.WellBehaved → other.octets = source.octets →
            ((readRecord (.integer limit)).run other).result = outcome.result ∧
              ((readRecord (.integer limit)).run other).state.octets = outcome.state.octets := by
  obtain ⟨result, left, reads, leaves⟩ := exists_reading enough source.octets
  obtain ⟨ended, remains, -⟩ := leaves source behaved rfl
  refine ⟨if_pos enough, _, _, opens_opening limit source.octets, fun others more opens => ?_, ?_⟩
  · have same := opens_iff.1 opens
    exact ⟨by rw [same], by rw [same]⟩
  · intro outcome
    rw [ended, remains]
    refine ⟨reads, fun other otherBehaved alike => ?_⟩
    have again := leaves other otherBehaved alike
    exact ⟨again.result_eq, again.octets_eq⟩

/-- A fragment, and behind it another that is too large and of which only a part is there, cut
in the middle of both markers. -/
theorem read_follows_grammar_to_undrained :
    let source : Source :=
      [.data [0, 0], .data [0, 2, 0x41, 0x42, 0x80], .data [0, 0, 9, 0x43], .data [0x44]]
    let outcome := (readRecord (.integer 4)).run source
    source.WellBehaved ∧ Opens 4 source.octets [⟨[0x41, 0x42], false⟩]
        [0x80, 0, 0, 9, 0x43, 0x44] ∧
      outcome.result =
          .error
            (.raisedFrom
              (.fragmentUndrained (.integer 9) (.integer 4) (.integer 2)
                (.shortRead (.integer 2) (.integer 9)))
              (.shortRead (.integer 2) (.integer 9))) ∧
        outcome.state.octets = [] := by
  intro source outcome
  have behaved : source.WellBehaved := by simp [source, WellBehaved]
  have opens : Opens 4 source.octets [⟨[0x41, 0x42], false⟩] [0x80, 0, 0, 9, 0x43, 0x44] :=
    opens_iff.2 (by decide +kernel)
  have enough : (2 : Int) ≤ 4 := by decide
  obtain ⟨_, fragments, rest, _, unique, reads, _⟩ := read_follows_grammar enough behaved
  obtain ⟨rfl, rfl⟩ := unique _ _ opens
  have refused := reads.tooLarge (by simp [Fragment.Unfinished]) ⟨9, true⟩ [0x43, 0x44] (by decide)
    rfl (by decide)
  exact ⟨behaved, opens, refused⟩

end Source

end RecordMarking
