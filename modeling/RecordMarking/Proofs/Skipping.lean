import RecordMarking.Proofs.RoundTrip

/-!
# Reading on behind oversized fragments

A reader that refuses an oversized fragment stands behind it, and does not remember that it was
inside a record. `readings` says what it then comes to when it reads again and again, and
`results_successiveReads` that it does. `surfaced` is what a record shows of itself: the fragments
behind its last oversized one, if there are any. `skipping_surfaces_tails` says that nothing else is
read of records, in order, and that this is the whole record exactly if none of its fragments is
oversized. `tail_surfaces` is a record of which only the end is read.
-/

namespace RecordMarking

namespace Fragment

/-- A fragment as a sender may put it on a stream: it has octets, and a marker can announce it. -/
structure Announceable (fragment : Fragment) : Prop where
  nonempty : 1 ≤ fragment.payload.length
  announced : fragment.payload.length ≤ Marker.maxLength

/-- Whether a fragment is at or above the limit. -/
def oversized (limit : Int) (fragment : Fragment) : Bool :=
  limit ≤ fragment.payload.length

/-- The fault of an oversized fragment that was read away in full. -/
def refusal (limit : Int) (fragment : Fragment) : Fault :=
  .fragmentTooLarge (.integer fragment.payload.length) (.integer limit)
    (.integer fragment.payload.length)

/-- The fragments behind the last oversized one, which are all if there is none. -/
def behindOversized (limit : Int) : List Fragment → List Fragment
  | [] => []
  | fragment :: later =>
    if (fragment :: later).any (oversized limit) then behindOversized limit later
    else fragment :: later

/-- What a reader returns of a record: what is behind its last oversized fragment, if the final
fragment is not oversized itself. -/
def surfaced (limit : Int) (fragments : List Fragment) : Option Octets :=
  if (behindOversized limit fragments).isEmpty then none
  else some (join (behindOversized limit fragments))

/-- All that comes of a record: a refusal for each oversized fragment, and then what surfaces. -/
def outcomes (limit : Int) (fragments : List Fragment) : List (Except Fault Octets) :=
  (fragments.filter (oversized limit)).map (.error ∘ refusal limit) ++
    (surfaced limit fragments).toList.map .ok

end Fragment

/-- What reading again and again comes to in fragments, up to their end. `begun` is what was read of
a record before. -/
def readings (limit : Int) (begun : Octets) : List Fragment → List (Except Fault Octets)
  | [] => []
  | fragment :: later =>
    if fragment.oversized limit then .error (fragment.refusal limit) :: readings limit [] later
    else if fragment.last then .ok (begun ++ fragment.payload) :: readings limit [] later
    else readings limit (begun ++ fragment.payload) later

section Fragments

variable {limit : Int} {fragment : Fragment} {fragments : List Fragment}

theorem accepted_of_not_oversized (announceable : fragment.Announceable)
    (small : fragment.oversized limit = false) : fragment.Accepted limit := by
  simp only [Fragment.oversized, decide_eq_false_iff_not, Int.not_le] at small
  exact ⟨announceable.nonempty, small, announceable.announced⟩

/-- An oversized fragment is refused where its octets stand, and reading goes on behind it. -/
theorem front_octets_append_of_oversized (announceable : fragment.Announceable)
    (large : fragment.oversized limit = true) (rest : Octets) :
    (front limit (fragment.octets ++ rest)).payload limit = .error (fragment.refusal limit) ∧
      (front limit (fragment.octets ++ rest)).unread = rest := by
  simp only [Fragment.oversized, decide_eq_true_eq] at large
  have announced : fragment.marker.length ≤ Marker.maxLength := announceable.announced
  have nonempty := announceable.nonempty
  rw [Fragment.octets, List.append_assoc, front_marker announced, Marker.front,
    if_neg (by simp only [Fragment.marker]; omega), if_pos (by simpa [Fragment.marker] using large)]
  refine ⟨?_, List.drop_left' rfl⟩
  simp [Front.payload, Source.refusal, Source.oversized, Fault.from?, drained, Fragment.marker,
    Fragment.refusal]

/-- Behind the fragments of a record, reading begins anew. -/
theorem readings_append (formed : Fragment.FormRecord fragments) (begun : Octets)
    (more : List Fragment) :
    readings limit begun (fragments ++ more) =
      readings limit begun fragments ++ readings limit [] more := by
  fun_induction Fragment.FormRecord fragments generalizing begun with
  | case1 => exact formed.elim
  | case2 fragment =>
    simp only [List.singleton_append, readings]
    cases fragment.oversized limit <;> simp [formed]
  | case3 fragment next later inductionHypothesis =>
    rw [List.cons_append, readings, readings, inductionHypothesis formed.2,
      inductionHypothesis formed.2, formed.1]
    cases fragment.oversized limit <;> rfl

/-- Fragments of which none is oversized are all behind the last oversized one. -/
theorem behindOversized_of_none (none : fragments.any (Fragment.oversized limit) = false) :
    Fragment.behindOversized limit fragments = fragments := by
  cases fragments with
  | nil => rfl
  | cons fragment later => rw [Fragment.behindOversized, none, if_neg Bool.false_ne_true]

theorem filter_oversized_of_none (none : fragments.any (Fragment.oversized limit) = false) :
    fragments.filter (Fragment.oversized limit) = [] := by
  simpa [List.filter_eq_nil_iff] using none

/-- A record without oversized fragments surfaces in full. -/
theorem surfaced_of_none (formed : Fragment.FormRecord fragments)
    (none : fragments.any (Fragment.oversized limit) = false) :
    Fragment.surfaced limit fragments = some (Fragment.join fragments) := by
  have something : fragments ≠ [] := by
    rintro rfl
    exact formed
  rw [Fragment.surfaced, behindOversized_of_none none, if_neg (by simpa using something)]

/-- Nothing surfaces of what is in front of an oversized fragment, and not of that fragment. -/
theorem surfaced_cons {later : List Fragment}
    (large : (fragment :: later).any (Fragment.oversized limit) = true) :
    Fragment.surfaced limit (fragment :: later) = Fragment.surfaced limit later := by
  simp only [Fragment.surfaced, Fragment.behindOversized, large, if_true]

/-- A record without oversized fragments is read in full. -/
theorem readings_of_none (formed : Fragment.FormRecord fragments)
    (none : fragments.any (Fragment.oversized limit) = false) (begun : Octets) :
    readings limit begun fragments = [.ok (begun ++ Fragment.join fragments)] := by
  fun_induction Fragment.FormRecord fragments generalizing begun with
  | case1 => exact formed.elim
  | case2 fragment =>
    simp only [List.any_cons, List.any_nil, Bool.or_false] at none
    simp [readings, none, formed, Fragment.join]
  | case3 fragment next later inductionHypothesis =>
    rw [List.any_cons, Bool.or_eq_false_iff] at none
    rw [readings, none.1, if_neg Bool.false_ne_true, formed.1, if_neg Bool.false_ne_true,
      inductionHypothesis formed.2 none.2]
    simp [Fragment.join]

/-- With an oversized fragment, what was read of the record before it is lost. -/
theorem readings_of_any (formed : Fragment.FormRecord fragments)
    (large : fragments.any (Fragment.oversized limit) = true) (begun : Octets) :
    readings limit begun fragments = Fragment.outcomes limit fragments := by
  fun_induction Fragment.FormRecord fragments generalizing begun with
  | case1 => exact formed.elim
  | case2 fragment =>
    have oversized : fragment.oversized limit = true := by simpa using large
    rw [Fragment.outcomes, surfaced_cons large]
    simp [readings, oversized, Fragment.surfaced, Fragment.behindOversized]
  | case3 fragment next later inductionHypothesis =>
    rw [Fragment.outcomes, surfaced_cons large, readings, formed.1]
    cases tail : (next :: later).any (Fragment.oversized limit) with
    | true =>
      have behind := inductionHypothesis formed.2 tail
      cases oversized : fragment.oversized limit with
      | true =>
        rw [if_pos rfl, behind, List.filter_cons_of_pos oversized]
        rfl
      | false =>
        have kept : (fragment :: next :: later).filter (Fragment.oversized limit) =
            (next :: later).filter (Fragment.oversized limit) :=
          List.filter_cons_of_neg (by simp [oversized])
        rw [if_neg Bool.false_ne_true, if_neg Bool.false_ne_true, behind, kept]
        rfl
    | false =>
      have oversized : fragment.oversized limit = true := by
        rw [List.any_cons, tail, Bool.or_false] at large
        exact large
      rw [oversized, if_pos rfl, readings_of_none formed.2 tail, surfaced_of_none formed.2 tail,
        List.filter_cons_of_pos oversized, filter_oversized_of_none tail]
      rfl

/-- A record is read as a refusal for each of its oversized fragments, and what surfaces of it. -/
theorem readings_of_formRecord (formed : Fragment.FormRecord fragments) :
    readings limit [] fragments = Fragment.outcomes limit fragments := by
  cases large : fragments.any (Fragment.oversized limit) with
  | true => exact readings_of_any formed large []
  | false =>
    rw [readings_of_none formed large, Fragment.outcomes, surfaced_of_none formed large,
      filter_oversized_of_none large]
    rfl

/-- Several records are read one after another, whatever surfaces of each. -/
theorem readings_flatten {groups : List (List Fragment)}
    (formed : ∀ group ∈ groups, Fragment.FormRecord group) :
    readings limit [] groups.flatten = groups.flatMap (Fragment.outcomes limit) := by
  induction groups with
  | nil => rfl
  | cons group later inductionHypothesis =>
    rw [List.flatten_cons, readings_append (formed group (by simp)),
      readings_of_formRecord (formed group (by simp)),
      inductionHypothesis fun other among => formed other (by simp [among]), List.flatMap_cons]

/-- What is behind the last oversized fragment is the end of all fragments, and holds none. -/
theorem exists_front_behindOversized (limit : Int) (fragments : List Fragment) :
    ∃ first, fragments = first ++ Fragment.behindOversized limit fragments ∧
      (Fragment.behindOversized limit fragments).any (Fragment.oversized limit) = false := by
  induction fragments with
  | nil => exact ⟨[], rfl, rfl⟩
  | cons fragment later inductionHypothesis =>
    obtain ⟨first, parts, none⟩ := inductionHypothesis
    cases large : (fragment :: later).any (Fragment.oversized limit) with
    | true =>
      rw [Fragment.behindOversized, large, if_pos rfl]
      exact ⟨fragment :: first, congrArg (List.cons fragment) parts, none⟩
    | false =>
      rw [behindOversized_of_none large]
      exact ⟨[], rfl, large⟩

/-- A record surfaces in full exactly if none of its fragments is oversized. -/
theorem surfaced_eq_join_iff (formed : Fragment.FormRecord fragments)
    (announceable : ∀ fragment ∈ fragments, fragment.Announceable) :
    Fragment.surfaced limit fragments = some (Fragment.join fragments) ↔
      ∀ fragment ∈ fragments, fragment.oversized limit = false := by
  constructor
  · intro full
    obtain ⟨first, parts, none⟩ := exists_front_behindOversized limit fragments
    have same : Fragment.join (Fragment.behindOversized limit fragments) =
        Fragment.join fragments := by
      unfold Fragment.surfaced at full
      split at full
      · simp at full
      · exact Option.some.inj full
    have joined : Fragment.join fragments =
        Fragment.join first ++ Fragment.join (Fragment.behindOversized limit fragments) :=
      (congrArg Fragment.join parts).trans List.flatMap_append
    have nothing : Fragment.join first = [] := List.self_eq_append_left.1 (same.trans joined)
    cases first with
    | nil =>
      rw [← List.nil_append (Fragment.behindOversized limit fragments), ← parts] at none
      simpa using none
    | cons fragment others =>
      have nonempty := (announceable fragment (by rw [parts]; simp)).nonempty
      have empty : fragment.payload = [] := (List.append_eq_nil_iff.1 nothing).1
      simp [empty] at nonempty
  · intro small
    exact surfaced_of_none formed (by simpa using small)

end Fragments

namespace Source

variable {limit : Int}

/-- Where no reading is left, reading on finds the end of the source. -/
theorem leaves_readOn_of_no_readings {fragments : List Fragment} {begun : Octets}
    (announceable : ∀ fragment ∈ fragments, fragment.Announceable)
    (none : readings limit begun fragments = []) {source : Source} (behaved : source.WellBehaved)
    (holds : source.octets = fragments.flatMap Fragment.octets) (pieces : List Octets) :
    Leaves ((readOn (.integer limit) pieces).run source)
      (.error (.shortRead (.integer 0) (.integer Marker.size))) [] := by
  induction fragments generalizing begun source pieces with
  | nil =>
    have short : source.octets.length < Marker.size := by simp [holds, Marker.size]
    have fails : (front limit source.octets).payload limit =
        .error (.shortRead (.integer 0) (.integer Marker.size)) := by
      rw [front_of_short short, holds]
      rfl
    have read := leaves_readOn_error behaved pieces fails
    rwa [front_of_short short] at read
  | cons fragment later inductionHypothesis =>
    rw [readings] at none
    cases large : fragment.oversized limit with
    | true => simp [large] at none
    | false =>
      cases last : fragment.last with
      | true => simp [large, last] at none
      | false =>
        simp only [large, last, Bool.false_eq_true, if_false] at none
        have accepted := accepted_of_not_oversized (announceable fragment (by simp)) large
        rw [List.flatMap_cons] at holds
        refine leaves_readOn_fragment behaved (holds ▸ front_octets_append accepted _)
          fun between betweenBehaved left => ?_
        rw [last, if_neg Bool.false_ne_true]
        exact inductionHypothesis (fun other among => announceable other (by simp [among])) none
          betweenBehaved left _

/-- Reading on takes the next reading, and leaves the fragments of the others. -/
theorem exists_leaves_readOn {fragments : List Fragment} {begun : Octets}
    (announceable : ∀ fragment ∈ fragments, fragment.Announceable)
    {result : Except Fault Octets} {others : List (Except Fault Octets)}
    (next : readings limit begun fragments = result :: others) :
    ∃ later, later <:+ fragments ∧ others = readings limit [] later ∧
      ∀ (source : Source) (pieces : List Octets), source.WellBehaved →
        source.octets = fragments.flatMap Fragment.octets → pieces.reverse.flatten = begun →
          Leaves ((readOn (.integer limit) pieces).run source) result
            (later.flatMap Fragment.octets) := by
  induction fragments generalizing begun with
  | nil => simp [readings] at next
  | cons fragment later inductionHypothesis =>
    have first := announceable fragment (by simp)
    rw [readings] at next
    cases large : fragment.oversized limit with
    | true =>
      rw [large, if_pos rfl, List.cons.injEq] at next
      obtain ⟨rfl, rfl⟩ := next
      refine ⟨later, List.suffix_cons fragment later, rfl, ?_⟩
      rintro source pieces behaved holds -
      rw [List.flatMap_cons] at holds
      obtain ⟨fails, left⟩ :=
        front_octets_append_of_oversized first large (later.flatMap Fragment.octets)
      rw [← holds] at fails left
      have read := leaves_readOn_error behaved pieces fails
      rwa [left] at read
    | false =>
      have found := front_octets_append (accepted_of_not_oversized first large)
        (later.flatMap Fragment.octets)
      cases last : fragment.last with
      | true =>
        rw [large, last, if_neg Bool.false_ne_true, if_pos rfl, List.cons.injEq] at next
        obtain ⟨rfl, rfl⟩ := next
        refine ⟨later, List.suffix_cons fragment later, rfl, ?_⟩
        rintro source pieces behaved holds rfl
        rw [List.flatMap_cons] at holds
        refine leaves_readOn_fragment behaved (holds ▸ found) fun between betweenBehaved left => ?_
        rw [last, if_pos rfl]
        refine ⟨?_, left, betweenBehaved⟩
        simp [finish, bind, Activity.andThen, Activity.note]
      | false =>
        rw [large, last, if_neg Bool.false_ne_true, if_neg Bool.false_ne_true] at next
        obtain ⟨behind, isSuffix, rest, reads⟩ := inductionHypothesis
          (fun other among => announceable other (by simp [among])) next
        refine ⟨behind, isSuffix.trans (List.suffix_cons fragment later), rest, ?_⟩
        rintro source pieces behaved holds rfl
        rw [List.flatMap_cons] at holds
        refine leaves_readOn_fragment behaved (holds ▸ found) fun between betweenBehaved left => ?_
        rw [last, if_neg Bool.false_ne_true]
        exact reads between (fragment.payload :: pieces) betweenBehaved left (by simp)

/-- Reading so many records one after another gives so many of the readings, and behind all of them
the end of the source. -/
theorem results_successiveReads {fragments : List Fragment}
    (announceable : ∀ fragment ∈ fragments, fragment.Announceable) {source : Source}
    (behaved : source.WellBehaved) (holds : source.octets = fragments.flatMap Fragment.octets)
    (count : Nat) :
    (successiveReads (.integer limit) count source).map Outcome.result =
      (readings limit [] fragments).take count ++
        List.replicate (count - (readings limit [] fragments).length)
          (.error (.shortRead (.integer 0) (.integer Marker.size))) := by
  induction count generalizing source fragments with
  | zero => simp [successiveReads]
  | succ count inductionHypothesis =>
    rw [successiveReads, List.map_cons]
    cases next : readings limit [] fragments with
    | nil =>
      have read : Leaves ((readRecord (.integer limit)).run source) _ [] :=
        leaves_readOn_of_no_readings announceable next behaved holds []
      have none : ∀ fragment ∈ ([] : List Fragment), fragment.Announceable := by simp
      rw [read.result_eq, inductionHypothesis none read.wellBehaved read.octets_eq]
      simp [readings, List.replicate_succ]
    | cons result others =>
      obtain ⟨later, isSuffix, rfl, reads⟩ := exists_leaves_readOn announceable next
      have read : Leaves ((readRecord (.integer limit)).run source) result _ :=
        reads source [] behaved holds rfl
      rw [read.result_eq, inductionHypothesis
        (fun other among => announceable other (isSuffix.subset among)) read.wellBehaved
        read.octets_eq]
      simp

/-- The records among results. -/
def values (results : List (Except Fault Octets)) : List Octets :=
  results.filterMap Except.toOption

@[simp] theorem values_append (first second : List (Except Fault Octets)) :
    values (first ++ second) = values first ++ values second :=
  List.filterMap_append

theorem values_replicate_error (count : Nat) (fault : Fault) :
    values (List.replicate count (.error fault)) = [] := by
  simp [values, Except.toOption]

/-- Of a record at most one value is read, and that is what surfaces of it. -/
theorem values_outcomes (fragments : List Fragment) :
    values (Fragment.outcomes limit fragments) = (Fragment.surfaced limit fragments).toList := by
  have refused : values ((fragments.filter (Fragment.oversized limit)).map
      (.error ∘ Fragment.refusal limit)) = [] := by
    simp [values, List.filterMap_map, Function.comp_def, Except.toOption]
  rw [Fragment.outcomes, values_append, refused]
  cases Fragment.surfaced limit fragments <;> rfl

theorem values_flatMap_outcomes (groups : List (List Fragment)) :
    values (groups.flatMap (Fragment.outcomes limit)) =
      groups.filterMap (Fragment.surfaced limit) := by
  induction groups with
  | nil => rfl
  | cons group later inductionHypothesis =>
    rw [List.flatMap_cons, values_append, values_outcomes, inductionHypothesis,
      List.filterMap_cons]
    cases Fragment.surfaced limit group <;> rfl

/-- Of records in fragments of any lengths, reading again and again gives a refusal for each
oversized fragment, and of each record what is behind its last oversized fragment. These values
come in the order of the records, and one is the whole record exactly if none of the fragments of
that record is oversized. -/
theorem skipping_surfaces_tails (enough : 2 ≤ limit) {groups : List (List Fragment)}
    (formed : ∀ group ∈ groups, Fragment.FormRecord group)
    (announceable : ∀ group ∈ groups, ∀ fragment ∈ group, fragment.Announceable) {source : Source}
    (behaved : source.WellBehaved)
    (holds : source.octets = (groups.map (·.flatMap Fragment.octets)).flatten) (count : Nat) :
    let results := (successiveReads (.integer limit) count source).map Outcome.result
    let outcomes := groups.flatMap (Fragment.outcomes limit)
    checkLimit (.integer limit) = .ok limit ∧
      results = outcomes.take count ++
        List.replicate (count - outcomes.length)
          (.error (.shortRead (.integer 0) (.integer Marker.size))) ∧
      values results <+: groups.filterMap (Fragment.surfaced limit) ∧
      ∀ group ∈ groups, (Fragment.surfaced limit group = some (Fragment.join group) ↔
        ∀ fragment ∈ group, fragment.oversized limit = false) := by
  intro results outcomes
  have each : ∀ fragment ∈ groups.flatten, fragment.Announceable := by
    intro fragment among
    obtain ⟨group, listed, part⟩ := List.mem_flatten.1 among
    exact announceable group listed fragment part
  have whole : source.octets = groups.flatten.flatMap Fragment.octets := by
    rw [holds, List.flatMap_def, List.map_flatten, List.flatten_flatten, List.map_map]
    simp [List.flatMap_def, Function.comp_def]
  have read := @results_successiveReads limit _ each _ behaved whole count
  rw [readings_flatten formed] at read
  refine ⟨if_pos enough, read, ?_, fun group among => ?_⟩
  · have values_eq : values results = values (outcomes.take count) := by
      rw [show results = _ from read, values_append, values_replicate_error, List.append_nil]
    rw [values_eq, ← values_flatMap_outcomes]
    exact (List.take_prefix count outcomes).filterMap _
  · exact surfaced_eq_join_iff (formed group among) (announceable group among)

/-- The middle one of three fragments is oversized: of this record the last one is read, and then
the next record, in full. -/
theorem skipping_surfaces_tails_of_two :
    let first : List Fragment := [⟨[1], false⟩, ⟨[2, 3, 4], false⟩, ⟨[5, 6], true⟩]
    let second : List Fragment := [⟨[7], false⟩, ⟨[8, 9], true⟩]
    let source : Source :=
      [.data [0, 0], .data [0, 1, 1, 0], .data [0, 0, 3, 2, 3], .data [4, 0x80, 0, 0, 2, 5, 6],
        .data [0, 0, 0, 1, 7, 0x80, 0, 0, 2, 8], .data [9]]
    source.WellBehaved ∧
      source.octets = ([first, second].map (·.flatMap Fragment.octets)).flatten ∧
      (successiveReads (.integer 3) 4 source).map Outcome.result =
        [.error (.fragmentTooLarge (.integer 3) (.integer 3) (.integer 3)), .ok [5, 6],
          .ok [7, 8, 9], .error (.shortRead (.integer 0) (.integer Marker.size))] := by
  intro first second source
  have behaved : source.WellBehaved := by simp [source, WellBehaved]
  have formed : ∀ group ∈ [first, second], Fragment.FormRecord group := by
    simp [first, second, Fragment.FormRecord]
  have announceable : ∀ group ∈ [first, second], ∀ fragment ∈ group, fragment.Announceable := by
    have checked : ∀ group ∈ [first, second], ∀ fragment ∈ group,
        1 ≤ fragment.payload.length ∧ fragment.payload.length ≤ Marker.maxLength := by
      decide
    exact fun group among fragment part =>
      ⟨(checked group among fragment part).1, (checked group among fragment part).2⟩
  have enough : (2 : Int) ≤ 3 := by decide
  have holds : source.octets = ([first, second].map (·.flatMap Fragment.octets)).flatten := by
    decide +kernel
  exact ⟨behaved, holds,
    (skipping_surfaces_tails enough formed announceable behaved holds 4).2.1⟩

/-- Of a record whose first fragment is oversized, the next read gives just the other one. -/
theorem tail_surfaces :
    ∃ frames, frame [1, 2, 3, 4] (.integer 3) = .ok frames ∧
      (successiveReads (.integer 3) 2 [.data frames]).map Outcome.result =
        [.error (.fragmentTooLarge (.integer 3) (.integer 3) (.integer 3)), .ok [4]] ∧
      [4] ∉ [([1, 2, 3, 4] : Octets)] :=
  ⟨[0, 0, 0, 3, 1, 2, 3, 0x80, 0, 0, 1, 4], by decide +kernel, by decide +kernel, by decide⟩

end Source

end RecordMarking
