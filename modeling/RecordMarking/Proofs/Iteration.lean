import RecordMarking.Proofs.Reading

/-!
# Iterating over records

An iterator yields records until it ends or fails. `iterate` lists what it yields and says how
it ends; `readAll_eq_iterate` ties it to reading everything at once. On a well-behaved source
`iterate_of_wellBehaved` says all of it in the grammar: the records are those that the accepted
fragments complete, and the iteration ends cleanly exactly if nothing at all is left.
-/

namespace RecordMarking.Source

section NextRecord

variable {limit : Value} {source rest : Source} {trace : List Event}

/-- A source that ends before the first octet of a record ends the iteration. -/
theorem run_nextRecord_of_ended {fault : Fault}
    (ended : readMarker.run source = ⟨.error fault, trace, rest⟩)
    (atOnce : fault.atOnceEnded = true) :
    (nextRecord limit).run source = ⟨.ok none, trace ++ [.notice .streamEnded], rest⟩ := by
  simp only [nextRecord, ended, atOnce, if_true]

/-- A record that can be read is the next one. -/
theorem run_nextRecord_of_ok {record : Octets}
    (read : (readRecord limit).run source = ⟨.ok record, trace, rest⟩) :
    (nextRecord limit).run source = ⟨.ok (some record), trace, rest⟩ := by
  obtain ⟨marker, requests, between, later, announced, assembled, rfl⟩ :=
    Activity.exists_of_run_bind_ok read
  simp only [nextRecord, announced, assembled]

/-- A fault of reading is the fault of the iteration, unless the source ended at once. -/
theorem run_nextRecord_of_error {fault : Fault}
    (read : (readRecord limit).run source = ⟨.error fault, trace, rest⟩)
    (notAtOnce : ∀ first requests between,
      readMarker.run source = ⟨.error first, requests, between⟩ → first.atOnceEnded = false) :
    (nextRecord limit).run source = ⟨.error fault.insideIterator, trace, rest⟩ := by
  cases ran : readMarker.run source with
  | mk result requests between =>
    cases result with
    | error first =>
      rw [readRecord, Activity.run_bind_error ran] at read
      obtain ⟨rfl, rfl, rfl⟩ : first = fault ∧ requests = trace ∧ between = rest := by
        simpa using read
      simp [nextRecord, ran, notAtOnce first requests between ran]
    | ok marker =>
      rw [readRecord, Activity.run_bind_ok ran] at read
      cases assembled : (assemble limit marker []).run between with
      | mk ended later last =>
        rw [assembled] at read
        obtain ⟨rfl, rfl, rfl⟩ :
            ended = .error fault ∧ requests ++ later = trace ∧ last = rest := by
          simpa [Outcome.after] using read
        simp only [nextRecord, ran, assembled]

theorem readAll_of_error {fault : Fault}
    (step : (nextRecord limit).run source = ⟨.error fault, trace, rest⟩) :
    readAll limit source = ⟨.error fault, trace, rest⟩ := by
  rw [readAll]
  split <;> simp_all

theorem readAll_of_end (step : (nextRecord limit).run source = ⟨.ok none, trace, rest⟩) :
    readAll limit source = ⟨.ok [], trace, rest⟩ := by
  rw [readAll]
  split <;> simp_all

theorem readAll_of_record {record : Octets}
    (step : (nextRecord limit).run source = ⟨.ok (some record), trace, rest⟩) :
    readAll limit source =
      ⟨(readAll limit rest).result.map (record :: ·), trace ++ (readAll limit rest).trace,
        (readAll limit rest).state⟩ := by
  rw [readAll]
  split
  · simp_all
  · simp_all
  · rename_i other requests between same
    rw [step] at same
    cases same
    obtain ⟨result, later, last⟩ := readAll limit rest
    cases result with
    | ok records => rfl
    | error fault => rfl

end NextRecord

variable {source : Source} {limit : Int}

theorem leaves_nextRecord_nil {limit : Value} :
    Leaves ((nextRecord limit).run []) (.ok none) [] := by
  have marker := leaves_readMarker_short wellBehaved_nil (by decide)
  match ran : readMarker.run [] with
  | ⟨result, trace, rest⟩ =>
    rw [ran] at marker
    obtain ⟨rfl, left, restBehaved⟩ := marker
    rw [run_nextRecord_of_ended ran rfl]
    exact ⟨rfl, left, restBehaved⟩

theorem leaves_nextRecord {limit : Value} {record rest : Octets}
    (read : Leaves ((readRecord limit).run source) (.ok record) rest) :
    Leaves ((nextRecord limit).run source) (.ok (some record)) rest := by
  match ran : (readRecord limit).run source with
  | ⟨result, trace, last⟩ =>
    rw [ran] at read
    obtain ⟨rfl, left, lastBehaved⟩ := read
    rw [run_nextRecord_of_ok ran]
    exact ⟨rfl, left, lastBehaved⟩

/-- Where a source holds octets, a fault of reading is never taken for the end. -/
theorem leaves_nextRecord_error (behaved : source.WellBehaved) (something : source.octets ≠ [])
    {fault : Fault} {rest : Octets}
    (read : Leaves ((readRecord (.integer limit)).run source) (.error fault) rest) :
    Leaves ((nextRecord (.integer limit)).run source) (.error fault.insideIterator) rest := by
  have notAtOnce : ∀ first requests between,
      readMarker.run source = ⟨.error first, requests, between⟩ → first.atOnceEnded = false := by
    intro first requests between ran
    rcases short_or_exists_marker source.octets with short | ⟨marker, behind, fits, stands⟩
    · have marker := leaves_readMarker_short behaved short
      rw [ran] at marker
      obtain rfl : first = _ := Except.error.inj marker.result_eq
      simpa [Fault.atOnceEnded] using something
    · have announced := leaves_readMarker behaved fits stands
      rw [ran] at announced
      exact absurd announced.result_eq (by simp)
  match ran : (readRecord (.integer limit)).run source with
  | ⟨result, trace, last⟩ =>
    rw [ran] at read
    obtain ⟨rfl, left, lastBehaved⟩ := read
    rw [run_nextRecord_of_error ran notAtOnce]
    exact ⟨rfl, left, lastBehaved⟩

/-- What an iterator yielded, how it ended, and the source it left. -/
structure Iteration where
  records : List Octets
  ending : Except Fault Unit
  rest : Source

/-- Step an iterator until it ends or fails. -/
def iterate (limit : Value) (source : Source) : Iteration :=
  match _read : (nextRecord limit).run source with
  | ⟨.error fault, _, rest⟩ => ⟨[], .error fault, rest⟩
  | ⟨.ok none, _, rest⟩ => ⟨[], .ok (), rest⟩
  | ⟨.ok (some record), _, rest⟩ =>
    { iterate limit rest with records := record :: (iterate limit rest).records }
termination_by source.unread
decreasing_by all_goals exact unread_nextRecord_lt _read

section Iterate

variable {limit : Value} {source rest : Source} {trace : List Event}

theorem iterate_of_error {fault : Fault}
    (read : (nextRecord limit).run source = ⟨.error fault, trace, rest⟩) :
    iterate limit source = ⟨[], .error fault, rest⟩ := by
  rw [iterate]
  split <;> simp_all

theorem iterate_of_end (read : (nextRecord limit).run source = ⟨.ok none, trace, rest⟩) :
    iterate limit source = ⟨[], .ok (), rest⟩ := by
  rw [iterate]
  split <;> simp_all

theorem iterate_of_record {record : Octets}
    (read : (nextRecord limit).run source = ⟨.ok (some record), trace, rest⟩) :
    iterate limit source =
      { iterate limit rest with records := record :: (iterate limit rest).records } := by
  rw [iterate]
  split <;> simp_all

/-- Reading everything at once gives what iterating yields, unless it fails. -/
theorem readAll_eq_iterate (limit : Value) (source : Source) :
    (readAll limit source).result =
        (iterate limit source).ending.map (fun _ => (iterate limit source).records) ∧
      (readAll limit source).state = (iterate limit source).rest := by
  fun_induction readAll limit source with
  | case1 source fault trace rest read => simp [iterate_of_error read, Except.map]
  | case2 source trace rest read => simp [iterate_of_end read, Except.map]
  | case3 source record trace rest read fault later last all inductionHypothesis =>
    rw [iterate_of_record read]
    rw [all] at inductionHypothesis
    match ended : (iterate limit rest).ending with
    | .ok () => simp [ended, Except.map] at inductionHypothesis
    | .error other =>
      rw [ended] at inductionHypothesis
      exact inductionHypothesis
  | case4 source record trace rest read records later last all inductionHypothesis =>
    rw [iterate_of_record read]
    rw [all] at inductionHypothesis
    match ended : (iterate limit rest).ending with
    | .error fault => simp [ended, Except.map] at inductionHypothesis
    | .ok () =>
      rw [ended] at inductionHypothesis
      obtain ⟨same, left⟩ := inductionHypothesis
      simp only [Except.map, Except.ok.injEq] at same
      exact ⟨by simp [Except.map, same], left⟩

end Iterate

/-- The faults of reading a well-behaved source are not changed by an iterator. -/
theorem insideIterator_of_payload {front : Front} {fault : Fault}
    (fails : front.payload limit = .error fault) : fault.insideIterator = fault := by
  cases front with
  | fragment => simp [Front.payload] at fails
  | cutMarker | zeroLength | cutPayload =>
    simp only [Front.payload, Except.error.injEq] at fails
    rw [← fails]
    rfl
  | tooLarge length behind =>
    simp only [Front.payload, drained, Except.error.injEq] at fails
    rw [← fails]
    split <;> rfl

/-- Accepted fragments that carry nothing are no fragments. -/
theorem eq_nil_of_join_eq_nil {fragments : List Fragment}
    (accepted : ∀ fragment ∈ fragments, fragment.Accepted limit)
    (nothing : Fragment.join fragments = []) : fragments = [] := by
  match fragments with
  | [] => rfl
  | fragment :: later =>
    have nonempty := (accepted fragment (by simp)).nonempty
    have empty : fragment.payload = [] := (List.append_eq_nil_iff.1 nothing).1
    simp [empty] at nonempty

/-- How a reader ends that has read all accepted fragments: cleanly if nothing at all is left,
and else with the fault of what stands there. -/
def Iteration.endingAt (limit : Int) (begun rest : Octets) : Except Fault Unit :=
  if begun = [] ∧ rest = [] then .ok () else ((front limit rest).payload limit).map fun _ => ()

/-- On a well-behaved source, iterating yields the records that the accepted fragments
complete. -/
theorem iterate_of_wellBehaved (limit : Int) (behaved : source.WellBehaved) :
    (iterate (.integer limit) source).records =
        (regroup [] (split limit source.octets).1).1 ∧
      (iterate (.integer limit) source).ending =
        Iteration.endingAt limit (regroup [] (split limit source.octets).1).2
          (split limit source.octets).2 ∧
      (iterate (.integer limit) source).rest.octets =
        (front limit (split limit source.octets).2).unread ∧
      (iterate (.integer limit) source).rest.WellBehaved := by
  induction length : source.octets.length using Nat.strongRecOn generalizing source with
  | ind size inductionHypothesis =>
    by_cases something : source.octets = []
    · obtain rfl := eq_nil_of_octets_eq_nil behaved something
      have read := @leaves_nextRecord_nil (.integer limit)
      match ran : (nextRecord (.integer limit)).run [] with
      | ⟨result, trace, rest⟩ =>
        rw [ran] at read
        obtain ⟨rfl, left, restBehaved⟩ := read
        rw [iterate_of_end ran, octets_nil, split_of_blocked rfl]
        exact ⟨rfl, rfl, left, restBehaved⟩
    · rcases formRecord_or_unfinished_opening limit source.octets with
        formed | ⟨unfinished, blocked⟩
      · have read := leaves_nextRecord (leaves_readOn limit behaved [] formed)
        match ran : (nextRecord (.integer limit)).run source with
        | ⟨result, trace, rest⟩ =>
          rw [ran] at read
          obtain ⟨rfl, left, restBehaved⟩ := read
          have less : rest.octets.length < size := length ▸ unread_nextRecord_lt ran
          have later := inductionHypothesis _ less restBehaved rfl
          have same : (split limit source.octets).2 =
              (split limit (opening limit source.octets).2).2 := by
            rw [split_opening limit source.octets]
          rw [show rest.octets = _ from left] at later
          rw [iterate_of_record ran, regroup_split_of_formRecord formed, same]
          simpa using later
      · obtain ⟨fault, fails⟩ := Front.exists_fault_of_blocked limit blocked
        have read := leaves_nextRecord_error behaved something
          (leaves_readOn_opening_error behaved [] unfinished fails)
        match ran : (nextRecord (.integer limit)).run source with
        | ⟨result, trace, rest⟩ =>
          rw [ran] at read
          obtain ⟨rfl, left, restBehaved⟩ := read
          rw [iterate_of_error ran, split_of_unfinished blocked, regroup_of_unfinished unfinished,
            insideIterator_of_payload fails]
          have notClean : ¬ ([] ++ Fragment.join (opening limit source.octets).1 = [] ∧
              (opening limit source.octets).2 = []) := by
            rintro ⟨nothing, empty⟩
            have accepted : ∀ fragment ∈ (opening limit source.octets).1,
                fragment.Accepted limit := by
              rw [← split_of_unfinished blocked]
              exact fun fragment among => accepted_of_mem_split among
            have none := eq_nil_of_join_eq_nil accepted nothing
            have whole := flatMap_octets_split limit source.octets
            rw [split_of_unfinished blocked, none, empty] at whole
            exact something whole.symm
          refine ⟨rfl, ?_, left, restBehaved⟩
          rw [Iteration.endingAt, if_neg notClean, fails]
          rfl

end RecordMarking.Source
