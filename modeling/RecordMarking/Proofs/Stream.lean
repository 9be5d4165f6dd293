import RecordMarking.Source

/-!
# Well-behaved sources

A well-behaved source delivers between one octet and as many as it is asked for, and reports its
end only when nothing is left. As a list of segments it is one that holds data, and no empty
segment: every way to cut the octets into reads is such a list, with a segment for each read.

`pull_octets` says that a pull takes what is missing off the front of the octets, wherever they
are cut. `Leaves` is how the same is said of every reading activity: its result, and the octets
that it leaves on a source that is again well-behaved.
-/

namespace RecordMarking.Source

/-- The source only delivers: neither does it fail, nor end early, nor deliver more than it is
asked for. -/
def WellBehaved (source : Source) : Prop :=
  ∀ segment ∈ source, ∃ octets : Octets, octets ≠ [] ∧ segment = .data octets

theorem wellBehaved_nil : WellBehaved [] := by
  intro segment among
  simp at among

@[simp] theorem octets_nil : octets [] = [] := rfl

@[simp] theorem octets_cons (segment : Segment) (rest : Source) :
    octets (segment :: rest) = segment.octets ++ octets rest := rfl

theorem wellBehaved_cons_data {delivered : Octets} {rest : Source} :
    WellBehaved (.data delivered :: rest) ↔ delivered ≠ [] ∧ rest.WellBehaved := by
  simp [WellBehaved]

/-- A well-behaved source holds nothing exactly when it has nothing more to do. -/
theorem eq_nil_of_octets_eq_nil {source : Source} (behaved : source.WellBehaved)
    (nothing : source.octets = []) : source = [] := by
  match source with
  | [] => rfl
  | segment :: rest =>
    obtain ⟨delivered, nonempty, rfl⟩ := behaved segment (by simp)
    exact absurd (List.append_eq_nil_iff.1 nothing).1 nonempty

/-- One read of a source that holds something delivers a leading part of it. -/
theorem read_wellBehaved {source : Source} (behaved : source.WellBehaved) {count : Nat}
    (positive : 1 ≤ count) (something : source.octets ≠ []) :
    ∃ octet more rest, source.read count = (.ok (octet :: more), rest) ∧ rest.WellBehaved ∧
      (octet :: more).length ≤ count ∧ source.octets = octet :: more ++ rest.octets := by
  match source with
  | [] => exact absurd rfl something
  | segment :: rest =>
    obtain ⟨delivered, nonempty, rfl⟩ := behaved segment (by simp)
    obtain ⟨_, restBehaved⟩ := wellBehaved_cons_data.1 behaved
    obtain ⟨octet, more, rfl⟩ := List.exists_cons_of_ne_nil nonempty
    by_cases fits : ((octet :: more).drop count).isEmpty
    · refine ⟨octet, more, rest, by rw [read, if_pos fits], restBehaved, ?_, rfl⟩
      simpa using fits
    · obtain ⟨less, rfl⟩ : ∃ less, count = less + 1 := ⟨count - 1, by omega⟩
      refine ⟨octet, more.take less, .data (more.drop less) :: rest, ?_, ?_, ?_, ?_⟩
      · rw [read, if_neg fits]
        rfl
      · exact wellBehaved_cons_data.2 ⟨by simpa using fits, restBehaved⟩
      · rw [List.length_cons, List.length_take]
        omega
      · simp [Segment.octets, ← List.append_assoc]

/-- Only at its end does a well-behaved source deliver nothing. -/
theorem eq_nil_of_read {source rest : Source} (behaved : source.WellBehaved) {count : Nat}
    (positive : 1 ≤ count) {result : Except Fault Octets}
    (read : source.read count = (result, rest))
    (nothing : ∀ octet more, result ≠ .ok (octet :: more)) : source = [] := by
  by_cases something : source.octets = []
  · exact eq_nil_of_octets_eq_nil behaved something
  · obtain ⟨octet, more, _, delivers, _⟩ := read_wellBehaved behaved positive something
    exact absurd (congrArg Prod.fst (read.symm.trans delivers)) (nothing octet more)

/-- A portion of what is missing is part of it, and not nothing. -/
def IsPortion (portion : Nat → Nat) : Prop :=
  ∀ missing, 1 ≤ missing → 1 ≤ portion missing ∧ portion missing ≤ missing

theorem isPortion_id : IsPortion id := fun _ positive => ⟨positive, Nat.le_refl _⟩

/-- A pull takes what is missing off the front, and is complete if so much is there. -/
theorem pull_octets {portion : Nat → Nat} (portioned : IsPortion portion) (missing : Nat)
    {source : Source} (behaved : source.WellBehaved) :
    (source.pull portion missing).octets = source.octets.take missing ∧
      (source.pull portion missing).rest.octets = source.octets.drop missing ∧
      (source.pull portion missing).rest.WellBehaved ∧
      (source.pull portion missing).ending =
        if missing ≤ source.octets.length then .complete else .exhausted := by
  fun_induction pull portion missing source with
  | case1 source => simpa using behaved
  | case2 missing source wanted fault rest read =>
    have positive := (portioned missing (by omega)).1
    obtain rfl := eq_nil_of_read behaved positive read (by simp)
    simp [Source.read] at read
  | case3 missing source wanted rest read =>
    have positive := (portioned missing (by omega)).1
    obtain rfl := eq_nil_of_read behaved positive read (by simp)
    obtain rfl : rest = [] := by simpa [Source.read, eq_comm] using read
    simp [wanted, wellBehaved_nil]
  | case4 missing source wanted octet more rest read later inductionHypothesis =>
    have bounds := portioned missing (by omega)
    have something : source.octets ≠ [] := by
      intro nothing
      obtain rfl := eq_nil_of_octets_eq_nil behaved nothing
      simp [Source.read] at read
    obtain ⟨octet', more', rest', delivers, restBehaved, short, same⟩ :=
      read_wellBehaved behaved bounds.1 something
    rw [delivers] at read
    simp only [Prod.mk.injEq, Except.ok.injEq, List.cons.injEq] at read
    obtain ⟨⟨rfl, rfl⟩, rfl⟩ := read
    obtain ⟨taken, left, leftBehaved, ending⟩ := inductionHypothesis restBehaved
    have exact : missing = (octet' :: more').length + (missing - (more'.length + 1)) := by
      simp only [List.length_cons] at short ⊢
      omega
    refine ⟨?_, ?_, leftBehaved, ?_⟩
    · simp only [later, taken, same]
      conv => rhs; rw [exact, List.take_length_add_append]
    · simp only [later, left, same]
      conv => rhs; rw [exact, List.drop_length_add_append]
    · simp only [later, ending, same, List.length_append, List.length_cons]
      congr 1
      simp only [eq_iff_iff]
      omega

/-- A reading activity ended in this result, and it left these octets on a well-behaved
source. -/
structure Leaves {Result : Type} (outcome : Outcome Source Result)
    (result : Except Fault Result) (rest : Octets) : Prop where
  result_eq : outcome.result = result
  octets_eq : outcome.state.octets = rest
  wellBehaved : outcome.state.WellBehaved

namespace Leaves

variable {Result Next : Type} {rest : Octets}

theorem after {outcome : Outcome Source Result} {result : Except Fault Result}
    (leaves : Leaves outcome result rest) (trace : List Event) :
    Leaves (outcome.after trace) result rest :=
  ⟨leaves.result_eq, leaves.octets_eq, leaves.wellBehaved⟩

/-- What is already known takes nothing from the source. -/
theorem conclude {source : Source} (behaved : source.WellBehaved)
    (result : Except Fault Result) :
    Leaves ((Activity.conclude result).run source) result source.octets :=
  ⟨rfl, rfl, behaved⟩

/-- An activity goes on with the octets that the one before it left. -/
theorem bind {source : Source} {first : Activity Source Result}
    {second : Result → Activity Source Next} {value : Result} {middle : Octets}
    {result : Except Fault Next} (begun : Leaves (first.run source) (.ok value) middle)
    (continued : ∀ between : Source, between.WellBehaved → between.octets = middle →
      Leaves ((second value).run between) result rest) :
    Leaves ((first >>= second).run source) result rest := by
  match ran : first.run source with
  | ⟨ended, trace, between⟩ =>
    rw [ran] at begun
    obtain rfl : ended = .ok value := begun.result_eq
    rw [Activity.run_bind_ok ran]
    exact (continued between begun.wellBehaved begun.octets_eq).after trace

/-- Nothing goes on after a fault. -/
theorem bind_error {source : Source} {first : Activity Source Result}
    {second : Result → Activity Source Next} {fault : Fault}
    (begun : Leaves (first.run source) (.error fault) rest) :
    Leaves ((first >>= second).run source) (.error fault) rest := by
  match ran : first.run source with
  | ⟨ended, trace, between⟩ =>
    rw [ran] at begun
    obtain rfl : ended = .error fault := begun.result_eq
    rw [Activity.run_bind_error ran]
    exact ⟨rfl, begun.octets_eq, begun.wellBehaved⟩

end Leaves

end RecordMarking.Source
