import RecordMarking.Source

/-!
# What a source answers

The trace of a reading activity holds what was asked of the source, but not what the source
answered. `converse` lets a source answer requests one after another, so that both sides of a run
are known from its trace and the source that it began with.

`converse_pull` gives the answers to a pull: octets as long as any came, and then, unless nothing is
missing any more, the end of the source or its failure.
-/

namespace RecordMarking

namespace Source

/-- What a source answers to a request. No octets mean that it reports its end. -/
abbrev Answer := Except Fault Octets

/-- The answers of a source to requests one after another, and the source that is left. -/
def converse : List Nat → Source → List Answer × Source
  | [], source => ([], source)
  | count :: later, source =>
    ((source.read count).1 :: (converse later (source.read count).2).1,
      (converse later (source.read count).2).2)

/-- Later requests are answered by the source that the earlier ones left. -/
theorem converse_append (earlier later : List Nat) (source : Source) :
    source.converse (earlier ++ later) =
      ((source.converse earlier).1 ++ ((source.converse earlier).2.converse later).1,
        ((source.converse earlier).2.converse later).2) := by
  induction earlier generalizing source with
  | nil => rfl
  | cons count others inductionHypothesis =>
    simp only [List.cons_append, converse, inductionHypothesis]

/-- The requests among events. -/
def requests (trace : List Event) : List Nat :=
  trace.filterMap Event.requested?

@[simp] theorem requests_nil : requests [] = [] := rfl

@[simp] theorem requests_append (earlier later : List Event) :
    requests (earlier ++ later) = requests earlier ++ requests later :=
  List.filterMap_append

end Source

/-- The last answer of a pull that ended before nothing was missing. -/
def Ending.answers : Ending → List Source.Answer
  | .complete => []
  | .exhausted => [.ok []]
  | .failed fault => [.error fault]

namespace Source

/-- The answers that deliver octets in these parts. -/
def deliveries (parts : List Octets) : List Answer :=
  parts.map .ok

@[simp] theorem error_notMem_deliveries (fault : Fault) (parts : List Octets) :
    .error fault ∉ deliveries parts := by
  simp [deliveries]

/-- The answers to a pull deliver its octets, each at least one of them, and then end it. -/
theorem converse_pull (portion : Nat → Nat) (missing : Nat) (source : Source) :
    ∃ parts : List Octets,
      source.converse (requests (source.pull portion missing).trace) =
          (deliveries parts ++ (source.pull portion missing).ending.answers,
            (source.pull portion missing).rest) ∧
        parts.flatten = (source.pull portion missing).octets ∧ ∀ part ∈ parts, part ≠ [] := by
  fun_induction pull portion missing source with
  | case1 source => exact ⟨[], rfl, rfl, by simp⟩
  | case2 missing source _ fault rest read =>
    refine ⟨[], ?_, rfl, by simp⟩
    simp [requests, Event.requested?, converse, read, Ending.answers, deliveries]
  | case3 missing source _ rest read =>
    refine ⟨[], ?_, rfl, by simp⟩
    simp [requests, Event.requested?, converse, read, Ending.answers, deliveries]
  | case4 missing source _ octet more rest read later inductionHypothesis =>
    obtain ⟨parts, answered, octets, filled⟩ := inductionHypothesis
    refine ⟨(octet :: more) :: parts, ?_, by simp [later, octets], ?_⟩
    · have asked : requests (.request (portion missing) :: later.trace) =
          portion missing :: requests later.trace := rfl
      rw [asked, converse, read, answered]
      rfl
    · exact List.forall_mem_cons.2 ⟨by simp, filled⟩

/-- All that is observed of a pull are its requests. -/
theorem exists_request_of_mem_pull {portion : Nat → Nat} {missing : Nat} {source : Source}
    {event : Event} (among : event ∈ (source.pull portion missing).trace) :
    ∃ count, event = .request count := by
  fun_induction pull portion missing source with
  | case1 source => cases among
  | case2 | case3 => exact ⟨_, List.mem_singleton.1 among⟩
  | case4 missing source _ octet more rest read later inductionHypothesis =>
    cases among with
    | head => exact ⟨_, rfl⟩
    | tail _ behind => exact inductionHypothesis behind

/-- A pull that is not complete received less than was missing. -/
theorem length_octets_pull_lt {portion : Nat → Nat} {missing : Nat} {source : Source}
    (incomplete : (source.pull portion missing).ending ≠ .complete) :
    (source.pull portion missing).octets.length < missing := by
  fun_induction pull portion missing source with
  | case1 source => exact absurd rfl incomplete
  | case2 | case3 =>
    simp only [List.length_nil]
    omega
  | case4 missing source _ octet more rest read later inductionHypothesis =>
    have less := inductionHypothesis incomplete
    simp only [later, List.cons_append, List.length_cons, List.length_append] at less ⊢
    omega

end Source

end RecordMarking
