import RecordMarking.Proofs.Iteration
import RecordMarking.Proofs.Endpoint.Rejection

/-!
# Endpoints agree with readers

A reader asks for octets and an endpoint is handed them, but both come to what the grammar says.
`agrees_with_reader` puts them side by side: an endpoint delivers the records that a reader
yields from the same octets, refuses a marker exactly if the reader does, and is left with nothing
exactly if the reader ends cleanly.
-/

namespace RecordMarking

/-- A fault that a reader refuses a marker with. -/
def Fault.RefusesMarker : Fault → Prop
  | .zeroLengthFragment | .fragmentTooLarge .. | .fragmentUndrained .. => True
  | .raisedFrom fault _ => fault.RefusesMarker
  | _ => False

section Ending

variable {limit : Int}

theorem exists_fault_of_rejection? {front : Front} {rejection : Rejection}
    (refused : front.rejection? limit = some rejection) :
    ∃ fault, front.payload limit = .error fault ∧ fault.RefusesMarker := by
  cases front with
  | fragment | cutMarker | cutPayload => simp [Front.rejection?] at refused
  | zeroLength behind => exact ⟨_, rfl, trivial⟩
  | tooLarge length behind =>
    refine ⟨_, rfl, ?_⟩
    unfold drained
    split <;> trivial

theorem exists_shortRead_of_kept {front : Front} (blocked : front.isFragment = false)
    (kept : front.rejection? limit = none) :
    ∃ got expected, front.payload limit = .error (.shortRead got expected) := by
  cases front with
  | fragment => simp [Front.isFragment] at blocked
  | zeroLength | tooLarge => simp [Front.rejection?] at kept
  | cutMarker | cutPayload => exact ⟨_, _, rfl⟩

/-- Where a marker is refused, a reader fails with its refusal. -/
theorem endingAt_of_rejection? {begun rest : Octets} {rejection : Rejection}
    (refused : (front limit rest).rejection? limit = some rejection) :
    ∃ fault, Source.Iteration.endingAt limit begun rest = .error fault ∧
      fault.RefusesMarker := by
  have something : ¬ (begun = [] ∧ rest = []) := by
    rintro ⟨_, rfl⟩
    rw [front_of_short (by decide)] at refused
    simp [Front.rejection?] at refused
  obtain ⟨fault, fails, refusal⟩ := exists_fault_of_rejection? refused
  exact ⟨fault, by rw [Source.Iteration.endingAt, if_neg something, fails]; rfl, refusal⟩

/-- Where no marker is refused and no fragment stands, a reader ends cleanly if nothing is left,
and else is short of octets. -/
theorem endingAt_of_kept {begun rest : Octets}
    (blocked : (front limit rest).isFragment = false)
    (kept : (front limit rest).rejection? limit = none) :
    Assembler.waiting begun rest = .empty ∧
        Source.Iteration.endingAt limit begun rest = .ok () ∨
      Assembler.waiting begun rest ≠ .empty ∧
        ∃ got expected,
          Source.Iteration.endingAt limit begun rest = .error (.shortRead got expected) := by
  by_cases nothing : begun = [] ∧ rest = []
  · left
    refine ⟨?_, if_pos nothing⟩
    rw [nothing.1, nothing.2]
    exact Assembler.waiting_of_short [] (by decide)
  · right
    obtain ⟨got, expected, fails⟩ := exists_shortRead_of_kept blocked kept
    refine ⟨fun empty => nothing ⟨?_, ?_⟩, got, expected, ?_⟩
    · exact (Assembler.collected_waiting begun rest).symm.trans (congrArg Assembler.collected empty)
    · exact (Assembler.pending_waiting begun rest).symm.trans (congrArg Assembler.pending empty)
    · rw [Source.Iteration.endingAt, if_neg nothing, fails]
      rfl

end Ending

/-- What a reader yields of octets, and how it ends, agrees with what an assembler comes to that is
handed all of them. -/
structure Agrees (limit : Int) (octets : Octets) (iteration : Source.Iteration) : Prop where
  records_eq : Finding.records ((Assembler.empty.receive octets).settle limit).1 =
    iteration.records
  refused : ∀ reason, (Assembler.empty.receive octets).refusal? limit = some reason →
    ∃ fault, iteration.ending = .error fault ∧ fault.RefusesMarker
  kept : (Assembler.empty.receive octets).refusal? limit = none →
    ((Assembler.empty.receive octets).settle limit).2 = .empty ∧ iteration.ending = .ok () ∨
      ((Assembler.empty.receive octets).settle limit).2 ≠ .empty ∧
        ∃ got expected, iteration.ending = .error (.shortRead got expected)

/-- An assembler agrees with a reader of a well-behaved source. -/
theorem agrees_of_wellBehaved (limit : Int) {source : Source} (behaved : source.WellBehaved) :
    Agrees limit source.octets (Source.iterate (.integer limit) source) := by
  obtain ⟨records, ending, -, -⟩ := Source.iterate_of_wellBehaved limit behaved
  constructor
  · rw [Assembler.records_settle]
    exact records.symm
  · intro reason refused
    rw [ending]
    exact endingAt_of_rejection? refused
  · intro kept
    rw [ending, Assembler.settle_of_no_refusal kept]
    exact endingAt_of_kept (blocked_split limit source.octets) kept

namespace Endpoint

/-- Up to the first rejection an endpoint delivers the records that a reader yields from the same
octets. It rejects exactly if the reader refuses a marker, and then closes just once for it, in a
call that leaves it with nothing. Without a rejection it is left with nothing exactly if the
reader ends cleanly, and else the reader is short of octets. -/
theorem agrees_with_reader {limit : Int} {endpoint : Endpoint} {transport : Transport}
    (receptive : endpoint.Receptive limit) (collects : endpoint.Collects)
    (fresh : endpoint.assembler = .empty) (connected : endpoint.transport = some transport)
    (accepted : ∀ verdict ∈ transport.closes, verdict = none) {slices : List Octets}
    {source : Source} (behaved : source.WellBehaved) (alike : slices.flatten = source.octets) :
    let service := serve (slices.map .receive) endpoint
    let iteration := Source.iterate (.integer limit) source
    let rejects := Finding.reasons (endpoint.findings slices) ≠ []
    (∀ result ∈ service.results, result = .ok ()) ∧
      Finding.records (Finding.upToRejection (endpoint.findings slices)) = iteration.records ∧
      (rejects ↔ ∃ fault, iteration.ending = .error fault ∧ fault.RefusesMarker) ∧
      (rejects → ∃ earlier slice later reason, slices = earlier ++ slice :: later ∧
        Finding.reasons (endpoint.findings earlier) = [] ∧
        endpoint.Rejects (endpoint.callBehind earlier slice) reason ∧
        ((serve (earlier.map .receive) endpoint).trace ++
          (endpoint.callBehind earlier slice).trace).filterMap Event.closed? =
            [transport.number]) ∧
      (¬ rejects →
        (service.endpoint.assembler = .empty ∧ iteration.ending = .ok ()) ∨
          (service.endpoint.assembler ≠ .empty ∧
            ∃ got expected, iteration.ending = .error (.shortRead got expected))) := by
  intro service iteration rejects
  have settled := Assembler.settle_empty limit
  have wellFormed : endpoint.assembler.WellFormed limit :=
    Assembler.wellFormed_of_eq_empty fresh
  have accepts : endpoint.ClosesAccepted := by
    intro other present
    obtain rfl := Option.some.inj (connected.symm.trans present)
    exact accepted
  have agrees : Agrees limit slices.flatten iteration := alike ▸ agrees_of_wellBehaved limit behaved
  obtain ⟨⟨records, writes, closes, left⟩, -, succeeds, -⟩ :=
    receives_serve receptive wellFormed slices
  rw [fresh] at left
  have found := findings_of_fresh receptive fresh slices
  have together := Assembler.toList_refusal?_flatten settled slices
  rw [← found] at together
  refine ⟨succeeds (.inr accepts), ?_, ?_⟩
  · rw [found, Assembler.upToRejection_settleAll settled]
    exact agrees.records_eq
  match refused : (Assembler.empty.receive slices.flatten).refusal? limit with
  | some reason =>
    rw [refused] at together
    have rejected : rejects := fun none => by simp [none] at together
    refine ⟨iff_of_true rejected (agrees.refused reason refused), fun _ => ?_,
      fun not => absurd rejected not⟩
    obtain ⟨earlier, slice, later, parts, first⟩ :=
      exists_first_rejection receptive collects fresh connected refused
    exact ⟨earlier, slice, later, reason, parts, first⟩
  | none =>
    rw [refused] at together
    have kept : ¬ rejects := fun rejected => rejected (by simpa using together.symm)
    have ends := agrees.kept refused
    rw [← Assembler.settleAll_of_no_refusal settled refused] at ends
    refine ⟨iff_of_false kept ?_, fun rejected => absurd rejected kept, fun _ => ?_⟩
    · rintro ⟨fault, fails, refusal⟩
      rcases ends with ⟨_, clean⟩ | ⟨_, got, expected, short⟩
      · exact absurd (fails.symm.trans clean) (by simp)
      · obtain rfl := Except.error.inj (fails.symm.trans short)
        exact refusal
    · rw [show service.endpoint = _ from left]
      exact ends

/-- Octets that an endpoint gets in three slices and a reader in two: a record, and a fragment
that is too large. -/
theorem agrees_with_reader_on_tooLarge :
    let created : Endpoint :=
      ⟨1, true, .integer 4, .empty, .unconnected, none, 0, ⟨some [], none, none⟩⟩
    let endpoint :=
      ((perform [.connect ⟨.absent, .absent, ⟨[0, 0, 0, 0, 0], rfl⟩, [], []⟩]).run created).state
    let slices : List Octets := [[0x80], [0, 0, 1, 0x41, 0x80, 0, 0, 9], [0x42]]
    let source : Source := [.data [0x80, 0, 0, 1, 0x41, 0x80], .data [0, 0, 9, 0x42]]
    let iteration := Source.iterate (.integer 4) source
    source.WellBehaved ∧ slices.flatten = source.octets ∧
      Finding.reasons (endpoint.findings slices) ≠ [] ∧
      Finding.records (Finding.upToRejection (endpoint.findings slices)) = iteration.records ∧
      ∃ fault, iteration.ending = .error fault ∧ fault.RefusesMarker := by
  intro created endpoint slices source iteration
  obtain ⟨receptive, empty, writes, closes, connected⟩ :
      endpoint.Receptive 4 ∧ endpoint.assembler = .empty ∧ _ :=
    receptive_of_connect rfl rfl ⟨[], rfl, by simp⟩ (by simp) (by simp [created])
  have collects : endpoint.Collects := by
    have listens : endpoint.handlers.onRecord = some [] := by decide +kernel
    rintro calls present
    obtain rfl := Option.some.inj (listens.symm.trans present)
    simp
  have behaved : source.WellBehaved := by simp [source, Source.WellBehaved]
  have alike : slices.flatten = source.octets := rfl
  have rejected : Finding.reasons (endpoint.findings slices) ≠ [] := by decide +kernel
  obtain ⟨_, records, refused, _⟩ :=
    agrees_with_reader receptive collects empty connected (by simp) behaved alike
  exact ⟨behaved, alike, rejected, records, refused.1 rejected⟩

end Endpoint

end RecordMarking
