import RecordMarking.Proofs.Endpoint.Reception

/-!
# What a rejection changes

A refused marker ends the call in which it is found, and leaves an endpoint that has forgotten
all octets, the rejection included. `rejection_ends_call` says so, and that up to the first
rejection it makes no difference how octets are sliced. What comes behind it does depend on the
slices: `record_behind_rejection` is a record that arrives behind a rejection in a call of its
own and is delivered, while it is dropped when it arrives together with the refused marker.
-/

namespace RecordMarking.Endpoint

/-- What is found in octets that arrive in slices. -/
def findings (slices : List Octets) (endpoint : Endpoint) : List Finding :=
  (serve (slices.map .receive) endpoint).trace.filterMap Event.finding?

/-- The call that brings a slice after earlier ones. -/
def callBehind (earlier : List Octets) (slice : Octets) (endpoint : Endpoint) :
    Outcome Endpoint Unit :=
  (perform [.receive slice]).run (serve (earlier.map .receive) endpoint).endpoint

section Findings

variable {limit : Int} {endpoint : Endpoint}

theorem findings_of_fresh (receptive : endpoint.Receptive limit)
    (fresh : endpoint.assembler = .empty) (slices : List Octets) :
    endpoint.findings slices = (Assembler.empty.settleAll limit slices).1 := by
  have wellFormed : endpoint.assembler.WellFormed limit :=
    Assembler.wellFormed_of_eq_empty fresh
  rw [findings, (receives_serve receptive wellFormed slices).findings_eq, fresh]

/-- A call finds in its slice, behind earlier ones, what the assembler comes to. -/
theorem parses_callBehind (receptive : endpoint.Receptive limit)
    (wellFormed : endpoint.assembler.WellFormed limit) (earlier : List Octets) (slice : Octets) :
    Parses limit ((endpoint.assembler.settleAll limit earlier).2.receive slice) endpoint
      (endpoint.callBehind earlier slice) := by
  obtain ⟨records, writes, closes, left⟩ :=
    (receives_serve receptive wellFormed earlier).endpoint_eq
  rw [callBehind, left]
  exact (parses_perform_receive (receptive_progressed records writes closes _ receptive)
    (Assembler.wellFormed_settleAll wellFormed earlier) slice).of_progressed

/-- Every rejection is the last thing that comes of its call, and the endpoint has forgotten all
octets then. -/
structure Rejects (endpoint : Endpoint) (call : Outcome Endpoint Unit) (reason : Rejection) :
    Prop where
  lastly : ∃ before, call.trace = before ++ endpoint.refusalEvents reason ∧
    Finding.reasons (before.filterMap Event.finding?) = []
  forgets : call.state.assembler = .empty

theorem Parses.rejects {assembler : Assembler} {call : Outcome Endpoint Unit} {reason : Rejection}
    (parses : Parses limit assembler endpoint call)
    (refused : assembler.refusal? limit = some reason) : endpoint.Rejects call reason := by
  have reasons : Finding.reasons (assembler.settle limit).1 = [reason] := by
    rw [Assembler.reasons_settle, refused]
    rfl
  obtain ⟨⟨records, writes, closes, left⟩, found, refuses, _, _⟩ := parses
  obtain ⟨before, ends⟩ := refuses reason (by simp [reasons])
  refine ⟨⟨before, ends, ?_⟩, ?_⟩
  · rw [← found, ends, List.filterMap_append, finding?_refusalEvents, reasons_append] at reasons
    exact List.append_left_eq_self.1 reasons
  · rw [left, assembler_progressed, Assembler.settle_of_refusal refused]

/-- If a marker is refused, then one call rejects it for the first time, and on an endpoint that
only collects records the transport is told to close just once by then. -/
theorem exists_first_rejection {transport : Transport} (receptive : endpoint.Receptive limit)
    (collects : endpoint.Collects) (fresh : endpoint.assembler = .empty)
    (connected : endpoint.transport = some transport) {slices : List Octets} {reason : Rejection}
    (refused : (Assembler.empty.receive slices.flatten).refusal? limit = some reason) :
    ∃ earlier slice later, slices = earlier ++ slice :: later ∧
      Finding.reasons (endpoint.findings earlier) = [] ∧
      endpoint.Rejects (endpoint.callBehind earlier slice) reason ∧
      ((serve (earlier.map .receive) endpoint).trace ++
        (endpoint.callBehind earlier slice).trace).filterMap Event.closed? =
          [transport.number] := by
  have settled := Assembler.settle_empty limit
  have wellFormed : endpoint.assembler.WellFormed limit :=
    Assembler.wellFormed_of_eq_empty fresh
  obtain ⟨earlier, slice, later, rfl, kept, found⟩ :=
    Assembler.exists_refused_slice settled refused
  have none : Finding.reasons (endpoint.findings earlier) = [] := by
    rw [findings_of_fresh receptive fresh, Assembler.settleAll_of_no_refusal settled kept,
      Assembler.reasons_settle, kept]
    rfl
  rw [← Assembler.settleAll_of_no_refusal settled kept] at found
  have before := receives_serve receptive wellFormed earlier
  have call := parses_callBehind receptive wellFormed earlier slice
  rw [fresh] at call
  refine ⟨earlier, slice, later, rfl, none, call.rejects found, ?_⟩
  have opened := before.closes_eq collects
  rw [← before.findings_eq, ← findings, none] at opened
  rw [List.filterMap_append, opened, call.closes_eq collects, Assembler.reasons_settle, found,
    connected]
  rfl

end Findings

/-- Up to the first rejection it makes no difference how octets are sliced. A rejection is the
last thing that comes of its call, and later calls find what they would find if they were the
first. -/
theorem rejection_ends_call {limit : Int} {endpoint : Endpoint}
    (receptive : endpoint.Receptive limit) (fresh : endpoint.assembler = .empty)
    (slices : List Octets) :
    (∀ others : List Octets, others.flatten = slices.flatten →
      Finding.upToRejection (endpoint.findings others) =
          Finding.upToRejection (endpoint.findings slices) ∧
        (Finding.reasons (endpoint.findings slices) = [] →
          endpoint.findings others = endpoint.findings slices)) ∧
      ∀ earlier slice later, slices = earlier ++ slice :: later →
        let call := endpoint.callBehind earlier slice
        ∀ reason, .rejection reason ∈ call.trace.filterMap Event.finding? →
          endpoint.Rejects call reason ∧ call.state.findings later = endpoint.findings later := by
  have settled : Assembler.empty.settle limit = ([], .empty) := Assembler.settle_empty limit
  constructor
  · intro others alike
    simp only [findings_of_fresh receptive fresh, Assembler.upToRejection_settleAll settled, alike,
      true_and]
    intro none
    have kept := Assembler.toList_refusal?_flatten settled slices
    rw [none, List.take_nil, Option.toList_eq_nil_iff] at kept
    rw [Assembler.settleAll_of_no_refusal settled kept,
      Assembler.settleAll_of_no_refusal settled (alike ▸ kept), alike]
  · rintro earlier slice later rfl call reason rejected
    have wellFormed : endpoint.assembler.WellFormed limit :=
      Assembler.wellFormed_of_eq_empty fresh
    have parses := parses_callBehind receptive wellFormed earlier slice
    have refused := mem_reasons_iff.2 rejected
    rw [parses.findings_eq, Assembler.reasons_settle, Option.mem_toList] at refused
    have rejects := parses.rejects refused
    refine ⟨rejects, ?_⟩
    obtain ⟨records, writes, closes, left⟩ := parses.state_eq
    have callReceptive : call.state.Receptive limit :=
      left ▸ receptive_progressed records writes closes _ receptive
    rw [findings_of_fresh callReceptive rejects.forgets, findings_of_fresh receptive fresh]

/-- A refused marker in the second of three slices: what is behind it in its own slice is dropped,
and what is in the third is a record. -/
theorem rejection_ends_call_of_zeroLength :
    let created : Endpoint :=
      ⟨1, true, .integer 16, .empty, .unconnected, none, 0, ⟨some [], none, none⟩⟩
    let connection : Connection := ⟨.absent, .absent, ⟨[0, 0, 0, 0, 0], rfl⟩, [], []⟩
    let fresh := ((perform [.connect connection]).run created).state
    let call := fresh.callBehind [[0, 0]] [0, 0, 0x80, 0, 0, 1, 0x41]
    fresh.Receptive 16 ∧ .rejection .zeroLength ∈ call.trace.filterMap Event.finding? ∧
      fresh.Rejects call .zeroLength ∧
      call.state.findings [[0x80, 0, 0, 1, 0x42]] = fresh.findings [[0x80, 0, 0, 1, 0x42]] := by
  intro created connection fresh call
  obtain ⟨receptive, empty, _⟩ : fresh.Receptive 16 ∧ fresh.assembler = .empty ∧ _ :=
    receptive_of_connect rfl rfl ⟨[], rfl, by simp⟩ (by simp [connection]) (by simp [created])
  have rejected : .rejection .zeroLength ∈ call.trace.filterMap Event.finding? := by
    decide +kernel
  exact ⟨receptive, rejected,
    (rejection_ends_call receptive empty
      [[0, 0], [0, 0, 0x80, 0, 0, 1, 0x41], [0x80, 0, 0, 1, 0x42]]).2
      [[0, 0]] _ [[0x80, 0, 0, 1, 0x42]] rfl .zeroLength rejected⟩

/-- Behind a rejection a record is delivered if it arrives in a call of its own, and not if it
arrives together with the refused marker. -/
theorem record_behind_rejection :
    ∃ fresh, create 1 (.integer 16) ⟨some [], none, none⟩ = .ok fresh ∧
      let connection : Connection := ⟨.absent, .absent, ⟨[0, 0, 0, 0, 0], rfl⟩, [], []⟩
      let peer : Peer := ⟨some "0000000000", .absent, .absent⟩
      (serve [.connect connection, .receive [0, 0, 0, 0], .receive [0x80, 0, 0, 1, 0x41]]
          fresh).trace =
        [.notice (.connectionMade peer), .notice (.rejected .zeroLength peer.identity),
          .notice (.closing peer), .transportClose 1, .notice (.recordReceived 1),
          .record ⟨1, peer.identity⟩ [0x41]] ∧
        (serve [.connect connection, .receive [0, 0, 0, 0, 0x80, 0, 0, 1, 0x41]]
          fresh).trace.filterMap Event.delivered? = [] :=
  ⟨_, rfl, by decide +kernel, by decide +kernel⟩

end RecordMarking.Endpoint
