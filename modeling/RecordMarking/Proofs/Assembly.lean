import RecordMarking.Assembler
import RecordMarking.Proofs.Grammar

/-!
# What an assembler makes of its octets

`settle` says in the grammar what an assembler comes to with the octets that it holds: the
records that are complete, the rejection that may follow them, and what it then waits with.
`settles_of_advance` says that every single step agrees with it. `settle_receive_append` says
that octets may arrive in two parts, and `upToRejection_settleAll` that they may arrive in any:
up to the first rejection the findings are the same.
-/

namespace RecordMarking

/-- The rejection that a marker earns which is refused. -/
def Front.rejection? (limit : Int) : Front → Option Rejection
  | .zeroLength _ => some .zeroLength
  | .tooLarge length _ => some (.tooLarge length (.integer limit))
  | .fragment .. | .cutMarker _ | .cutPayload .. => none

/-- A marker that is refused is refused for the same reason, whatever arrives behind it. -/
theorem rejection?_front_append {limit : Int} {octets : Octets} {rejection : Rejection}
    (refused : (front limit octets).rejection? limit = some rejection) (more : Octets) :
    (front limit (octets ++ more)).rejection? limit = some rejection := by
  rcases short_or_exists_marker octets with short | ⟨marker, behind, fits, rfl⟩
  · rw [front_of_short short] at refused
    simp [Front.rejection?] at refused
  · rw [List.append_assoc, front_marker fits] at *
    unfold Marker.front at *
    by_cases empty : marker.length < 1
    · rw [if_pos empty] at *
      exact refused
    · rw [if_neg empty] at *
      by_cases large : limit ≤ marker.length
      · rw [if_pos large] at *
        exact refused
      · rw [if_neg large] at refused
        split at refused <;> simp [Front.rejection?] at refused

theorem blocked_of_rejection? {limit : Int} {front : Front} {rejection : Rejection}
    (refused : front.rejection? limit = some rejection) : front.isFragment = false := by
  cases front <;> simp_all [Front.rejection?, Front.isFragment]

/-- What comes of received octets. -/
inductive Finding where
  /-- A record is complete. -/
  | record (record : Octets)
  /-- A marker is refused. -/
  | rejection (rejection : Rejection)
deriving DecidableEq, Repr

/-- The records among findings. -/
def Finding.records (findings : List Finding) : List Octets :=
  findings.filterMap fun
    | .record delivered => some delivered
    | .rejection _ => none

/-- The reasons of the rejections among findings. -/
def Finding.reasons (findings : List Finding) : List Rejection :=
  findings.filterMap fun
    | .record _ => none
    | .rejection reason => some reason

@[simp] theorem records_append (first second : List Finding) :
    Finding.records (first ++ second) = Finding.records first ++ Finding.records second :=
  List.filterMap_append

@[simp] theorem reasons_append (first second : List Finding) :
    Finding.reasons (first ++ second) = Finding.reasons first ++ Finding.reasons second :=
  List.filterMap_append

@[simp] theorem reasons_records (records : List Octets) :
    Finding.reasons (records.map .record) = [] := by
  simp [Finding.reasons, List.filterMap_map]

theorem mem_reasons_iff {reason : Rejection} {findings : List Finding} :
    reason ∈ Finding.reasons findings ↔ .rejection reason ∈ findings := by
  rw [Finding.reasons, List.mem_filterMap]
  constructor
  · rintro ⟨finding, among, same⟩
    cases finding with
    | record => simp at same
    | rejection other => simpa [← Option.some.inj same] using among
  · exact fun among => ⟨_, among, rfl⟩

namespace Assembler

variable {limit : Int}

/-- A payload is only waited for behind the marker of an accepted fragment. -/
def WellFormed (limit : Int) (assembler : Assembler) : Prop :=
  match assembler.phase with
  | .awaitingMarker => True
  | .awaitingFragment marker =>
    1 ≤ marker.length ∧ (marker.length : Int) < limit ∧ marker.length ≤ Marker.maxLength

theorem wellFormed_of_eq_empty {assembler : Assembler} (fresh : assembler = empty) :
    assembler.WellFormed limit := fresh ▸ trivial

/-- The octets behind the last complete fragment. -/
def pending (assembler : Assembler) : Octets :=
  match assembler.phase with
  | .awaitingMarker => assembler.buffer
  | .awaitingFragment marker => marker.octets ++ assembler.buffer

/-- The assembler that holds a begun record and waits with the octets behind it. -/
def waiting (begun rest : Octets) : Assembler :=
  match Marker.ofOctets? (rest.take Marker.size) with
  | none => ⟨rest, begun, .awaitingMarker⟩
  | some marker => ⟨rest.drop Marker.size, begun, .awaitingFragment marker⟩

/-- Why the marker behind the fragments that an assembler holds is refused, if it is. -/
def refusal? (limit : Int) (assembler : Assembler) : Option Rejection :=
  (front limit (split limit assembler.pending).2).rejection? limit

/-- What an assembler comes to with the octets that it holds. -/
def settle (limit : Int) (assembler : Assembler) : List Finding × Assembler :=
  let found := split limit assembler.pending
  let grouped := regroup assembler.collected found.1
  match assembler.refusal? limit with
  | none => (grouped.1.map .record, waiting grouped.2 found.2)
  | some rejection => (grouped.1.map .record ++ [.rejection rejection], empty)

@[simp] theorem pending_awaitingMarker (buffer collected : Octets) :
    pending ⟨buffer, collected, .awaitingMarker⟩ = buffer := rfl

@[simp] theorem pending_receive (octets : Octets) (assembler : Assembler) :
    (assembler.receive octets).pending = assembler.pending ++ octets := by
  obtain ⟨buffer, collected, phase⟩ := assembler
  cases phase <;> simp [receive, pending]

@[simp] theorem receive_nil (assembler : Assembler) : assembler.receive [] = assembler := by
  simp [receive]

@[simp] theorem collected_receive (octets : Octets) (assembler : Assembler) :
    (assembler.receive octets).collected = assembler.collected := rfl

theorem waiting_of_short (begun : Octets) {rest : Octets} (short : rest.length < Marker.size) :
    waiting begun rest = ⟨rest, begun, .awaitingMarker⟩ := by
  rw [waiting, ofOctets?_take_of_short short]

theorem waiting_marker (begun : Octets) {marker : Marker}
    (fits : marker.length ≤ Marker.maxLength) (behind : Octets) :
    waiting begun (marker.octets ++ behind) = ⟨behind, begun, .awaitingFragment marker⟩ := by
  rw [waiting, List.take_left' marker.length_octets, List.drop_left' marker.length_octets,
    Marker.ofOctets?_octets fits]

@[simp] theorem pending_waiting (begun rest : Octets) : (waiting begun rest).pending = rest := by
  rcases short_or_exists_marker rest with short | ⟨marker, behind, fits, rfl⟩
  · rw [waiting_of_short begun short]
    rfl
  · rw [waiting_marker begun fits]
    rfl

@[simp] theorem collected_waiting (begun rest : Octets) :
    (waiting begun rest).collected = begun := by
  rw [waiting]
  split <;> rfl

theorem settle_of_refusal {assembler : Assembler} {rejection : Rejection}
    (refused : assembler.refusal? limit = some rejection) :
    settle limit assembler =
      ((regroup assembler.collected (split limit assembler.pending).1).1.map .record ++
        [.rejection rejection], empty) := by
  simp only [settle, refused]

theorem settle_of_no_refusal {assembler : Assembler} (kept : assembler.refusal? limit = none) :
    settle limit assembler =
      ((regroup assembler.collected (split limit assembler.pending).1).1.map .record,
        waiting (regroup assembler.collected (split limit assembler.pending).1).2
          (split limit assembler.pending).2) := by
  simp only [settle, kept]

/-- An assembler that holds the same octets behind the same begun record comes to the same. -/
theorem settle_congr {first second : Assembler} (pending : first.pending = second.pending)
    (collected : first.collected = second.collected) :
    settle limit first = settle limit second := by
  simp only [settle, refusal?, pending, collected]

/-- A step agrees with what the assembler comes to, and later steps will. -/
def Settles (limit : Int) (assembler : Assembler) : Step → Prop
  | .starved => settle limit assembler = ([], assembler)
  | .rejected rejection => settle limit assembler = ([.rejection rejection], empty)
  | .failed _ => False
  | .advanced next => settle limit assembler = settle limit next ∧ next.WellFormed limit
  | .completed record next =>
    settle limit assembler = (.record record :: (settle limit next).1, (settle limit next).2) ∧
      next.WellFormed limit

/-- A final fragment completes a record, and the assembler goes on behind it. -/
theorem settle_of_last {assembler : Assembler} {fragment : Fragment} {rest : Octets}
    (found : front limit assembler.pending = .fragment fragment rest)
    (last : fragment.last = true) :
    settle limit assembler =
      (.record (assembler.collected ++ fragment.payload) ::
          (settle limit ⟨rest, [], .awaitingMarker⟩).1,
        (settle limit ⟨rest, [], .awaitingMarker⟩).2) := by
  simp only [settle, refusal?, split_of_front found, regroup, last, if_true,
    pending_awaitingMarker]
  split <;> rfl

/-- Any other fragment is collected, and the assembler goes on behind it. -/
theorem settle_of_not_last {assembler : Assembler} {fragment : Fragment} {rest : Octets}
    (found : front limit assembler.pending = .fragment fragment rest)
    (notLast : fragment.last = false) :
    settle limit assembler =
      settle limit ⟨rest, assembler.collected ++ fragment.payload, .awaitingMarker⟩ := by
  simp [settle, refusal?, split_of_front found, regroup, notLast]

/-- Where no fragment stands and no marker is refused, an assembler that waits goes on
waiting. -/
theorem settle_waiting {begun rest : Octets}
    (blocked : (front limit rest).isFragment = false)
    (kept : (front limit rest).rejection? limit = none) :
    settle limit (waiting begun rest) = ([], waiting begun rest) := by
  simp [settle, refusal?, split_of_blocked blocked, kept, regroup]

/-- A marker that is refused as soon as it is read resets the assembler. -/
theorem settle_of_refused_marker {buffer collected : Octets} {rejection : Rejection}
    (refused : (front limit buffer).rejection? limit = some rejection) :
    settle limit ⟨buffer, collected, .awaitingMarker⟩ = ([.rejection rejection], empty) := by
  simp [settle, refusal?, split_of_blocked (blocked_of_rejection? refused), refused, regroup]

/-- Every step of a well-formed assembler agrees with what the assembler comes to. -/
theorem settles_of_advance {assembler : Assembler} (wellFormed : assembler.WellFormed limit) :
    Settles limit assembler (assembler.advance (.integer limit)) := by
  obtain ⟨buffer, collected, phase⟩ := assembler
  cases phase with
  | awaitingMarker =>
    rcases short_or_exists_marker buffer with short | ⟨marker, behind, fits, rfl⟩
    · have waits := waiting_of_short collected short
      simp only [advance, ofOctets?_take_of_short short, Settles]
      rw [← waits]
      exact settle_waiting (by rw [front_of_short short]; rfl) (by rw [front_of_short short]; rfl)
    · have stands := @front_marker limit _ fits behind
      simp only [advance, List.take_left' marker.length_octets,
        List.drop_left' marker.length_octets, Marker.ofOctets?_octets fits,
        Value.isReachedBy_integer]
      by_cases empty : marker.length < 1
      · rw [if_pos empty]
        refine settle_of_refused_marker ?_
        rw [stands, Marker.front, if_pos empty]
        rfl
      · rw [if_neg empty]
        by_cases large : limit ≤ marker.length
        · simp only [large, decide_true]
          refine settle_of_refused_marker ?_
          rw [stands, Marker.front, if_neg empty, if_pos large]
          rfl
        · simp only [large, decide_false]
          exact ⟨settle_congr rfl rfl, by omega, by omega, fits⟩
  | awaitingFragment marker =>
    obtain ⟨positive, below, fits⟩ := wellFormed
    have stands : front limit (pending ⟨buffer, collected, .awaitingFragment marker⟩) =
        marker.front limit buffer := front_marker fits buffer
    rw [Marker.front, if_neg (by omega), if_neg (by omega)] at stands
    simp only [advance]
    by_cases cut : buffer.length < marker.length
    · rw [if_pos cut] at stands ⊢
      rw [Settles, ← waiting_marker collected fits buffer]
      rw [pending] at stands
      exact settle_waiting (by rw [stands]; rfl) (by rw [stands]; rfl)
    · rw [if_neg cut] at stands ⊢
      cases last : marker.last with
      | true =>
        rw [last] at stands
        exact ⟨settle_of_last stands rfl, trivial⟩
      | false =>
        rw [last] at stands
        exact ⟨settle_of_not_last stands rfl, trivial⟩

@[simp] theorem settle_empty (limit : Int) : settle limit empty = ([], empty) := by
  have short : ([] : Octets).length < Marker.size := by decide
  have waits : empty = waiting [] [] := (waiting_of_short [] short).symm
  rw [waits]
  exact settle_waiting (by rw [front_of_short short]; rfl) (by rw [front_of_short short]; rfl)

/-- What an assembler comes to is well-formed again. -/
theorem wellFormed_settle (limit : Int) (assembler : Assembler) :
    (settle limit assembler).2.WellFormed limit := by
  match refused : assembler.refusal? limit with
  | some rejection =>
    rw [settle_of_refusal refused]
    trivial
  | none =>
    rw [settle_of_no_refusal refused]
    rw [refusal?] at refused
    rcases short_or_exists_marker (split limit assembler.pending).2 with
      short | ⟨marker, behind, fits, stands⟩
    · rw [waiting_of_short _ short]
      trivial
    · rw [stands, front_marker fits, Marker.front] at refused
      rw [stands, waiting_marker _ fits]
      split at refused
      · simp [Front.rejection?] at refused
      · split at refused
        · simp [Front.rejection?] at refused
        · exact ⟨by omega, by omega, fits⟩

/-- With what it comes to, an assembler is done. -/
theorem settle_settle (limit : Int) (assembler : Assembler) :
    settle limit (settle limit assembler).2 = ([], (settle limit assembler).2) := by
  match refused : assembler.refusal? limit with
  | some rejection =>
    rw [settle_of_refusal refused]
    exact settle_empty limit
  | none =>
    rw [settle_of_no_refusal refused]
    exact settle_waiting (blocked_split limit assembler.pending) refused

/-- The records that an assembler comes to are those that its fragments complete. -/
theorem records_settle (limit : Int) (assembler : Assembler) :
    Finding.records (settle limit assembler).1 =
      (regroup assembler.collected (split limit assembler.pending).1).1 := by
  have all : ∀ records : List Octets, Finding.records (records.map .record) = records := by
    intro records
    induction records with
    | nil => rfl
    | cons record others inductionHypothesis => exact congrArg _ inductionHypothesis
  match refused : assembler.refusal? limit with
  | some rejection =>
    rw [settle_of_refusal refused, records_append, all]
    exact List.append_nil _
  | none =>
    rw [settle_of_no_refusal refused]
    exact all _

/-- An assembler refuses at most one marker. -/
theorem reasons_settle (limit : Int) (assembler : Assembler) :
    Finding.reasons (settle limit assembler).1 = (assembler.refusal? limit).toList := by
  match refused : assembler.refusal? limit with
  | some rejection =>
    rw [settle_of_refusal refused, reasons_append, reasons_records]
    rfl
  | none =>
    rw [settle_of_no_refusal refused, reasons_records]
    rfl

/-- An assembler that is done holds no marker that is refused. -/
theorem refusal?_of_settled {assembler : Assembler}
    (settled : settle limit assembler = ([], assembler)) : assembler.refusal? limit = none := by
  match refused : assembler.refusal? limit with
  | none => rfl
  | some rejection => simp [settle_of_refusal refused] at settled

/-- As long as no marker is refused, octets may arrive in two parts. -/
theorem settle_receive_append {assembler : Assembler} {first : Octets}
    (kept : (assembler.receive first).refusal? limit = none) (second : Octets) :
    settle limit (assembler.receive (first ++ second)) =
      ((settle limit (assembler.receive first)).1 ++
          (settle limit ((settle limit (assembler.receive first)).2.receive second)).1,
        (settle limit ((settle limit (assembler.receive first)).2.receive second)).2) := by
  rw [settle_of_no_refusal kept]
  simp only [settle, refusal?, pending_receive, collected_receive, pending_waiting,
    collected_waiting]
  rw [← List.append_assoc, split_append limit (assembler.pending ++ first) second]
  simp only [regroup_append]
  split <;> simp

/-- What is refused of two parts together is refused of the second behind the first. -/
theorem refusal?_receive_append {assembler : Assembler} {first : Octets}
    (kept : (assembler.receive first).refusal? limit = none) (second : Octets) :
    (assembler.receive (first ++ second)).refusal? limit =
      ((settle limit (assembler.receive first)).2.receive second).refusal? limit := by
  rw [settle_of_no_refusal kept]
  simp only [refusal?, pending_receive, pending_waiting]
  rw [← List.append_assoc, split_append limit (assembler.pending ++ first) second]

/-- Behind a marker that is refused nothing counts that arrives together with it. -/
theorem settle_receive_append_of_refusal {assembler : Assembler} {first : Octets}
    {rejection : Rejection}
    (refused : (assembler.receive first).refusal? limit = some rejection) (second : Octets) :
    (assembler.receive (first ++ second)).refusal? limit = some rejection ∧
      settle limit (assembler.receive (first ++ second)) =
        settle limit (assembler.receive first) := by
  have later := rejection?_front_append refused second
  have same : split limit (assembler.receive (first ++ second)).pending =
      ((split limit (assembler.receive first).pending).1,
        (split limit (assembler.receive first).pending).2 ++ second) := by
    rw [pending_receive, ← List.append_assoc, ← pending_receive, split_append,
      split_of_blocked (blocked_of_rejection? later), List.append_nil]
  have again : (assembler.receive (first ++ second)).refusal? limit = some rejection := by
    rw [refusal?, same]
    exact later
  refine ⟨again, ?_⟩
  rw [settle_of_refusal refused, settle_of_refusal again, same]
  rfl

/-- What an assembler comes to when octets arrive in slices, each of which it settles with. -/
def settleAll (limit : Int) : List Octets → Assembler → List Finding × Assembler
  | [], assembler => ([], assembler)
  | slice :: later, assembler =>
    let settled := settle limit (assembler.receive slice)
    (settled.1 ++ (settleAll limit later settled.2).1, (settleAll limit later settled.2).2)

theorem wellFormed_settleAll {assembler : Assembler} (wellFormed : assembler.WellFormed limit)
    (slices : List Octets) : (settleAll limit slices assembler).2.WellFormed limit := by
  induction slices generalizing assembler with
  | nil => exact wellFormed
  | cons slice later inductionHypothesis =>
    exact inductionHypothesis (wellFormed_settle limit (assembler.receive slice))

end Assembler

/-- The findings up to the first rejection, which is included. -/
def Finding.upToRejection : List Finding → List Finding
  | [] => []
  | .record delivered :: later => .record delivered :: upToRejection later
  | .rejection reason :: _ => [.rejection reason]

/-- Records in front of the first rejection are all kept. -/
@[simp] theorem upToRejection_records_append (records : List Octets) (later : List Finding) :
    Finding.upToRejection (records.map .record ++ later) =
      records.map .record ++ Finding.upToRejection later := by
  induction records with
  | nil => rfl
  | cons record others inductionHypothesis =>
    rw [List.map_cons, List.cons_append, Finding.upToRejection, inductionHypothesis]
    rfl

/-- Of the rejections only the first is kept. -/
theorem reasons_upToRejection (findings : List Finding) :
    Finding.reasons (Finding.upToRejection findings) = (Finding.reasons findings).take 1 := by
  fun_induction Finding.upToRejection findings with
  | case1 => rfl
  | case2 delivered later inductionHypothesis => exact inductionHypothesis
  | case3 reason later => rfl

namespace Assembler

variable {limit : Int}

/-- Up to the first rejection it makes no difference how the octets are sliced. -/
theorem upToRejection_settleAll {assembler : Assembler}
    (settled : settle limit assembler = ([], assembler)) (slices : List Octets) :
    Finding.upToRejection (settleAll limit slices assembler).1 =
      (settle limit (assembler.receive slices.flatten)).1 := by
  induction slices generalizing assembler with
  | nil => simp [settleAll, Finding.upToRejection, receive, settled]
  | cons slice later inductionHypothesis =>
    rw [List.flatten_cons, settleAll]
    cases refused : (assembler.receive slice).refusal? limit with
    | some rejection =>
      rw [(settle_receive_append_of_refusal refused later.flatten).2, settle_of_refusal refused]
      simp [Finding.upToRejection]
    | none =>
      rw [settle_receive_append refused, ← inductionHypothesis (settle_settle limit _),
        settle_of_no_refusal refused, upToRejection_records_append]

/-- All octets together are refused for the first reason for which one of the slices is. -/
theorem toList_refusal?_flatten {assembler : Assembler}
    (settled : settle limit assembler = ([], assembler)) (slices : List Octets) :
    ((assembler.receive slices.flatten).refusal? limit).toList =
      (Finding.reasons (settleAll limit slices assembler).1).take 1 := by
  rw [← reasons_settle, ← upToRejection_settleAll settled, reasons_upToRejection]

/-- Without a rejection slicing makes no difference at all. -/
theorem settleAll_of_no_refusal {assembler : Assembler}
    (settled : settle limit assembler = ([], assembler)) {slices : List Octets}
    (kept : (assembler.receive slices.flatten).refusal? limit = none) :
    settleAll limit slices assembler = settle limit (assembler.receive slices.flatten) := by
  induction slices generalizing assembler with
  | nil => simp [settleAll, receive, settled]
  | cons slice later inductionHypothesis =>
    rw [List.flatten_cons] at kept ⊢
    cases refused : (assembler.receive slice).refusal? limit with
    | some rejection =>
      simp [(settle_receive_append_of_refusal refused later.flatten).1] at kept
    | none =>
      rw [refusal?_receive_append refused] at kept
      rw [settleAll, inductionHypothesis (settle_settle limit _) kept,
        settle_receive_append refused]

/-- If a marker is refused, then it is in one of the slices, and not in those before it. -/
theorem exists_refused_slice {assembler : Assembler}
    (settled : settle limit assembler = ([], assembler)) {slices : List Octets}
    {rejection : Rejection}
    (refused : (assembler.receive slices.flatten).refusal? limit = some rejection) :
    ∃ earlier slice later, slices = earlier ++ slice :: later ∧
      (assembler.receive earlier.flatten).refusal? limit = none ∧
      ((settle limit (assembler.receive earlier.flatten)).2.receive slice).refusal? limit =
        some rejection := by
  induction slices generalizing assembler with
  | nil =>
    have kept := refusal?_of_settled settled
    simp [receive, kept] at refused
  | cons slice later inductionHypothesis =>
    rw [List.flatten_cons] at refused
    cases atOnce : (assembler.receive slice).refusal? limit with
    | some reason =>
      rw [(settle_receive_append_of_refusal atOnce later.flatten).1] at refused
      have nothing : assembler.receive ([] : List Octets).flatten = assembler := receive_nil _
      refine ⟨[], slice, later, rfl, ?_, ?_⟩
      · rw [nothing, refusal?_of_settled settled]
      · rw [nothing, settled, atOnce, refused]
    | none =>
      rw [refusal?_receive_append atOnce] at refused
      obtain ⟨earlier, refusing, others, rfl, kept, found⟩ :=
        inductionHypothesis (settle_settle limit _) refused
      refine ⟨slice :: earlier, refusing, others, rfl, ?_, ?_⟩
      · rw [List.flatten_cons, refusal?_receive_append atOnce, kept]
      · rw [List.flatten_cons, settle_receive_append atOnce, found]

end Assembler

end RecordMarking
