import RecordMarking.Proofs.Endpoint.Reconnection
import RecordMarking.Proofs.Endpoint.Transfer

/-!
# Which endpoints can send

An endpoint accepts every limit above one when it is made, and sends in fragments of one octet less.
A marker can announce such a fragment up to a limit of `0x80000000`. Up to there every record with
octets is handed to the transport in one write, and only the transport can refuse it; above, every
such record is refused before the transport is asked. `sends_up_to_largest_limit` says both.
-/

namespace RecordMarking.Endpoint

variable {limit : Int} {endpoint : Endpoint} {record : Octets}

/-- The fragments in which a record is sent form the record, and each of them is accepted at the
limit of the sender. -/
theorem fragments_below_limit (enough : 2 ≤ limit) (bounded : limit ≤ 0x80000000)
    (something : record ≠ []) :
    frame record (.integer (limit - 1)) = .ok (framedBelow limit record) ∧
      Fragment.FormRecord (fragments (limit - 1).toNat record) ∧
      Fragment.join (fragments (limit - 1).toNat record) = record ∧
      ∀ fragment ∈ fragments (limit - 1).toNat record, fragment.Accepted limit := by
  have framable := framable_of_limit enough bounded (Int.le_refl limit) something
  exact ⟨framable.frame_eq, framable.formRecord, join_fragments _ record,
    fun fragment among => framable.accepted among⟩

/-- Above the largest limit that leaves a size for markers to announce, nothing can be framed. -/
theorem frame_of_large_limit (large : 0x80000000 < limit) (something : record ≠ []) :
    frame record (.integer (limit - 1)) =
      .error (.fragmentSizeOutOfRange (.integer (limit - 1))) := by
  have outside : ¬ (1 ≤ limit - 1 ∧ limit - 1 ≤ (Marker.maxLength : Int)) := by
    rw [Marker.maxLength]
    omega
  rw [frame_eq, if_neg something, checkFragmentSize_of_whole (Value.whole_integer _),
    if_neg outside]
  rfl

/-- With octets to send and a transport, an endpoint whose limit is at most `0x80000000` makes
one write, of fragments that carry the record below the limit, and fails only if the write does.
With a larger limit it fails, has written nothing, and is left unchanged. -/
theorem sends_up_to_largest_limit {number : Nat} {limit : Value} {handlers : Handlers}
    {fresh : Endpoint} {transport : Transport}
    (made : create number limit handlers = .ok fresh)
    (delimits : endpoint.delimiting = fresh.delimiting) (limited : endpoint.limit = fresh.limit)
    (attached : endpoint.transport = some transport) (something : record ≠ []) :
    ∃ bound : Int, limit = .integer bound ∧ 2 ≤ bound ∧
      (bound ≤ 0x80000000 →
        ∃ fragments, Fragment.FormRecord fragments ∧ Fragment.join fragments = record ∧
          (∀ fragment ∈ fragments, fragment.Accepted bound) ∧
          (let framed := fragments.flatMap Fragment.octets
          (send (.octets record)).run endpoint =
            ⟨transport.writes.first,
              [.notice (.sending framed.length), .transportWrite transport.number framed],
              endpoint.progressed 0 1 0 endpoint.assembler⟩)) ∧
      (0x80000000 < bound →
        (send (.octets record)).run endpoint =
          ⟨.error (.fragmentSizeOutOfRange (.integer (bound - 1))), [], endpoint⟩) := by
  obtain ⟨bound, rfl, enough, rfl⟩ := eq_of_create made
  refine ⟨bound, rfl, enough, ?_, ?_⟩
  · intro bounded
    obtain ⟨framed, formed, joined, accepted⟩ := fragments_below_limit enough bounded something
    refine ⟨_, formed, joined, accepted, ?_⟩
    have ran := run_send_of_framed delimits limited framed
    simp only [writeResult, writeEvents, attached] at ran
    exact ran
  · intro large
    exact run_send_of_fault delimits limited something (frame_of_large_limit large something)

/-- Under a limit of three, a record of three octets is sent in two fragments, and the failure of
the write is the failure of sending. -/
theorem sends_in_two_fragments :
    let handlers : Handlers := ⟨some [], none, none⟩
    let transport : Transport := ⟨1, [some .notConnected], []⟩
    ∃ fresh, create 1 (.integer 3) handlers = .ok fresh ∧
      (let endpoint := { fresh with transport := some transport, connections := 1 }
      ∃ fragments, Fragment.join fragments = [97, 98, 99] ∧
        (∀ fragment ∈ fragments, fragment.Accepted 3) ∧
        ((send (.octets [97, 98, 99])).run endpoint).result = .error .notConnected ∧
        ((send (.octets [97, 98, 99])).run endpoint).trace =
          [.notice (.sending (fragments.flatMap Fragment.octets).length),
            .transportWrite 1 (fragments.flatMap Fragment.octets)]) := by
  intro handlers transport
  refine ⟨_, rfl, ?_⟩
  intro endpoint
  obtain ⟨bound, same, _, sends, _⟩ :=
    @sends_up_to_largest_limit endpoint [97, 98, 99] 1 (.integer 3) handlers _ transport rfl rfl rfl
      rfl (by decide)
  cases same
  obtain ⟨fragments, _, joined, accepted, ran⟩ := sends (by decide)
  rw [ran]
  exact ⟨fragments, joined, accepted, rfl, rfl⟩

/-- One above the largest limit that leaves a size for markers to announce is accepted, and not even
a single octet can be sent. -/
theorem accepted_limit_sends_nothing :
    let transport : Transport := ⟨1, [], []⟩
    ∃ fresh, create 1 (.integer 0x80000001) ⟨some [], none, none⟩ = .ok fresh ∧
      (let endpoint := { fresh with transport := some transport, connections := 1 }
      ((send (.octets [0x41])).run endpoint).result =
          .error (.fragmentSizeOutOfRange (.integer 0x80000000)) ∧
        ((send (.octets [0x41])).run endpoint).trace = []) := by
  refine ⟨_, rfl, ?_⟩
  decide +kernel

end RecordMarking.Endpoint
