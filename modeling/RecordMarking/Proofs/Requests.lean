import Mathlib.Algebra.BigOperators.Group.List.Basic
import RecordMarking.Proofs.Draining
import RecordMarking.Proofs.Reading
import RecordMarking.Proofs.Repetition

/-!
# What a reader asks for

A reader asks its source for octets in loops: one for each marker, and one for what stands behind
it, be it an accepted payload or one that is read away. `stages` lists the loops of a record in
order, each with the source that it finds, and `requests_readOn` says that their requests are all
that the reader makes.

Within a loop only what is missing is asked for (`exists_missing_of_request`), and a loop that is
followed by another one was complete, so only the last of all answers can be without octets
(`deliversUntilLast_stages`). `requests_are_bounded` puts this together for every source and limit.
Nothing is assumed of a source: it lists what a stream does while it is read, whatever that is.
-/

namespace RecordMarking

/-- What a reader reads in one loop of requests. -/
inductive Purpose where
  /-- A marker. -/
  | marker
  /-- The payload of an accepted fragment. -/
  | payload (length : Nat)
  /-- The payload of a fragment that is too large, to get it out of the way. -/
  | discard (length : Nat)
deriving DecidableEq, Repr

namespace Purpose

/-- What is read behind a marker. Nothing is if it announces nothing, or if the limit is no number
to compare it with. -/
def behind? (limit : Value) (marker : Marker) : Option Purpose :=
  if marker.length < 1 then none
  else
    match limit.isReachedBy marker.length with
    | .error _ => none
    | .ok true => some (.discard marker.length)
    | .ok false => some (.payload marker.length)

/-- Behind a marker it is its payload that is read, whether to accept it or not. -/
theorem behind_cases {limit : Value} {marker : Marker} {purpose : Purpose}
    (behind : behind? limit marker = some purpose) :
    1 ≤ marker.length ∧
      (purpose = .payload marker.length ∧ limit.isReachedBy marker.length = .ok false ∨
        purpose = .discard marker.length ∧ limit.isReachedBy marker.length = .ok true) := by
  unfold behind? at behind
  by_cases empty : marker.length < 1
  · rw [if_pos empty] at behind
    cases behind
  · rw [if_neg empty] at behind
    refine ⟨Nat.not_lt.1 empty, ?_⟩
    match reached : limit.isReachedBy marker.length with
    | .error fault =>
      rw [reached] at behind
      cases behind
    | .ok true =>
      rw [reached] at behind
      exact .inr ⟨(Option.some.inj behind).symm, rfl⟩
    | .ok false =>
      rw [reached] at behind
      exact .inl ⟨(Option.some.inj behind).symm, rfl⟩

/-- The number of octets that are to be read. -/
def size : Purpose → Nat
  | .marker => Marker.size
  | .payload length => length
  | .discard length => length

/-- How much of what is missing is asked for at a time. -/
def portion : Purpose → Nat → Nat
  | .marker | .payload _ => id
  | .discard _ => min Source.drainPortion

/-- The loop of requests. -/
def pull (purpose : Purpose) (source : Source) : Pull :=
  source.pull purpose.portion purpose.size

/-- How many octets may be asked for at a time: no more than a marker has, no more than an accepted
fragment, which is less than the limit, and no more than a portion of what is read away. -/
def Allows (limit : Value) (count : Nat) : Purpose → Prop
  | .marker => count ≤ 4
  | .payload length => count ≤ length ∧ limit.isReachedBy length = .ok false ∧
    limit.isReachedBy count = .ok false ∧ ∀ bound, limit.whole = .ok bound → count < bound
  | .discard length => count ≤ length ∧ limit.isReachedBy length = .ok true ∧ count ≤ 8192

end Purpose

/-- One loop of requests, on the source as it finds it. -/
structure Stage where
  purpose : Purpose
  source : Source
deriving DecidableEq, Repr

/-- What is asked for in a loop. -/
def Stage.asked (stage : Stage) : List Nat :=
  Source.requests (stage.purpose.pull stage.source).trace

namespace Source

/-- The loops of requests in which a record is read, from its next marker on. -/
def stages (limit : Value) (source : Source) : List Stage :=
  match _announced : readMarker.run source with
  | ⟨.error _, _, _⟩ => [⟨.marker, source⟩]
  | ⟨.ok marker, _, between⟩ =>
    match Purpose.behind? limit marker with
    | none => [⟨.marker, source⟩]
    | some purpose =>
      match _read : (readPayload limit marker).run between with
      | ⟨.error _, _, _⟩ => [⟨.marker, source⟩, ⟨purpose, between⟩]
      | ⟨.ok _, _, rest⟩ =>
        ⟨.marker, source⟩ :: ⟨purpose, between⟩ :: if marker.last then [] else stages limit rest
termination_by source.unread
decreasing_by
  have payloadTaken := consuming_readPayload limit marker between
  rw [_read] at payloadTaken
  exact Nat.lt_of_le_of_lt payloadTaken (unread_readMarker_lt _announced)

section Pull

variable {portion : Nat → Nat} {missing : Nat} {source : Source}

/-- Only what is missing is asked for, and it is asked for in portions. -/
theorem exists_missing_of_request {count : Nat}
    (among : count ∈ requests (source.pull portion missing).trace) :
    ∃ left, 1 ≤ left ∧ left ≤ missing ∧ count = portion left := by
  fun_induction pull portion missing source with
  | case1 source => cases among
  | case2 missing source something | case3 missing source something =>
    obtain rfl : count = portion missing := List.mem_singleton.1 among
    exact ⟨missing, Nat.one_le_iff_ne_zero.2 something, Nat.le_refl _, rfl⟩
  | case4 missing source something octet more rest read later inductionHypothesis =>
    have asked : requests (.request (portion missing) :: later.trace) =
        portion missing :: requests later.trace := rfl
    rw [asked] at among
    cases List.mem_cons.1 among with
    | inl first => exact ⟨missing, Nat.one_le_iff_ne_zero.2 something, Nat.le_refl _, first⟩
    | inr behind =>
      obtain ⟨left, positive, less, same⟩ := inductionHypothesis behind
      exact ⟨left, positive, by omega, same⟩

/-- Where something is missing, it is asked for. -/
theorem requests_pull_ne_nil (positive : 1 ≤ missing) :
    requests (source.pull portion missing).trace ≠ [] := by
  rw [pull, if_neg (by omega)]
  split <;> exact List.cons_ne_nil _ _

end Pull

/-- An activity asks for nothing more where what follows it asks for nothing. -/
theorem requests_bind_of_silent {First Second : Type} {source : Source}
    {first : Activity Source First} {second : First → Activity Source Second}
    (silent : ∀ value between, requests ((second value).run between).trace = []) :
    requests ((first >>= second).run source).trace = requests (first.run source).trace := by
  match ran : first.run source with
  | ⟨.error fault, trace, between⟩ => rw [Activity.run_bind_error ran]
  | ⟨.ok value, trace, between⟩ =>
    rw [Activity.run_bind_ok ran, Outcome.trace_after, requests_append, silent, List.append_nil]

section Loops

variable (source : Source)

/-- To read a marker is one loop of requests. -/
theorem requests_readMarker :
    requests (readMarker.run source).trace = (Stage.mk .marker source).asked := by
  calc requests (readMarker.run source).trace
    _ = requests ((receive (.integer Marker.size) Marker.size).run source).trace :=
      requests_bind_of_silent fun _ _ => rfl
    _ = (Stage.mk .marker source).asked := congrArg requests (trace_receive _ _ source)

/-- To accept a payload is one loop of requests. -/
theorem requests_acceptPayload (marker : Marker) :
    requests ((acceptPayload marker).run source).trace =
      (Stage.mk (.payload marker.length) source).asked := by
  calc requests ((acceptPayload marker).run source).trace
    _ = requests ((receive (.integer marker.length) marker.length).run source).trace :=
      requests_bind_of_silent fun _ _ => rfl
    _ = (Stage.mk (.payload marker.length) source).asked :=
      congrArg requests (trace_receive _ _ source)

theorem requests_readAway (length : Value) (count : Nat) :
    requests ((readAway length count).run source).trace =
      (Stage.mk (.discard count) source).asked := by
  have silent : ∀ notice, requests [.notice notice] = [] := fun _ => rfl
  simp only [readAway]
  split
  · rfl
  · rw [requests_append, silent, List.append_nil]
    rfl
  · split
    · rw [requests_append, silent, List.append_nil]
      rfl
    · rfl

/-- To refuse a payload is one loop of requests. -/
theorem requests_refusePayload (limit : Value) (marker : Marker) :
    requests ((refusePayload limit marker).run source).trace =
      (Stage.mk (.discard marker.length) source).asked := by
  have noted : (Activity.note (.discarding marker.length limit)).run source =
      ⟨.ok (), [.notice (.discarding marker.length limit)], source⟩ := rfl
  rw [refusePayload, Activity.run_bind_ok noted, Outcome.trace_after, requests_append]
  calc requests [.notice (.discarding marker.length limit)] ++ _
    _ = requests ((readAway (.integer marker.length) marker.length).run source).trace :=
      requests_bind_of_silent fun _ _ => rfl
    _ = (Stage.mk (.discard marker.length) source).asked := requests_readAway source _ _

variable {limit : Value} {marker : Marker}

/-- What is read behind a marker is read in one loop of requests. -/
theorem requests_readPayload {purpose : Purpose}
    (behind : Purpose.behind? limit marker = some purpose) :
    requests ((readPayload limit marker).run source).trace = (Stage.mk purpose source).asked := by
  obtain ⟨positive, ⟨rfl, clear⟩ | ⟨rfl, reached⟩⟩ := Purpose.behind_cases behind
  · have accepts : readPayload limit marker = acceptPayload marker := by
      rw [readPayload, if_neg (Nat.not_lt.2 positive), clear]
    rw [accepts]
    exact requests_acceptPayload source marker
  · have refuses : readPayload limit marker = refusePayload limit marker := by
      rw [readPayload, if_neg (Nat.not_lt.2 positive), reached]
    rw [refuses]
    exact requests_refusePayload source limit marker

/-- Behind any other marker nothing is read, and the reader fails. -/
theorem readPayload_of_nothing_behind (behind : Purpose.behind? limit marker = none) :
    ∃ fault trace, (readPayload limit marker).run source = ⟨.error fault, trace, source⟩ ∧
      requests trace = [] := by
  unfold Purpose.behind? at behind
  unfold readPayload
  by_cases empty : marker.length < 1
  · rw [if_pos empty]
    exact ⟨_, _, rfl, rfl⟩
  · rw [if_neg empty] at behind ⊢
    match reached : limit.isReachedBy marker.length with
    | .error fault => exact ⟨_, _, rfl, rfl⟩
    | .ok true =>
      rw [reached] at behind
      cases behind
    | .ok false =>
      rw [reached] at behind
      cases behind

end Loops

/-- The loops of a record make all the requests that its reader makes. -/
theorem requests_readOn (limit : Value) (pieces : List Octets) (source : Source) :
    requests ((readOn limit pieces).run source).trace =
      (stages limit source).flatMap Stage.asked := by
  -- The induction is on the loops, so it meets every marker once, whatever was collected before.
  fun_induction stages limit source generalizing pieces with
  | case1 source fault trace rest announced =>
    rw [readOn_eq, Activity.run_bind_error announced, List.flatMap_singleton,
      ← requests_readMarker, announced]
  | case2 source marker trace between announced nothing =>
    obtain ⟨fault, later, refused, silent⟩ := readPayload_of_nothing_behind between nothing
    rw [readOn_eq, Activity.run_bind_ok announced, Activity.run_bind_error refused,
      List.flatMap_singleton, ← requests_readMarker, announced, Outcome.trace_after,
      requests_append, silent, List.append_nil]
  | case3 source marker trace between announced purpose behind fault later rest read =>
    rw [readOn_eq, Activity.run_bind_ok announced, Activity.run_bind_error read]
    simp only [List.flatMap_cons, List.flatMap_nil, List.append_nil, ← requests_readMarker,
      ← requests_readPayload between behind, announced, read, Outcome.trace_after, requests_append]
  | case4 source marker trace between announced purpose behind payload later rest read
      inductionHypothesis =>
    have front : requests trace ++ requests later =
        (Stage.mk .marker source).asked ++ (Stage.mk purpose between).asked := by
      rw [← requests_readMarker, ← requests_readPayload between behind, announced, read]
    rw [readOn_eq, Activity.run_bind_ok announced, Activity.run_bind_ok read, Outcome.after_after,
      Outcome.trace_after, requests_append, requests_append, front, List.flatMap_cons,
      List.flatMap_cons, List.append_assoc]
    by_cases last : marker.last = true
    · rw [if_pos last, if_pos last]
      rfl
    · rw [if_neg last, if_neg last, inductionHypothesis]

/-- Every loop reads a marker or what stands behind one. -/
theorem purpose_of_mem_stages {limit : Value} {source : Source} {stage : Stage}
    (among : stage ∈ stages limit source) :
    stage.purpose = .marker ∨
      ∃ marker, Purpose.behind? limit marker = some stage.purpose := by
  fun_induction stages limit source with
  | case1 | case2 =>
    rw [List.mem_singleton.1 among]
    exact .inl rfl
  | case3 source marker trace between announced purpose behind =>
    rcases List.mem_pair.1 among with rfl | rfl
    · exact .inl rfl
    · exact .inr ⟨marker, behind⟩
  | case4 source marker trace between announced purpose behind payload later rest read
      inductionHypothesis =>
    rcases List.mem_cons.1 among with rfl | among
    · exact .inl rfl
    · rcases List.mem_cons.1 among with rfl | among
      · exact .inr ⟨marker, behind⟩
      · by_cases last : marker.last = true
        · rw [if_pos last] at among
          cases among
        · rw [if_neg last] at among
          exact inductionHypothesis among

/-- There is always something to be read in a loop. -/
theorem one_le_size_of_mem_stages {limit : Value} {source : Source} {stage : Stage}
    (among : stage ∈ stages limit source) : 1 ≤ stage.purpose.size := by
  rcases purpose_of_mem_stages among with marker | ⟨marker, behind⟩
  · rw [marker]
    decide
  · obtain ⟨positive, ⟨same, _⟩ | ⟨same, _⟩⟩ := Purpose.behind_cases behind
    · rwa [same]
    · rwa [same]

/-- Every request is for something, and for no more than the limit allows. -/
theorem allows_of_mem_asked {limit : Value} {source : Source} {stage : Stage}
    (among : stage ∈ stages limit source) {count : Nat} (asked : count ∈ stage.asked) :
    1 ≤ count ∧ stage.purpose.Allows limit count := by
  obtain ⟨left, positive, missing, rfl⟩ := exists_missing_of_request asked
  obtain ⟨purpose, between⟩ := stage
  rcases purpose_of_mem_stages among with marker | ⟨marker, behind⟩
  · obtain rfl : purpose = .marker := marker
    exact ⟨positive, missing⟩
  · obtain ⟨_, ⟨same, clear⟩ | ⟨same, reached⟩⟩ := Purpose.behind_cases behind
    · obtain rfl : purpose = .payload marker.length := same
      have below := Value.not_isReachedBy_of_le clear missing
      exact ⟨positive, missing, clear, below,
        fun bound integral => Value.lt_of_not_isReachedBy integral below⟩
    · obtain rfl : purpose = .discard marker.length := same
      have part : min drainPortion left ≤ left := Nat.min_le_right _ _
      have portioned : min drainPortion left ≤ 8192 := Nat.min_le_left _ _
      exact ⟨Nat.le_min.2 ⟨by decide, positive⟩, Nat.le_trans part missing, reached, portioned⟩

/-- The source answers these requests with octets, and without any at most the last of them. -/
def DeliversUntilLast (source : Source) (asked : List Nat) : Prop :=
  ∃ parts ending, (source.converse asked).1 = deliveries parts ++ Ending.answers ending ∧
    ∀ part ∈ parts, part ≠ []

section Answers

variable {source between : Source} {earlier later : List Nat} {parts : List Octets}

/-- The answers to one loop of requests. -/
theorem deliversUntilLast_asked (stage : Stage) : DeliversUntilLast stage.source stage.asked := by
  obtain ⟨parts, conversed, _, filled⟩ :=
    converse_pull stage.purpose.portion stage.purpose.size stage.source
  exact ⟨parts, _, congrArg Prod.fst conversed, filled⟩

/-- Behind answers that all had octets, the last one is that to the last of the later requests. -/
theorem DeliversUntilLast.behind (delivered : source.converse earlier = (deliveries parts, between))
    (filled : ∀ part ∈ parts, part ≠ []) (continued : DeliversUntilLast between later) :
    DeliversUntilLast source (earlier ++ later) := by
  obtain ⟨others, ending, answered, othersFilled⟩ := continued
  refine ⟨parts ++ others, ending, ?_, ?_⟩
  · rw [converse_append, delivered, answered]
    simp [deliveries]
  · intro part among
    cases List.mem_append.1 among with
    | inl before => exact filled part before
    | inr behind => exact othersFilled part behind

/-- While an activity that hears its source succeeds, the source answers with octets only. -/
theorem exists_deliveries_of_ok {Result : Type} {activity : Activity Source Result}
    (attends : Attends activity) {value : Result} {trace : List Event}
    (ran : activity.run source = ⟨.ok value, trace, between⟩) :
    ∃ parts, source.converse (requests trace) = (deliveries parts, between) ∧
      ∀ part ∈ parts, part ≠ [] := by
  obtain ⟨parts, ending, hears⟩ := attends source
  rw [ran] at hears
  obtain ⟨rfl, undiscarded, left⟩ := hears.succeeded value rfl
  have answered := hears.answers
  rw [intake_eq_requests undiscarded, Ending.answers, List.append_nil] at answered
  exact ⟨parts, Prod.ext answered left, hears.filled⟩

theorem length_converse (asked : List Nat) (source : Source) :
    (source.converse asked).1.length = asked.length := by
  induction asked generalizing source with
  | nil => rfl
  | cons count later inductionHypothesis => exact congrArg (· + 1) (inductionHypothesis _)

/-- An answer without octets is the last one. -/
theorem DeliversUntilLast.eq_nil {count : Nat}
    (delivers : DeliversUntilLast source (earlier ++ count :: later))
    (barren : ((source.converse earlier).2.read count).1 = .ok [] ∨
      ∃ fault, ((source.converse earlier).2.read count).1 = .error fault) : later = [] := by
  obtain ⟨parts, ending, answered, filled⟩ := delivers
  by_contra more
  have positive : 1 ≤ later.length := List.length_pos_iff.2 more
  have counted := congrArg List.length answered
  rw [length_converse, List.length_append, List.length_append, List.length_cons] at counted
  have one : ending.answers.length ≤ 1 := by cases ending <;> simp [Ending.answers]
  -- The answer to the request stands before the last one, where all deliver octets.
  have early : earlier.length < (deliveries parts).length := by omega
  have found := congrArg (·[earlier.length]?) answered
  simp only [converse_append, converse] at found
  rw [List.getElem?_append_left early,
    List.getElem?_append_right (Nat.le_of_eq (length_converse _ _)), length_converse, Nat.sub_self,
    List.getElem?_cons_zero] at found
  obtain ⟨part, among, same⟩ := List.mem_map.1 (List.mem_of_getElem? found.symm)
  rcases barren with ended | ⟨fault, failed⟩
  · rw [ended] at same
    exact filled part among (Except.ok.inj same)
  · rw [failed] at same
    cases same

/-- Every request but the last one delivers at least one octet. -/
theorem DeliversUntilLast.length_le {asked : List Nat} (delivers : DeliversUntilLast source asked) :
    asked.length ≤ (received (source.converse asked).1).length + 1 := by
  obtain ⟨parts, ending, answered, filled⟩ := delivers
  have counted := congrArg List.length answered
  rw [length_converse, List.length_append, deliveries, List.length_map] at counted
  have one : ending.answers.length ≤ 1 := by cases ending <;> simp [Ending.answers]
  have parted : (parts.map List.length).length ≤ (parts.map List.length).sum := by
    refine List.length_le_sum_of_one_le _ ?_
    intro size among
    obtain ⟨part, listed, rfl⟩ := List.mem_map.1 among
    exact List.length_pos_iff.2 (filled part listed)
  rw [List.length_map] at parted
  rw [answered, received_deliveries_append, List.length_flatten]
  omega

end Answers

/-- All the loops of a record together are answered with octets until the last of their requests. -/
theorem deliversUntilLast_stages (limit : Value) (source : Source) :
    DeliversUntilLast source ((stages limit source).flatMap Stage.asked) := by
  fun_induction stages limit source with
  | case1 source | case2 source =>
    rw [List.flatMap_singleton]
    exact deliversUntilLast_asked ⟨.marker, source⟩
  | case3 source marker trace between announced purpose behind =>
    obtain ⟨parts, delivered, filled⟩ := exists_deliveries_of_ok attends_readMarker announced
    have asked := requests_readMarker source
    rw [announced] at asked
    rw [List.flatMap_cons, List.flatMap_singleton, ← asked]
    exact .behind delivered filled (deliversUntilLast_asked ⟨purpose, between⟩)
  | case4 source marker trace between announced purpose behind payload later rest read
      inductionHypothesis =>
    obtain ⟨parts, delivered, filled⟩ := exists_deliveries_of_ok attends_readMarker announced
    obtain ⟨others, payloadDelivered, payloadFilled⟩ :=
      exists_deliveries_of_ok (attends_readPayload limit marker) read
    have asked := requests_readMarker source
    have payloadAsked := requests_readPayload between behind
    rw [announced] at asked
    rw [read] at payloadAsked
    rw [List.flatMap_cons, List.flatMap_cons, ← asked, ← payloadAsked]
    refine .behind delivered filled (.behind payloadDelivered payloadFilled ?_)
    by_cases last : marker.last = true
    · rw [if_pos last]
      exact ⟨[], .complete, rfl, by simp⟩
    · rw [if_neg last]
      exact inductionHypothesis

/-- Requests that a reader may make under a limit, in the loops of a record. -/
structure Restrained (limit : Value) (source : Source) (asked : List Nat) : Prop where
  /-- They are those of the loops. -/
  looped : asked = (stages limit source).flatMap Stage.asked
  /-- Each of them is for something, and for no more than its loop allows. -/
  allowed : ∀ stage ∈ stages limit source, ∀ count ∈ stage.asked,
    1 ≤ count ∧ stage.purpose.Allows limit count
  /-- None follows one that was answered with no octets or with a failure. -/
  barren : ∀ earlier count later, asked = earlier ++ count :: later →
    (((source.converse earlier).2.read count).1 = .ok [] ∨
      ∃ fault, ((source.converse earlier).2.read count).1 = .error fault) → later = []
  /-- There is at most one more than octets are received. -/
  few : asked.length ≤ (received (source.converse asked).1).length + 1
  /-- There are no more loops than requests. -/
  rounds : (stages limit source).length ≤ asked.length
  /-- A source that holds so many octets is not asked more often than that, but for the end. -/
  finite : asked.length ≤ source.unread + 1

/-- The requests of the loops of a record are restrained. -/
theorem restrained_stages (limit : Value) (source : Source) :
    Restrained limit source ((stages limit source).flatMap Stage.asked) := by
  have delivers := deliversUntilLast_stages limit source
  have few := delivers.length_le
  refine ⟨rfl, ?_, ?_, few, ?_, ?_⟩
  · intro stage among count asked
    exact allows_of_mem_asked among asked
  · intro earlier count later split barren
    rw [split] at delivers
    exact delivers.eq_nil barren
  · have counted : ((stages limit source).map fun stage => stage.asked.length).length ≤
        ((stages limit source).map fun stage => stage.asked.length).sum := by
      refine List.length_le_sum_of_one_le _ ?_
      intro size among
      obtain ⟨stage, listed, rfl⟩ := List.mem_map.1 among
      exact List.length_pos_iff.2 (requests_pull_ne_nil (one_le_size_of_mem_stages listed))
    rwa [List.length_map, ← List.length_flatMap] at counted
  · have held := congrArg List.length
      (octets_converse ((stages limit source).flatMap Stage.asked) source)
    rw [List.length_append] at held
    rw [unread]
    omega

end Source

/-- What a reader asks for is always something, no more than a marker, an accepted fragment or a
portion to be read away has, and nothing any more once the source has delivered nothing or failed.
Reading a record is at most one request more than there are octets, whatever the source does, and a
step of an iterator asks for the same. -/
theorem requests_are_bounded (limit : Value) (source : Source) :
    Source.Restrained limit source
        (Source.requests ((Source.readRecord limit).run source).trace) ∧
      Source.Restrained limit source
        (Source.requests ((Source.nextRecord limit).run source).trace) := by
  have asked : Source.requests ((Source.readRecord limit).run source).trace =
      (source.stages limit).flatMap Stage.asked := Source.requests_readOn limit [] source
  rw [(Source.agrees limit source).asked, asked]
  exact ⟨Source.restrained_stages limit source, Source.restrained_stages limit source⟩

/-- An accepted fragment is delivered with an octet too many, and the connection is reset while the
next one is read away. -/
example :
    let reset : Fault := .reported (.system .connectionReset) []
    let source : Source := [.data [0, 0], .data [0, 2], .surplus [97, 98, 99],
      .data [128, 0, 0, 20], .data [1], .fault reset]
    ((Source.stages (.integer 16) source).map fun stage => (stage.purpose, stage.asked)) =
      [(.marker, [4, 2]), (.payload 2, [2]), (.marker, [4]), (.discard 20, [20, 19])] := by
  decide +kernel

end RecordMarking
