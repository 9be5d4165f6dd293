import RecordMarking.Activity

/-!
# Sources

A source is an input stream seen from the outside: the list of what it will do when it is
read. It may deliver fewer octets than it is asked for, report its end and deliver more
later, fail, or deliver more than it is asked for.

`Source.pull` is the one loop of all reading: it asks for what is missing until nothing is,
the source ends, or the source fails. `Source.unread_pull` says that what was pulled and what
is left are together what there was.
-/

namespace RecordMarking

/-- What a source does at one of its reads. -/
inductive Segment where
  /-- Deliver the octets, at most as many as asked for at a time. An empty segment reports the
  end of the stream once. -/
  | data (octets : Octets)
  /-- Deliver all octets at once, however few were asked for. -/
  | surplus (octets : Octets)
  /-- Fail. -/
  | fault (fault : Fault)
deriving DecidableEq, Repr

/-- An input stream: what it does, in order. After the last segment it has ended. -/
abbrev Source := List Segment

/-- The octets that a segment holds. -/
def Segment.octets : Segment → Octets
  | .data octets | .surplus octets => octets
  | .fault _ => []

namespace Source

/-- The octets that a source still holds. -/
def octets (source : Source) : Octets :=
  source.flatMap Segment.octets

/-- The number of octets that a source still holds. -/
def unread (source : Source) : Nat :=
  source.octets.length

/-- One read of up to `count` octets. No octets means that the source reports its end. -/
def read (count : Nat) : Source → Except Fault Octets × Source
  | [] => (.ok [], [])
  | .data octets :: rest =>
    if (octets.drop count).isEmpty then (.ok octets, rest)
    else (.ok (octets.take count), .data (octets.drop count) :: rest)
  | .surplus octets :: rest => (.ok octets, rest)
  | .fault fault :: rest => (.error fault, rest)

@[simp] theorem unread_cons (segment : Segment) (rest : Source) :
    unread (segment :: rest) = segment.octets.length + unread rest := by
  simp [unread, octets]

/-- What a read delivers and what it leaves are together what there was. -/
theorem unread_read_ok {count : Nat} {source rest : Source} {delivered : Octets}
    (read : source.read count = (.ok delivered, rest)) :
    delivered.length + rest.unread = source.unread := by
  match source with
  | [] =>
    simp only [Source.read, Prod.mk.injEq, Except.ok.injEq] at read
    simp [← read.1, ← read.2]
  | .data octets :: more =>
    simp only [Source.read] at read
    split at read
    · simp only [Prod.mk.injEq, Except.ok.injEq] at read
      obtain ⟨rfl, rfl⟩ := read
      simp [Segment.octets]
    · simp only [Prod.mk.injEq, Except.ok.injEq] at read
      obtain ⟨rfl, rfl⟩ := read
      simp only [unread_cons, Segment.octets, List.length_take, List.length_drop]
      omega
  | .surplus octets :: more =>
    simp only [Source.read, Prod.mk.injEq, Except.ok.injEq] at read
    simp [← read.1, ← read.2, Segment.octets]
  | .fault fault :: more => simp [Source.read] at read

/-- A read that fails takes nothing away. -/
theorem unread_read_error {count : Nat} {source rest : Source} {fault : Fault}
    (read : source.read count = (.error fault, rest)) : rest.unread = source.unread := by
  match source with
  | [] => simp [Source.read] at read
  | .data octets :: more =>
    simp only [Source.read] at read
    split at read <;> simp at read
  | .surplus octets :: more => simp [Source.read] at read
  | .fault first :: more =>
    simp only [Source.read, Prod.mk.injEq] at read
    simp [← read.2, Segment.octets]

end Source

/-- How a pull ended. -/
inductive Ending where
  /-- Nothing is missing any more. -/
  | complete
  /-- The source reported its end. -/
  | exhausted
  /-- The source failed. -/
  | failed (fault : Fault)
deriving DecidableEq, Repr

/-- A finished pull: the octets received, how it ended, the requests made, and the source
that is left. -/
structure Pull where
  octets : Octets
  ending : Ending
  trace : List Event
  rest : Source
deriving DecidableEq, Repr

namespace Source

/-- Ask for what is missing until nothing is. `portion` says how much of what is missing is
asked for at a time. -/
def pull (portion : Nat → Nat) (missing : Nat) (source : Source) : Pull :=
  if missing = 0 then ⟨[], .complete, [], source⟩
  else
    match source.read (portion missing) with
    | (.error fault, rest) => ⟨[], .failed fault, [.request (portion missing)], rest⟩
    | (.ok [], rest) => ⟨[], .exhausted, [.request (portion missing)], rest⟩
    | (.ok (octet :: more), rest) =>
      let later := pull portion (missing - (more.length + 1)) rest
      { later with
        octets := octet :: more ++ later.octets
        trace := .request (portion missing) :: later.trace }
termination_by missing

/-- What was pulled and what is left are together what there was. -/
theorem unread_pull (portion : Nat → Nat) (missing : Nat) (source : Source) :
    (source.pull portion missing).octets.length + (source.pull portion missing).rest.unread =
      source.unread := by
  fun_induction pull portion missing source with
  | case1 source => simp
  | case2 missing source _ fault rest read => simpa using unread_read_error read
  | case3 missing source _ rest read => simpa using unread_read_ok read
  | case4 missing source _ octet more rest read later inductionHypothesis =>
    have delivered := unread_read_ok read
    simp only [later, List.length_cons, List.length_append, List.cons_append] at delivered ⊢
    omega

/-- A complete pull received at least what was missing. -/
theorem le_length_octets_pull {portion : Nat → Nat} {missing : Nat} {source : Source}
    (complete : (source.pull portion missing).ending = .complete) :
    missing ≤ (source.pull portion missing).octets.length := by
  fun_induction pull portion missing source with
  | case1 source => simp
  | case2 | case3 => simp at complete
  | case4 missing source _ octet more rest read later inductionHypothesis =>
    have received := inductionHypothesis complete
    simp only [later, List.length_cons, List.length_append, List.cons_append]
    omega

end Source

end RecordMarking
