import RecordMarking.Activity

/-!
# Sinks

A sink is an output stream seen from the outside: how it will answer each of its next writes,
and the octets it has accepted so far. A write either takes everything, takes a part and says
how much, or fails and takes nothing. `accepted_write` says that what is taken comes behind what
was accepted before.
-/

namespace RecordMarking

/-- How a sink answers a write. -/
inductive Acceptance where
  /-- Take everything and return how much that is. -/
  | full
  /-- Take everything and return nothing. -/
  | silent
  /-- Return a count and take that many octets, as far as there are so many. -/
  | count (count : Int)
  /-- Fail and take nothing. -/
  | fault (fault : Fault)
deriving DecidableEq, Repr

/-- An output stream: its next answers, after which it takes everything, and the pieces that it
has taken, latest first. -/
structure Sink where
  answers : List Acceptance
  taken : List Octets
deriving DecidableEq, Repr

namespace Sink

/-- A sink that answers as listed and has accepted nothing. -/
def ofAnswers (answers : List Acceptance) : Sink := ⟨answers, []⟩

/-- The octets that a sink has accepted. -/
def accepted (sink : Sink) : Octets := sink.taken.reverse.flatten

/-- What one answer to a write takes, and what the write returns. -/
def answer (octets : Octets) : Acceptance → Octets × Except Fault (Option Int)
  | .full => (octets, .ok (some octets.length))
  | .silent => (octets, .ok none)
  | .count count => (octets.take count.toNat, .ok (some count))
  | .fault fault => ([], .error fault)

/-- One write. The result is what the sink returns. -/
def write (octets : Octets) : Activity Sink (Option Int) where
  run sink :=
    let (taken, returned) := answer octets (sink.answers.head?.getD .full)
    ⟨returned, [.offer octets], ⟨sink.answers.tail, taken :: sink.taken⟩⟩

/-- A write adds what is taken of the octets. -/
theorem accepted_write (octets : Octets) (sink : Sink) :
    ((write octets).run sink).state.accepted =
      sink.accepted ++ (answer octets (sink.answers.head?.getD .full)).1 := by
  simp [accepted, write]

/-- Ask the sink to pass on what it holds back. -/
def flush : Activity Sink Unit :=
  .emit .flush

/-- The same sink behind a writer that does not rest until everything is taken: only
failures are left of its answers. -/
def insistent (sink : Sink) : Sink :=
  { sink with
    answers := sink.answers.map fun
      | .fault fault => .fault fault
      | _ => .full }

/-- Whatever the answer, the octets taken are a leading part of those offered. -/
theorem answer_take (octets : Octets) (acceptance : Acceptance) :
    (answer octets acceptance).1 = octets.take (answer octets acceptance).1.length := by
  cases acceptance with
  | full => simp [answer]
  | silent => simp [answer]
  | count count => simp [answer]
  | fault fault => simp [answer]

end Sink

end RecordMarking
