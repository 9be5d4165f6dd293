import RecordMarking.Reader
import RecordMarking.Writer

/-!
# Connections in both directions

A duplex is what one end of a connection works with: the source it reads from and the sink it
writes to. Reading leaves the sink alone and writing leaves the source alone.
-/

namespace RecordMarking

/-- The two directions of a connection. -/
structure Duplex where
  input : Source
  output : Sink
deriving DecidableEq, Repr

namespace Duplex

variable {Result : Type}

/-- Work on what comes in. -/
def receiving (activity : Activity Source Result) : Activity Duplex Result :=
  activity.within input fun input duplex => { duplex with input }

/-- Work on what goes out. -/
def sending (activity : Activity Sink Result) : Activity Duplex Result :=
  activity.within output fun output duplex => { duplex with output }

/-- Reading takes place on the source alone. -/
theorem run_receiving (activity : Activity Source Result) (duplex : Duplex) :
    (receiving activity).run duplex =
      ⟨(activity.run duplex.input).result, (activity.run duplex.input).trace,
        (activity.run duplex.input).state, duplex.output⟩ := rfl

/-- Writing takes place on the sink alone. -/
theorem run_sending (activity : Activity Sink Result) (duplex : Duplex) :
    (sending activity).run duplex =
      ⟨(activity.run duplex.output).result, (activity.run duplex.output).trace,
        duplex.input, (activity.run duplex.output).state⟩ := rfl

end Duplex

end RecordMarking
