import RecordMarking.Framing
import RecordMarking.Sink

/-!
# Writing records

A record is written in one of two ways: `writeReply` puts it into a single fragment, marker
and payload in two writes; `writeRecord` cuts it into fragments and offers them in one write.
Either way arguments are checked before anything is written, and a sink that reports fewer
octets than it was offered is a fault.
-/

namespace RecordMarking.Sink

/-- Write all octets, in one write. A sink that returns nothing is taken at its word. -/
def writeAll (octets : Octets) : Activity Sink Unit := do
  match ← write octets with
  | none => pure ()
  | some count =>
    if count = octets.length then pure ()
    else .fail (.shortWrite (.integer count) (.integer octets.length))

/-- Write the marker for a length. -/
def writeMarker (length : Value) (last : Bool) : Activity Sink Unit := do
  let word ← .conclude (Marker.encode length last)
  let octets ← .conclude (Marker.wordOctets word)
  writeAll octets

/-- The marker written for an integer is the one that is announced for it. -/
theorem writeMarker_integer (length : Int) (last : Bool) :
    writeMarker (.integer length) last =
      (do
        let marker ← .conclude (Marker.announce length last)
        writeAll marker.octets) := by
  ext sink
  simp only [writeMarker, Marker.encode_integer]
  cases Marker.announce length last <;> rfl

/-- Write a record in a single fragment, whatever its size. -/
def writeReply (record : Octets) : Activity Sink Unit := do
  writeMarker (.integer record.length) true
  writeAll record
  .note (.replyWritten record.length)

/-- Write a record in fragments of the given size. -/
def writeRecord (record : Octets) (fragmentSize : Value) : Activity Sink Unit := do
  let framed ← .conclude (frame record fragmentSize)
  writeAll framed
  .note (.recordWritten record.length)

end RecordMarking.Sink
