import RecordMarking.Reader
import RecordMarking.Writer
import RecordMarking.Registry

/-!
# Sessions

In a session several consumers work on the same streams: readers, whose limit may be changed
at any time, iterators, and single reading and writing operations. Sources and sinks go by
name; work with a stream that is not there fails where it first uses the stream. An iterator
belongs to the reader it was created from, not to the reader's name, and asks for the limit of
that reader afresh at every step. Once it has ended, failed or been closed it never touches its
source again.
-/

namespace RecordMarking

/-- An iterator over the records of a source, with the limit of a numbered reader. -/
structure RecordIterator where
  reader : Nat
  source : String
  finished : Bool
deriving DecidableEq, Repr

/-- The state of a session. Readers are numbered in order of creation, and `limits` lists the
limit of each. -/
structure Session where
  sources : Registry Source
  sinks : Registry Sink
  limits : List Value
  readers : Registry Nat
  iterators : Registry RecordIterator
deriving DecidableEq, Repr

/-- Where a new iterator takes its limit from. -/
inductive LimitSource where
  /-- A reader of the session. -/
  | reader (name : String)
  /-- A limit of its own. -/
  | own (limit : Value)
deriving DecidableEq, Repr

/-- One operation of a session. -/
inductive Command where
  | readRecord (source : String) (limit : Value)
  | createReader (name : String) (limit : Value)
  | read (reader source : String)
  | setLimit (reader : String) (limit : Value)
  | createIterator (name source : String) (limit : LimitSource)
  | next (iterator : String)
  | remaining (iterator : String)
  | close (iterator : String)
  | readMarker (source : String)
  | readExactly (source : String) (size : Value)
  | drain (source : String) (length : Value)
  | feed (source : String) (segments : List Segment)
  | writeMarker (sink : String) (length : Value) (last : Bool)
  | writeAll (sink : String) (octets : Octets)
  | writeReply (sink : String) (record : Octets)
  | writeRecord (sink : String) (record : Octets) (fragmentSize : Value)
  /-- Move what a sink has accepted into a source, in slices if a size is given. -/
  | pipe (sink source : String) (slice : Option Nat)
deriving DecidableEq, Repr

/-- What an operation of a session returns. -/
inductive Reply where
  | done
  | octets (octets : Octets)
  | records (records : List Octets)
  | marker (marker : Marker)
  | limit (limit : Value)
  | drained (count : Nat) (obstacle : Option Fault)
deriving DecidableEq, Repr

/-- The segments that deliver octets, in slices if a size is given. Without octets there is
nothing to deliver, not even the end of the stream. -/
def Segment.deliver (slice : Option Nat) (octets : Octets) : List Segment :=
  (octets.slices (slice.getD octets.length)).map .data

namespace Session

/-- A session on named streams, without readers and iterators. -/
def start (sources : Registry Source) (sinks : Registry Sink) : Session :=
  ⟨sources, sinks, [], [], []⟩

/-- A source in place of one that is not there: reading from it fails. -/
def missingSource : Source :=
  [.fault (.missingStream .read)]

/-- A sink in place of one that is not there: writing to it fails. -/
def missingSink : Sink :=
  .ofAnswers [.fault (.missingStream .write)]

/-- Work on the source of a name. If there is none, the work goes as far as its first read, of which
nothing is observed. -/
def onSource {Result : Type} (name : String) (activity : Activity Source Result) :
    Activity Session Result where
  run session :=
    match session.sources.find? name with
    | some source =>
      let outcome := activity.run source
      ⟨outcome.result, outcome.trace,
        { session with sources := session.sources.assign name outcome.state }⟩
    | none => ⟨(activity.run missingSource).result, [], session⟩

/-- Work on the sink of a name. If there is none, the work goes as far as its first write, of which
nothing is observed. -/
def onSink {Result : Type} (name : String) (activity : Activity Sink Result) :
    Activity Session Result where
  run session :=
    match session.sinks.find? name with
    | some sink =>
      let outcome := activity.run sink
      ⟨outcome.result, outcome.trace,
        { session with sinks := session.sinks.assign name outcome.state }⟩
    | none => ⟨(activity.run missingSink).result, [], session⟩

/-- Make sure that there is a stream of a name, before it is used in a way of its own. -/
def requireStream {Stream : Type} (name : String) (streams : Session → Registry Stream)
    (use : StreamUse) : Activity Session Unit := do
  match (streams (← .get)).find? name with
  | some _ => pure ()
  | none => .fail (.missingStream use)

/-- Put more behind what the source of a name holds. -/
def extendSource (name : String) (segments : List Segment) : Activity Session Unit := do
  requireStream name sources .extend
  onSource name ⟨fun source => ⟨.ok (), [], source ++ segments⟩⟩

/-- Take away what the sink of a name has accepted. -/
def collectSink (name : String) : Activity Session Octets := do
  requireStream name sinks .collect
  onSink name ⟨fun sink => ⟨.ok sink.accepted, [], { sink with taken := [] }⟩⟩

/-- The entry under a name. A name that was never used is a fault. -/
def entry {Entry : Type} (name : String) (registry : Session → Registry Entry) :
    Activity Session Entry := do
  match (registry (← .get)).find? name with
  | some entry => pure entry
  | none => .fail (.reported .missingKey [.text name])

/-- The limit of a numbered reader. -/
def limitOf (reader : Nat) : Activity Session Value := do
  pure ((← Activity.get).limits.getD reader (.integer defaultLimit))

/-- Create a reader. The result is its number. -/
def addReader (limit : Value) : Activity Session Nat := do
  let limit ← .conclude (checkLimit limit)
  let number := (← Activity.get).limits.length
  .modify fun session => { session with limits := session.limits ++ [.integer limit] }
  pure number

/-- Mark an iterator as finished. -/
def finishIterator (name : String) (iterator : RecordIterator) : Activity Session Unit :=
  .modify fun session =>
    { session with iterators := session.iterators.assign name { iterator with finished := true } }

/-- Run an activity, and finish an iterator should it fail. -/
def finishOnFault {Result : Type} (name : String) (iterator : RecordIterator)
    (activity : Activity Session Result) : Activity Session Result where
  run session :=
    match activity.run session with
    | ⟨.ok value, trace, next⟩ => ⟨.ok value, trace, next⟩
    | ⟨.error fault, trace, next⟩ =>
      ((finishIterator name iterator >>= fun _ => .fail fault).run next).after trace

/-- One step of an iterator. -/
def nextOf (name : String) : Activity Session Octets := do
  let iterator ← entry name iterators
  if iterator.finished then .fail .exhausted
  else
    let limit ← limitOf iterator.reader
    match ← finishOnFault name iterator (onSource iterator.source (Source.nextRecord limit)) with
    | some record => pure record
    | none =>
      finishIterator name iterator
      .fail .exhausted

/-- All steps of an iterator until it ends. -/
def remainingOf (name : String) : Activity Session (List Octets) := do
  let iterator ← entry name iterators
  if iterator.finished then pure []
  else
    let limit ← limitOf iterator.reader
    let records ← finishOnFault name iterator (onSource iterator.source ⟨Source.readAll limit⟩)
    finishIterator name iterator
    pure records

/-- Perform one operation. -/
def perform : Command → Activity Session Reply
  | .readRecord source limit => do
    let limit ← .conclude (checkLimit limit)
    .octets <$> onSource source (Source.readRecord (.integer limit))
  | .createReader name limit => do
    let number ← addReader limit
    .modify fun session => { session with readers := session.readers.assign name number }
    .limit <$> limitOf number
  | .read reader source => do
    let number ← entry reader readers
    let limit ← limitOf number
    .octets <$> onSource source (Source.readRecord limit)
  | .setLimit reader limit => do
    let number ← entry reader readers
    .modify fun session => { session with limits := session.limits.set number limit }
    pure .done
  | .createIterator name source limit => do
    let number ← match limit with
      | .reader reader => entry reader readers
      | .own limit => addReader limit
    .modify fun session =>
      { session with iterators := session.iterators.assign name ⟨number, source, false⟩ }
    pure .done
  | .next iterator => .octets <$> nextOf iterator
  | .remaining iterator => .records <$> remainingOf iterator
  | .close name => do
    let iterator ← entry name iterators
    finishIterator name iterator
    pure .done
  | .readMarker source => .marker <$> onSource source Source.readMarker
  | .readExactly source size => .octets <$> onSource source (Source.readExactly size)
  | .drain source length => do
    let (count, obstacle) ← onSource source (Source.drain length)
    pure (.drained count obstacle)
  | .feed source segments => do
    extendSource source segments
    pure .done
  | .writeMarker sink length last => do
    onSink sink (Sink.writeMarker length last)
    pure .done
  | .writeAll sink octets => do
    onSink sink (Sink.writeAll octets)
    pure .done
  | .writeReply sink record => do
    onSink sink (Sink.writeReply record)
    pure .done
  | .writeRecord sink record fragmentSize => do
    onSink sink (Sink.writeRecord record fragmentSize)
    pure .done
  | .pipe sink source slice => do
    let taken ← collectSink sink
    extendSource source (Segment.deliver slice taken)
    pure (.octets taken)

end Session

end RecordMarking
