import RecordMarking.Value
import RecordMarking.Text.Utf8

/-!
# Faults

Every failure of the library is a value of `Fault`, given by what went wrong and not by its text.
Three questions about a fault decide how it travels: whether it violates the record marking
protocol, whether it is a failure of the system below a stream, and whether it is ordinary,
that is, whether a guard around foreign code contains it. `message` is the wording.

A fault may be raised from another one, which is then its cause. What a caller can ask of an
oversized fragment is `obstacle?`, what kept the rest of it on the stream, and
`streamStateUnknown`, whether there was such a thing.

Failures that come from outside, raised by a stream, a transport or a callback, are
`reported`: a broad kind with the arguments they were raised with.
-/

namespace RecordMarking

/-- What a failure of the system is about. -/
inductive SystemCondition where
  | unspecified
  | wouldBlock
  | brokenPipe
  | noChild
  | connectionAborted
  | connectionRefused
  | connectionReset
  | alreadyExists
  | missing
  | isDirectory
  | notDirectory
  | interrupted
  | forbidden
  | noProcess
  | timedOut
deriving DecidableEq, Repr

/-- The condition that a system error number stands for. -/
def SystemCondition.ofNumber (number : Int) : SystemCondition :=
  if number = 11 ∨ number = 114 ∨ number = 115 then .wouldBlock
  else if number = 32 ∨ number = 108 then .brokenPipe
  else if number = 10 then .noChild
  else if number = 103 then .connectionAborted
  else if number = 111 then .connectionRefused
  else if number = 104 then .connectionReset
  else if number = 17 then .alreadyExists
  else if number = 2 then .missing
  else if number = 21 then .isDirectory
  else if number = 20 then .notDirectory
  else if number = 4 then .interrupted
  else if number = 1 ∨ number = 13 then .forbidden
  else if number = 3 then .noProcess
  else if number = 110 then .timedOut
  else .unspecified

/-- The broad kind of a failure that foreign code reports. -/
inductive ReportKind where
  | general
  | recordMarking
  | protocolViolation
  | system (condition : SystemCondition)
  | invalidValue
  | misuse
  | notImplemented
  | endOfInput
  | missingKey
  | exhausted
  | interruption
  | exitRequest
  | abandonment
deriving DecidableEq, Repr

/-- A relation that an integer is tested for. -/
inductive Relation where
  | below
  | atMost
  | atLeast
deriving DecidableEq, Repr

/-- The sign of a relation. -/
def Relation.sign : Relation → String
  | .below => "<"
  | .atMost => "<="
  | .atLeast => ">="

/-- An operation that is done with an integer. -/
inductive Operation where
  | subtract
  | keepBits
  | addBits
deriving DecidableEq, Repr

/-- The sign of an operation. -/
def Operation.sign : Operation → String
  | .subtract => "-"
  | .keepBits => "&"
  | .addBits => "|="

/-- What the work with a stream asks of it. -/
inductive StreamUse where
  | read
  | write
  /-- More is put behind what it holds. -/
  | extend
  /-- What it has accepted is taken away. -/
  | collect
deriving DecidableEq, Repr

/-- The name of a use, as messages show it. -/
def StreamUse.name : StreamUse → String
  | .read => "read"
  | .write => "write"
  | .extend => "feed"
  | .collect => "pending"

/-- What went wrong. Numbers that foreign code may have put there are values. -/
inductive Fault where
  /-- A marker announced a fragment without octets. -/
  | zeroLengthFragment
  /-- A marker announced `length` octets where fewer than `limit` are accepted. Of the
  fragment `discarded` octets were read away, and nothing hindered that. -/
  | fragmentTooLarge (length limit discarded : Value)
  /-- The same, but `obstacle` ended the reading away after `discarded` octets. -/
  | fragmentUndrained (length limit discarded : Value) (obstacle : Fault)
  /-- The stream ended after `got` of `expected` octets. -/
  | shortRead (got expected : Value)
  /-- The stream accepted `written` of `expected` octets. -/
  | shortWrite (written expected : Value)
  /-- A marker cannot announce this number of octets. -/
  | lengthOutOfRange (length : Value)
  /-- A record without octets cannot be framed. -/
  | emptyRecord
  /-- Fragments of this size cannot be announced. -/
  | fragmentSizeOutOfRange (size : Value)
  /-- An integer was compared with a value of a type without numbers. -/
  | incomparable (relation : Relation) (typeName : String)
  /-- An operation with an integer is not defined on a value of this type. -/
  | inapplicable (operation : Operation) (typeName : String)
  /-- A value of this type stands where an integer is needed. -/
  | notInteger (typeName : String)
  /-- The word of a marker to be written is not an integer. -/
  | unwritableWord
  /-- There is no level of the log to write at. -/
  | missingLevel
  /-- The largest accepted record size has to be an integer above one. -/
  | invalidLimit (limit : Value)
  /-- A number that is no octet was received. -/
  | octetOutOfRange
  /-- A stream delivered a marker of more than four octets. -/
  | malformedMarker
  /-- A transport reported an address whose type has no length. -/
  | unsizedAddress (typeName : String)
  /-- There is no transport to write to. -/
  | notConnected
  /-- There is no stream of the name that was given. -/
  | missingStream (use : StreamUse)
  /-- A stream reported exhaustion while an iterator was reading from it. -/
  | exhaustedInside
  /-- A reply is not UTF-8 text. -/
  | undecodable (malformed : Text.Utf8.Malformed)
  /-- A failure of foreign code, with the arguments it was raised with. -/
  | reported (kind : ReportKind) (arguments : List Value)
  /-- A fault that was raised from another one. -/
  | raisedFrom (fault cause : Fault)
deriving DecidableEq, Repr

namespace Fault

/-- The fault of an iterator that has nothing more to give. -/
def exhausted : Fault := .reported .exhausted []

/-- The condition that the arguments of a system failure stand for: the one of the error number
in front, if two to five arguments are there. -/
def conditionOf (arguments : List Value) : SystemCondition :=
  if 2 ≤ arguments.length ∧ arguments.length ≤ 5 then
    match arguments.head? with
    | some (.integer number) => .ofNumber number
    | some (.truth number) => .ofNumber (if number then 1 else 0)
    | _ => .unspecified
  else .unspecified

/-- A failure that foreign code raises. A system failure without a condition of its own
takes the one that its error number stands for. -/
def report (kind : ReportKind) (arguments : List Value) : Fault :=
  match kind with
  | .system .unspecified => .reported (.system (conditionOf arguments)) arguments
  | kind => .reported kind arguments

/-- A fault as it is raised from another one, or from none. -/
def from? (fault : Fault) : Option Fault → Fault
  | none => fault
  | some cause => .raisedFrom fault cause

/-- The fault that a fault was raised from. -/
def cause? : Fault → Option Fault
  | .raisedFrom _ cause => some cause
  | _ => none

/-- What kept the rest of an oversized fragment from being read away. -/
def obstacle? : Fault → Option Fault
  | .fragmentUndrained _ _ _ obstacle => some obstacle
  | .raisedFrom fault _ => fault.obstacle?
  | _ => none

/-- Whether the fault leaves a stream at an unknown position: the rest of an oversized fragment is
still on it. -/
def streamStateUnknown (fault : Fault) : Bool :=
  fault.obstacle?.isSome

/-- Whether the fault violates the rules of record marking. -/
def isRecordMarking : Fault → Bool
  | .zeroLengthFragment | .fragmentTooLarge .. | .fragmentUndrained .. => true
  | .reported kind _ => kind == .recordMarking || kind == .protocolViolation
  | .raisedFrom fault _ => fault.isRecordMarking
  | _ => false

/-- Whether the fault says that the octets of a stream are not a sequence of fragments. -/
def isProtocolViolation : Fault → Bool
  | .zeroLengthFragment | .fragmentTooLarge .. | .fragmentUndrained .. => true
  | .reported kind _ => kind == .protocolViolation
  | .raisedFrom fault _ => fault.isProtocolViolation
  | _ => false

/-- Whether the fault is a failure of the system below a stream. -/
def isSystem : Fault → Bool
  | .shortRead .. | .shortWrite .. => true
  | .reported (.system _) _ => true
  | .raisedFrom fault _ => fault.isSystem
  | _ => false

/-- Whether the fault says that an argument has the right type and a value that will not do. -/
def isInvalidValue : Fault → Bool
  | .lengthOutOfRange _ | .emptyRecord | .fragmentSizeOutOfRange _ | .invalidLimit _
  | .octetOutOfRange | .undecodable _ => true
  | .reported kind _ => kind == .invalidValue
  | .raisedFrom fault _ => fault.isInvalidValue
  | _ => false

/-- Whether a guard around foreign code contains the fault. Interruptions, requests to exit
and abandonment pass through every guard. -/
def isOrdinary : Fault → Bool
  | .reported kind _ => kind != .interruption && kind != .exitRequest && kind != .abandonment
  | .raisedFrom fault _ => fault.isOrdinary
  | _ => true

/-- The files that a system failure is about, as its text shows them: the first, if there is
one, and then the second. Where a write would block, a number in place of the first is a count of
octets and no file. -/
def filesMessage (condition : SystemCondition) (first second : Value) : String :=
  match condition, first, second with
  | _, .absent, _ | .wouldBlock, .integer _, _ | .wouldBlock, .truth _, _ => ""
  | _, first, .absent => ": " ++ first.literal
  | _, first, second => ": " ++ first.literal ++ " -> " ++ second.literal

/-- The text of a system failure with a number, a reason and the files it is about. -/
def systemMessage (condition : SystemCondition) (number reason first second : Value) : String :=
  "[Errno " ++ number.display ++ "] " ++ reason.display ++ filesMessage condition first second

/-- The text of a failure raised by foreign code: nothing, the only argument, the details of a
system failure, or all arguments. -/
def reportMessage (kind : ReportKind) (arguments : List Value) : String :=
  match kind, arguments with
  | _, [] => ""
  | .missingKey, [argument] => argument.literal
  | _, [argument] => argument.display
  | .system condition, [number, reason] =>
    systemMessage condition number reason .absent .absent
  | .system condition, [number, reason, file] | .system condition, [number, reason, file, _] =>
    systemMessage condition number reason file .absent
  | .system condition, [number, reason, file, _, other] =>
    systemMessage condition number reason file other
  | _, arguments => Value.literal (.tuple arguments)

/-- The wording of a fault that shows a value at its end. A number with too many digits cannot be
shown, and then the wording is that of the attempt. -/
def showing (value : Value) (before shown : String) : String :=
  if value.isShowable then before ++ shown
  else
    "Exceeds the limit (4300 digits) for integer string conversion; " ++
      "use sys.set_int_max_str_digits() to increase the limit"

/-- The wording of a fault. -/
def message : Fault → String
  | .zeroLengthFragment => "fragment length must be at least one byte"
  | .fragmentTooLarge length limit _ => tooLarge length limit
  | .fragmentUndrained length limit discarded obstacle =>
    tooLarge length limit ++ "; discarded " ++ discarded.display ++ " of " ++
      length.display ++ " bytes before failing: " ++ obstacle.message
  | .shortRead got expected =>
    "short read: got " ++ got.display ++ ", expected " ++ expected.display
  | .shortWrite written expected =>
    "short write: wrote " ++ written.display ++ ", expected " ++ expected.display
  | .lengthOutOfRange length =>
    showing length "fragment length must be in the range 0..2147483647, got " length.display
  | .emptyRecord => "record must contain at least 1 byte"
  | .fragmentSizeOutOfRange size =>
    showing size "max_fragment_size must be in the range 1..2147483647, got " size.display
  | .incomparable relation typeName =>
    "'" ++ relation.sign ++ "' not supported between instances of 'int' and '" ++ typeName ++ "'"
  | .inapplicable operation typeName =>
    "unsupported operand type(s) for " ++ operation.sign ++ ": '" ++ typeName ++ "' and 'int'"
  | .notInteger typeName => "'" ++ typeName ++ "' object cannot be interpreted as an integer"
  | .unwritableWord => "required argument is not an integer"
  | .missingLevel => "'list' object has no attribute 'upper'"
  | .invalidLimit limit =>
    showing limit "max_record_size must be an integer greater than 1, got " limit.literal
  | .octetOutOfRange => "byte must be in range(0, 256)"
  | .malformedMarker => "unpack requires a buffer of 4 bytes"
  | .unsizedAddress typeName => "object of type '" ++ typeName ++ "' has no len()"
  | .notConnected => absent .write
  | .missingStream use => absent use
  | .exhaustedInside => "generator raised StopIteration"
  | .undecodable malformed => malformed.message
  | .reported kind arguments => reportMessage kind arguments
  | .raisedFrom fault _ => fault.message
where
  /-- The text about something that is not there. -/
  absent (use : StreamUse) : String :=
    "'NoneType' object has no attribute '" ++ use.name ++ "'"
  /-- The common part of both texts about an oversized fragment. -/
  tooLarge (length limit : Value) : String :=
    "fragment exceeds maximum size: length=" ++ length.display ++ ", max_record_size=" ++
      limit.display

end Fault

end RecordMarking
