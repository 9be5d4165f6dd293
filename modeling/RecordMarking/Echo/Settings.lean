import RecordMarking.CommandLine
import RecordMarking.Event
import RecordMarking.Reader

/-!
# Settings of the echo programs

What can be set on the command lines of the echo client and the echo server, and what holds
where nothing is set. Both agree on where the server is and on how much of the log is written.
A setting is the value given for its parameter, or an empty list where the parameter was
emptied; whether that can be worked with shows when the setting is needed.
-/

namespace RecordMarking.Echo

/-- The words for the levels of the log. -/
def logLevels : List (String × LogLevel) :=
  [("debug", .debug), ("info", .info), ("error", .error)]

/-- The setting of a parameter that was emptied. -/
def emptied : Value := .list []

/-- A parameter whose value is any text. -/
def textParameter {Settings : Type} (name : String) (assign : Value → Settings → Settings) :
    CommandLine.Parameter Settings :=
  .text name (fun text => assign (.text text)) (assign emptied)

/-- A parameter whose value is an integer. -/
def integerParameter {Settings : Type} (name : String) (assign : Value → Settings → Settings) :
    CommandLine.Parameter Settings :=
  .integer name (fun number => assign (.integer number)) (assign emptied)

/-- The parameter for the level of the log. -/
def logLevelParameter {Settings : Type} (assign : Option LogLevel → Settings → Settings) :
    CommandLine.Parameter Settings :=
  .choice "--log-level" logLevels (fun level => assign (some level)) (assign none)

/-- The level to write the log at. -/
def chosenLevel (level : Option LogLevel) : Except Fault LogLevel :=
  match level with
  | some level => .ok level
  | none => .error .missingLevel

/-- The settings of the client. -/
structure ClientSettings where
  host : Value
  port : Value
  /-- The number of octets in a fragment of a request. -/
  fragmentSize : Value
  /-- The number of requests. A negative number counts as none. -/
  count : Value
  logLevel : Option LogLevel
deriving DecidableEq, Repr

/-- The settings of a client that is told nothing. -/
def ClientSettings.defaults : ClientSettings where
  host := .text "localhost"
  port := .integer 53123
  fragmentSize := .integer 8
  count := .integer 3
  logLevel := some .error

/-- The parameters of the client. -/
def ClientSettings.parameters : List (CommandLine.Parameter ClientSettings) := [
  textParameter "--host" fun host settings => { settings with host },
  integerParameter "--port" fun port settings => { settings with port },
  integerParameter "--fragment-size" fun fragmentSize settings => { settings with fragmentSize },
  integerParameter "--count" fun count settings => { settings with count },
  logLevelParameter fun logLevel settings => { settings with logLevel }]

/-- The settings that a client is started with. -/
def ClientSettings.parse (arguments : List String) :
    Except CommandLine.UsageError (CommandLine.Request ClientSettings) :=
  CommandLine.parse parameters defaults arguments

/-- The settings of the server. -/
structure ServerSettings where
  host : Value
  port : Value
  /-- The limit of the reader that reads requests, not yet checked. -/
  limit : Value
  logLevel : Option LogLevel
deriving DecidableEq, Repr

/-- The settings of a server that is told nothing. -/
def ServerSettings.defaults : ServerSettings where
  host := .text "localhost"
  port := .integer 53123
  limit := .integer defaultLimit
  logLevel := some .error

/-- The parameters of the server. -/
def ServerSettings.parameters : List (CommandLine.Parameter ServerSettings) := [
  textParameter "--host" fun host settings => { settings with host },
  integerParameter "--port" fun port settings => { settings with port },
  integerParameter "--max-record-size" fun limit settings => { settings with limit },
  logLevelParameter fun logLevel settings => { settings with logLevel }]

/-- The settings that a server is started with. -/
def ServerSettings.parse (arguments : List String) :
    Except CommandLine.UsageError (CommandLine.Request ServerSettings) :=
  CommandLine.parse parameters defaults arguments

end RecordMarking.Echo
