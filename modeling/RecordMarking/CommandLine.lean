import RecordMarking.Text.Digit
import RecordMarking.Text.Numeral
import RecordMarking.Text.Quoted

/-!
# Command lines

A program has named parameters, each with a default, and is started with a list of
arguments. A parameter is set by `--name value` or `--name=value` and emptied by `--name=--`; a
name may be cut short as long as only one name begins that way. `-h` and `--help` ask for help.
Nothing else is understood, and what is not understood is reported together, after everything
else.

Reading goes in two steps. `classify` says what each argument is by itself, so that an
ambiguous name anywhere is reported before any other error. `interpret` then goes through the
arguments from left to right and changes the settings as it goes, so that of several values
for one parameter the last one counts.
-/

namespace RecordMarking.CommandLine

/-- Why a text is not a value of a parameter. -/
inductive Unsuitable where
  | notInteger
  | notAmong (choices : List String)
deriving DecidableEq, Repr

/-- Why a command line is refused. -/
inductive UsageError where
  /-- Several names begin like the name in this argument. -/
  | ambiguous (argument : String) (candidates : List String)
  /-- The last argument, or an argument before another name, was a name without a value. -/
  | missingValue (name : String)
  /-- A parameter cannot have this value. -/
  | unsuitable (name value : String) (reason : Unsuitable)
  /-- A value was given where help was asked for. -/
  | valueForHelp (value : String)
  /-- These arguments are not understood. -/
  | unrecognized (arguments : List String)
deriving DecidableEq, Repr

/-- The wording of a usage error. -/
def UsageError.message : UsageError → String
  | .ambiguous argument candidates =>
    "ambiguous option: " ++ argument ++ " could match " ++ ", ".intercalate candidates
  | .missingValue name => "argument " ++ name ++ ": expected one argument"
  | .unsuitable name value .notInteger =>
    "argument " ++ name ++ ": invalid int value: " ++ Text.quote value
  | .unsuitable name value (.notAmong choices) =>
    "argument " ++ name ++ ": invalid choice: " ++ Text.quote value ++ " (choose from " ++
      ", ".intercalate (choices.map Text.quote) ++ ")"
  | .valueForHelp value =>
    "argument -h/--help: ignored explicit argument " ++ Text.quote value
  | .unrecognized arguments => "unrecognized arguments: " ++ " ".intercalate arguments

/-- A usage error as a program reports it under its own name. -/
def UsageError.report (program : String) (error : UsageError) : String :=
  program ++ ": error: " ++ error.message

/-- The exit code of a program that refuses its command line. -/
def usageExitCode : Nat := 2

/-- A parameter: its name, which begins with two hyphens, what a value given for it does to the
settings, and what emptying it does. -/
structure Parameter (Settings : Type) where
  name : String
  set : String → Except Unsuitable (Settings → Settings)
  clear : Settings → Settings

/-- A parameter whose value is any text. -/
def Parameter.text {Settings : Type} (name : String) (assign : String → Settings → Settings)
    (clear : Settings → Settings) : Parameter Settings :=
  ⟨name, fun value => .ok (assign value), clear⟩

/-- A parameter whose value is an integer. -/
def Parameter.integer {Settings : Type} (name : String) (assign : Int → Settings → Settings)
    (clear : Settings → Settings) : Parameter Settings where
  name
  set value :=
    match Text.integer? value with
    | some number => .ok (assign number)
    | none => .error .notInteger
  clear

/-- A parameter whose value is one of several words. -/
def Parameter.choice {Settings Meaning : Type} (name : String) (meanings : List (String × Meaning))
    (assign : Meaning → Settings → Settings) (clear : Settings → Settings) :
    Parameter Settings where
  name
  set value :=
    match meanings.lookup value with
    | some meaning => .ok (assign meaning)
    | none => .error (.notAmong (meanings.map Prod.fst))
  clear

/-- How help is asked for: by its long name or by its letter, in front of which a single hyphen
stands. -/
inductive HelpName where
  | long
  | letter
deriving DecidableEq, Repr

/-- What a name on the command line stands for. -/
inductive Subject (Settings : Type) where
  | help (name : HelpName)
  | parameter (parameter : Parameter Settings)

/-- The names that a program understands, with those that ask for help in front. -/
def names {Settings : Type} (parameters : List (Parameter Settings)) :
    List (String × Subject Settings) :=
  ("-h", .help .letter) :: ("--help", .help .long) ::
    parameters.map fun parameter => (parameter.name, .parameter parameter)

/-- How a value is attached to a name within one argument. -/
inductive Attachment where
  | none
  /-- Behind an equals sign. -/
  | assigned (value : String)
  /-- Right behind a name of one letter. -/
  | joined (value : String)
deriving DecidableEq, Repr

/-- What an argument is by itself. -/
inductive Word (Settings : Type) where
  /-- A value, if something before it asks for one. -/
  | plain (argument : String)
  /-- Two hyphens, after which every argument is plain. -/
  | separator
  /-- The name of a parameter or a request for help. -/
  | name (subject : Subject Settings) (attachment : Attachment)
  /-- Something that looks like a name but is none. -/
  | unknown (argument : String)

/-- An argument up to its first equals sign, and what is behind the sign, if there is one. -/
def splitAtEquals (argument : List Char) : String × Attachment :=
  (.ofList (argument.takeWhile (· ≠ '=')),
    match argument.dropWhile (· ≠ '=') with
    | [] => .none
    | _ :: value => .assigned (.ofList value))

/-- A nonempty run of decimal digits, which a line feed may follow. -/
def isDigitRun (characters : List Char) : Bool :=
  match characters.dropWhile fun character => (Text.digitValue? character).isSome with
  | [] => !characters.isEmpty
  | ['\n'] => characters.length ≠ 1
  | _ => false

/-- Whether an argument is a negative number in digits, with or without a decimal point. -/
def isNegativeNumber : List Char → Bool
  | '-' :: digits =>
    isDigitRun digits ||
      match digits.dropWhile fun character => (Text.digitValue? character).isSome with
      | '.' :: decimals => isDigitRun decimals
      | _ => false
  | _ => false

/-- The names that an argument may mean: those that its part before an equals sign begins, or
the one letter name that it begins with. -/
def candidates {Settings : Type} (names : List (String × Subject Settings))
    (argument : List Char) : List (String × Subject Settings × Attachment) :=
  match argument with
  | '-' :: '-' :: _ =>
    let (stem, attachment) := splitAtEquals argument
    (names.filter fun entry => stem.toList.isPrefixOf entry.1.toList).map fun entry =>
      (entry.1, entry.2, attachment)
  | first :: letter :: value =>
    (names.filter fun entry => entry.1.toList = [first, letter]).map fun entry =>
      (entry.1, entry.2, .joined (.ofList value))
  | _ => []

/-- What an argument is that does not stand behind a separator. -/
def classify {Settings : Type} (names : List (String × Subject Settings)) (argument : String) :
    Except UsageError (Word Settings) :=
  match argument.toList with
  | '-' :: letter :: rest =>
    let characters := '-' :: letter :: rest
    let (stem, attachment) := splitAtEquals characters
    match names.lookup argument, names.lookup stem with
    | some subject, _ => .ok (.name subject .none)
    | none, some subject => .ok (.name subject attachment)
    | none, none =>
      match candidates names characters with
      | [(_, subject, attachment)] => .ok (.name subject attachment)
      | [] =>
        if isNegativeNumber characters || characters.contains ' ' then .ok (.plain argument)
        else .ok (.unknown argument)
      | several => .error (.ambiguous argument (several.map Prod.fst))
  | _ => .ok (.plain argument)

/-- What each argument is. -/
def classifyAll {Settings : Type} (names : List (String × Subject Settings)) :
    List String → Except UsageError (List (Word Settings))
  | [] => .ok []
  | argument :: rest =>
    if argument = "--" then .ok (.separator :: rest.map .plain)
    else do
      let word ← classify names argument
      return word :: (← classifyAll names rest)

/-- What a command line asks for. -/
inductive Request (Settings : Type) where
  | help
  | run (settings : Settings)
deriving DecidableEq, Repr

/-- Ask for help, unless a value is attached. What is attached to the letter for help may repeat
the letter; only what is left behind that is refused. -/
def askForHelp {Settings : Type} (name : HelpName) (attachment : Attachment) :
    Except UsageError (Request Settings) :=
  match name, attachment with
  | _, .none => .ok .help
  | .long, .assigned value | .long, .joined value => .error (.valueForHelp value)
  | .letter, .assigned value | .letter, .joined value =>
    match value.toList, value.toList.dropWhile (· = 'h') with
    | _ :: _, [] => .ok .help
    | _, refused => .error (.valueForHelp (.ofList refused))

/-- The value that empties a parameter when it is attached to the name. -/
def emptyingValue : String := "--"

/-- The settings after a parameter was given a value. -/
def Parameter.apply {Settings : Type} (parameter : Parameter Settings) (value : String)
    (settings : Settings) : Except UsageError Settings :=
  match parameter.set value with
  | .ok change => .ok (change settings)
  | .error reason => .error (.unsuitable parameter.name value reason)

/-- The settings after a value was attached to the name of a parameter. -/
def Parameter.applyAttached {Settings : Type} (parameter : Parameter Settings) (value : String)
    (settings : Settings) : Except UsageError Settings :=
  if value = emptyingValue then .ok (parameter.clear settings)
  else parameter.apply value settings

/-- Go through classified arguments. What was not understood so far is listed in order. -/
def interpret {Settings : Type} (settings : Settings) (unrecognized : List String) :
    List (Word Settings) → Except UsageError (Request Settings)
  | [] => if unrecognized.isEmpty then .ok (.run settings) else .error (.unrecognized unrecognized)
  | .name (.help name) attachment :: _ => askForHelp name attachment
  | .name (.parameter parameter) .none :: .plain value :: rest => do
    interpret (← parameter.apply value settings) unrecognized rest
  | .name (.parameter parameter) .none :: _ => .error (.missingValue parameter.name)
  | .name (.parameter parameter) (.assigned value) :: rest => do
    interpret (← parameter.applyAttached value settings) unrecognized rest
  | .name (.parameter parameter) (.joined value) :: rest => do
    interpret (← parameter.applyAttached value settings) unrecognized rest
  | .plain argument :: rest => interpret settings (unrecognized ++ [argument]) rest
  | .separator :: rest => interpret settings (unrecognized ++ ["--"]) rest
  | .unknown argument :: rest => interpret settings (unrecognized ++ [argument]) rest

/-- Read a command line. -/
def parse {Settings : Type} (parameters : List (Parameter Settings)) (defaults : Settings)
    (arguments : List String) : Except UsageError (Request Settings) := do
  interpret defaults [] (← classifyAll (names parameters) arguments)

end RecordMarking.CommandLine
