import PubSubTrials.Command.Implementation
import PubSubTrials.Log
import PubSubTrials.Output.Broadcast
import PubSubTrials.Run.Settings

/-!
# Requests

What can be asked for: a run of one publisher implementation against one subscriber
implementation, a matrix of runs of several implementations against each other, or a list of
suites and their cases.
-/

namespace PubSubTrials

/-- Which cases to run. -/
structure Selection where
  /-- Names of suites; all suites if there are none. -/
  suites : List String
  /-- Names of cases; all cases of the suites if there are none. -/
  cases : List String
  /-- Further suites, as files. -/
  suiteFiles : List Path
  deriving DecidableEq, Repr, Inhabited

/-- How to run cases. -/
structure RunOptions where
  timeoutSeconds : Nat
  staggerMillis : Nat
  /-- Words in front of the executable on every command line. -/
  leading : List String
  throughPipes : Bool
  /-- The directory that takes the report, if one is wanted. -/
  output : Option Path
  /-- How often more detail was asked for. -/
  verbosity : Nat
  deriving DecidableEq, Repr, Inhabited

namespace RunOptions

/-- The options where nothing else is asked for. -/
def standard : RunOptions := ⟨20, 1000, [], false, none, 0⟩

/-- Whether cases can be run with these options. -/
def validate (options : RunOptions) : Except ArgumentError Unit :=
  if options.timeoutSeconds = 0 then .error (.timeoutTooShort options.timeoutSeconds) else .ok ()

/-- The settings of a run with these options. -/
def settings (options : RunOptions) : Settings :=
  { Settings.standard with
    defaultTimeout := .ofSeconds options.timeoutSeconds
    publisherStagger := .ofMillis options.staggerMillis }

/-- The most detailed level of messages that is shown. -/
def level (options : RunOptions) : Level :=
  .ofCount options.verbosity

/-- How output is captured. -/
def capture (options : RunOptions) : Output.Capture :=
  if options.throughPipes then .pipe else .terminal

end RunOptions

/-- A run of one publisher implementation against one subscriber implementation. -/
structure RunRequest where
  publisher : Path
  subscriber : Path
  selection : Selection
  options : RunOptions
  deriving DecidableEq, Repr, Inhabited

/-- Whether a run can be made. -/
def RunRequest.validate (request : RunRequest) : Except ArgumentError Unit :=
  request.options.validate

/-- Runs of all ordered pairs of implementations. -/
structure MatrixRequest where
  /-- The implementations, each as its name, an equals sign and its path. -/
  implementations : List String
  selection : Selection
  options : RunOptions
  deriving DecidableEq, Repr, Inhabited

/-- The implementations of a matrix that can be run. -/
def MatrixRequest.validate (request : MatrixRequest) :
    Except ArgumentError (List Implementation) :=
  match request.options.validate with
  | .error error => .error error
  | .ok () => Implementation.parseAll request.implementations

/-- A list of suites. -/
structure ListRequest where
  /-- Names of suites; all suites if there are none. -/
  suites : List String
  /-- Further suites, as files. -/
  suiteFiles : List Path
  deriving DecidableEq, Repr, Inhabited

/-- What is asked for. -/
inductive Request where
  | run (request : RunRequest)
  | matrix (request : MatrixRequest)
  | list (request : ListRequest)
  deriving DecidableEq, Repr

end PubSubTrials
