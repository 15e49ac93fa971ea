import PubSubTrials.Command.Arguments
import PubSubTrials.Command.Listing
import PubSubTrials.Command.Matrix
import PubSubTrials.Report.Summary
import PubSubTrials.Run.Application

/-!
# The program

What the program does with the words that it is started with: the results go to its output,
messages about the course of a run and a failure to its diagnostics, and the exit code tells how
it went.
-/

namespace PubSubTrials

/-- What is left when the program has ended. -/
structure Ending where
  exitCode : Nat
  output : String
  /-- The messages, one in a line. -/
  diagnostics : List String
  files : FileTree
  deriving DecidableEq, Repr, Inhabited

namespace UsageError

/-- The name of the program and its version. -/
def versionText : String := "shape-interop 0.1.0"

/-- How the program is called. -/
def helpText : String :=
  "Usage: shape-interop run --publisher PATH --subscriber PATH [OPTIONS]\n" ++
  "       shape-interop matrix --exe NAME=PATH... [OPTIONS]\n" ++
  "       shape-interop list [--suite NAME]... [--suite-file PATH]..."

/-- What words are told that are no request. -/
def message : UsageError → String
  | helpWanted | nothingWanted => helpText
  | versionWanted => versionText
  | unknownCommand => "error: unknown command"
  | unknownArgument => "error: unexpected argument"
  | missingValue => "error: a value is required for an option"
  | malformedValue => "error: invalid value for an option"
  | unexpectedValue => "error: unexpected value for an option"
  | repeatedOption => "error: an option cannot be used more than once"
  | missingOption => "error: a required option was not given"

/-- The end of the program when words are no request; what was asked for is no message. -/
def ending (error : UsageError) (files : FileTree) : Ending :=
  if error.exitCode = 0 then ⟨0, error.message ++ "\n", [], files⟩
  else ⟨error.exitCode, "", [error.message], files⟩

end UsageError

/-- What the diagnostics say about a failure; a crash is not called an error. -/
def CommandError.diagnostic : CommandError → String
  | run (.unnamable thread) => (RunError.unnamable thread).message
  | error => "error: " ++ error.message

/-- The end of a command without a result. -/
def CommandError.ending (error : CommandError) (messages : List String) (files : FileTree) :
    Ending :=
  ⟨error.exitCode, "", messages ++ [error.diagnostic], files⟩

namespace RunOptions

/-- How the applications of a pairing are started. -/
def deployment (options : RunOptions) (publisher subscriber : Implementation) : Deployment :=
  ⟨options.leading, publisher.path, subscriber.path, options.capture⟩

/-- What a command finds that starts applications with given files. -/
def surroundings (options : RunOptions) (moment : Timestamp) (files : FileTree) :
    Surroundings FileTree where
  theatre publisher subscriber := (options.deployment publisher subscriber).theatre
  moment := moment
  shutdown := .flag false
  files := files

end RunOptions

/-- What is written about a pairing. -/
def PairingResult.text (result : PairingResult) : String :=
  (Summary.render result.publisher result.subscriber result.series).getD "" ++ "\n" ++
    match result.reportPath with
    | some path => "Report: " ++ path.text ++ "\n"
    | none => ""

/-- The end of a command with the messages that its journal shows. -/
def Conclusion.ending {α : Type} (conclusion : Conclusion FileTree α) (level : Level)
    (exitCode : α → Nat) (text : α → String) : Ending :=
  let messages := shownMessages level conclusion.journal
  match conclusion.result with
  | .ok result => ⟨exitCode result, text result, messages, conclusion.files⟩
  | .error error => error.ending messages conclusion.files

namespace Request

/-- Carry out a request. -/
def execute (moment : Timestamp) (files : FileTree) : Request → Ending
  | .run request =>
    (request.run (request.options.surroundings moment files)).ending request.options.level
      PairingResult.exitCode PairingResult.text
  | .matrix request =>
    (request.run (request.options.surroundings moment files)).ending request.options.level
      MatrixResult.exitCode (fun result => String.join (result.pairings.map PairingResult.text))
  | .list request =>
    match Listing.run files request with
    | .ok text => ⟨0, text, [], files⟩
    | .error error => error.ending [] files

/-- Carry out what words ask for. -/
def executeWords (words : List String) (moment : Timestamp) (files : FileTree) : Ending :=
  match ofWords words with
  | .ok request => request.execute moment files
  | .error error => error.ending files

end Request

end PubSubTrials
