import PubSubTrials.Command.Implementation
import PubSubTrials.Report
import PubSubTrials.Run.Trial

/-!
# Failures of commands

Why a command ends without a result, how that reads, and the exit code of the program in each
case. A command that ends with a result exits with a code that tells whether all cases passed
and whether it was interrupted.
-/

namespace PubSubTrials

/-- Why a command has no result. -/
inductive CommandError where
  | argument (error : ArgumentError)
  | load (error : LoadError)
  | suite (error : SuiteError)
  | run (error : RunError)
  | report (error : ReportError)
  deriving DecidableEq, Repr

namespace CommandError

/-- How a failure reads. -/
def message : CommandError → String
  | argument error => "invalid argument: " ++ error.message
  | load error => error.message
  | suite error => error.message
  | run error => error.message
  | report error => "report error: " ++ error.message

/-- The exit code of a failure. -/
def exitCode : CommandError → Nat
  | argument _ => 1
  | report _ => 2
  | run (.observerCrashed ..) => 3
  | run (.unnamable _) => 101
  | suite (.unknownSuite _) | suite (.unknownCase _) => 5
  | load _ | suite _ | run (.invalidCase _) => 4

end CommandError

/-- The exit code of a command with a result. -/
def exitCode (allPassed interrupted : Bool) : Nat :=
  if interrupted then 130 else if allPassed then 0 else 3

end PubSubTrials
