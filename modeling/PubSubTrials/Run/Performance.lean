import PubSubTrials.Case
import PubSubTrials.Observation

/-!
# Performances

What an application does once it is started: the lines that it prints and whether its output
ends after them. A stage decides what performance an entity gives, or that it cannot be
started; a playbook is a stage that goes by role and parameters. In a theatre a performance also
depends on what earlier ones have left behind, and leaves something behind itself. Trials and
commands take the theatre as a parameter: what holds of them holds on any system.
-/

namespace PubSubTrials

/-- What a started application does. -/
structure Performance where
  lines : List String
  /-- Whether it keeps its output open after the last line. -/
  hangs : Bool
  /-- Calls of `expect` after which its observer crashes, if it does. -/
  crashAfter : Option Nat
  deriving DecidableEq, Repr, Inhabited

/-- Why an application cannot be started. -/
inductive LaunchError where
  /-- The playbook has nothing for the entity. -/
  | noScript (role : Role) (parameters : String)
  /-- The operating system does not start the command. -/
  | notStarted (command reason : String)
  deriving DecidableEq, Repr

/-- How the failure of a start reads. -/
def LaunchError.message : LaunchError → String
  | noScript role parameters =>
    "no script for " ++ role.name ++ " with parameters '" ++ parameters ++ "'"
  | notStarted command reason => "failed to start " ++ command ++ ": " ++ reason

/-- The performances that entities give, by role and parameters. -/
abbrev Stage := Role → String → Except LaunchError Performance

/-- The performances that entities give who find something of a type and leave it changed; at each
point of a performance one waits for a given time at most. -/
abbrev Theatre (σ : Type) := Duration → Role → String → σ → Except LaunchError Performance × σ

/-- The theatre of a stage, where nothing is left behind. -/
def Stage.theatre {σ : Type} (stage : Stage) : Theatre σ := fun _ role parameters state =>
  (stage role parameters, state)

/-- A console that shows a performance. -/
def Performance.console (performance : Performance) : Output.Console :=
  .ofLines (performance.lines.map String.toList) performance.hangs

/-- A performance in a playbook. -/
structure Script where
  role : Role
  parameters : String
  performance : Performance
  deriving DecidableEq, Repr, Inhabited

/-- The stage of a playbook; the last script for an entity counts. -/
def Stage.ofScripts (scripts : List Script) : Stage := fun role parameters =>
  match scripts.reverse.find? (fun s => s.role == role && s.parameters == parameters) with
  | some script => .ok script.performance
  | none => .error (.noScript role parameters)

end PubSubTrials
