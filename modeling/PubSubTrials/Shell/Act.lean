import PubSubTrials.Shell.Session

/-!
# Acts of a shell

What a shell can be asked to do while it does something else: commands hold words, words hold
commands, and programs start programs. Every function that needs something of this kind done is
given the means for it; at the end they are tied together.
-/

namespace PubSubTrials

/-- A program that is to be run in a process. -/
structure Host.Call where
  /-- The name by which it is called. -/
  name : Octets
  /-- The path that leads to it. -/
  path : Octets
  arguments : List Octets
  environment : List (Octets × Octets)
  deriving Repr

namespace Shell

open Host (Course Call)

/-- How a command is run. -/
structure Stance where
  /-- Whether somebody looks at its status. -/
  isTested : Bool
  /-- Whether the script ends with it. -/
  isLast : Bool
  deriving DecidableEq, Repr

namespace Stance

/-- A command like any other. -/
def usual : Stance := ⟨false, false⟩

/-- A command whose status is looked at. -/
def tested : Stance := ⟨true, false⟩

end Stance

/-- What a shell can be asked to do. -/
inductive Act where
  /-- Run a command. -/
  | command (stance : Stance) (command : Command)
  /-- Run what is left of a script; the answer is the status of the last command. -/
  | script (stance : Stance) (reading : Reading) (status : Nat)
  /-- Run a loop from its next turn on. -/
  | again (stance : Stance) (endsOnSuccess : Bool) (test body : Command) (status : Nat)
  /-- Run a loop with a counter from its next turn on. -/
  | counting (stance : Stance) (test next : Word) (body : Command) (status : Nat)

/-- The means to have acts carried out. -/
abbrev Performer := Act → Scripting Nat

/-- The means to run programs in the place of the process. -/
abbrev Executor := Call → Course Nat

end Shell

end PubSubTrials
