import PubSubTrials.Programs.Calculation
import PubSubTrials.Programs.Characters
import PubSubTrials.Programs.Counting
import PubSubTrials.Programs.Editing
import PubSubTrials.Programs.Dumps
import PubSubTrials.Programs.Facts
import PubSubTrials.Programs.Filing
import PubSubTrials.Programs.Launchers
import PubSubTrials.Programs.Lines
import PubSubTrials.Programs.Records
import PubSubTrials.Programs.Search
import PubSubTrials.Programs.Sorting
import PubSubTrials.Programs.Words
import PubSubTrials.Shell.Program

/-!
# The programs of a system

A file that holds a program runs it; one that names the program that reads it runs that one.
Shells run programs, and programs run shells and other programs; here they are tied together.
-/

namespace PubSubTrials.Programs

open Host (Call Course Image)
open Shell (Dialect Means)

/-- The shells with their dialects. -/
def shells : List (String × Dialect) :=
  [("sh", .plain), ("dash", .plain), ("bash", .extended), ("rbash", .extended)]

/-- All programs that are no shells. -/
def tools : List Program :=
  aboutWords ++ aboutLines ++ aboutCharacters ++ aboutOrder ++ searching ++ editing ++
    aboutNumbers ++ calculating ++ recording ++ filing ++ telling ++ dumping ++ launchers

/-- The names of all programs. -/
def names : List String := shells.map Prod.fst ++ tools.map Program.name

/-- Run a program of a name; unknown programs do nothing. -/
def runNamed (means : Means) (name : String) (call : Call) : Course Nat :=
  match shells.lookup name with
  | some dialect => Shell.Program.shell dialect means.perform call
  | none =>
    match tools.find? (fun program => program.name = name) with
    | some program => program.run means.execute call
    | none => return 0

/-- Run what a file holds. -/
def runCall (means : Means) (call : Call) : Course Nat := do
  match ← Course.image call.path with
  | .ok (.program name) => runNamed means name call
  | .ok (.script interpreter argument) =>
    means.execute
      { call with
        name := interpreter, path := interpreter
        arguments := argument.toList ++ call.path :: call.arguments }
  | .ok .text => return 126
  | .error _ => return 126

/-- The means to run commands and programs, to a depth. -/
def means : Nat → Means
  | 0 => ⟨fun _ => Shell.Scripting.ask Course.hang, fun _ => Course.hang, .usual⟩
  | depth + 1 =>
    ⟨fun act => Shell.Evaluation.act (means depth) act, fun call => runCall (means depth) call,
      .usual⟩

/-- Bound on the depth of commands and programs within others. -/
def maxDepth : Nat := 10000000

/-- Run what a file holds. -/
def execute (call : Call) : Course Nat := (means maxDepth).execute call

end PubSubTrials.Programs
