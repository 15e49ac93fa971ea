import PubSubTrials.Shell.Arguments
import PubSubTrials.Shell.Subshell

/-!
# Builtin commands

Commands that a shell carries out itself. A special one ends the script when it fails, and what
is assigned in front of it stays. A declaration takes assignments as arguments, whose values are
not cut into fields.
-/

namespace PubSubTrials.Shell

open Host (Course Call Image)

/-- The means that builtin commands may use. -/
structure Means where
  perform : Performer
  execute : Executor
  /-- How the command itself is run. -/
  stance : Stance

/-- A builtin command. -/
structure Builtin where
  name : String
  isSpecial : Bool
  isDeclaration : Bool
  run : Means → List Octets → Scripting Nat

namespace Builtin

/-- A builtin command that needs no means. -/
def plain (name : String) (run : List Octets → Scripting Nat) : Builtin :=
  ⟨name, false, false, fun _ arguments => run arguments⟩

/-- A special builtin command that needs no means. -/
def special (name : String) (run : List Octets → Scripting Nat) : Builtin :=
  ⟨name, true, false, fun _ arguments => run arguments⟩

end Builtin

/-! ## Programs -/

namespace Program

/-- The directories in which a script's programs are looked for. -/
def places (session : Session) : Octets := (session.lookup? "PATH").getD Host.usualPlaces

/-- How a shell tells why a program cannot be run. -/
def reason (session : Session) (name : Octets) (error : SystemError) : String :=
  if session.isExtended then
    if error = .noEntry ∧ !Host.isPath name then "command not found" else error.reason
  else if error = .noEntry ∨ error = .notDirectory then "not found"
  else error.reason

/-- The status of a program that cannot be run. -/
def failureStatus (error : SystemError) : Nat :=
  if error = .noEntry ∨ error = .notDirectory ∨ error = .nameTooLong then 127 else 126

/-- Let a program take the place of the shell. -/
def become (means : Means) (path name : Octets) (arguments : List Octets) : Scripting Nat := do
  let session ← get
  let last := if session.isExtended then [(['_'], path)] else []
  let environment := session.environment ++ last
  let call : Call ←
    match ← Scripting.ask (Course.image path) with
    | .ok .text =>
      let shell := if session.isExtended then "bash" else "sh"
      pure ⟨shell.toList, ("/bin/" ++ shell).toList, path :: arguments, environment⟩
    | _ => pure ⟨name, path, arguments, environment⟩
  Scripting.ask (do
    Course.adjust Host.Process.forProgram
    let status ← means.execute call
    Course.exit status)

/-- Find the program of a name in given directories, or complain and end the script. -/
def demand (places name : Octets) : Scripting Octets := do
  match ← Scripting.ask (Course.findProgram places name) with
  | .ok path => return path
  | .error error =>
    let session ← get
    let isDirectory ← Scripting.ask (Course.look (fun files =>
      files.isDirectory ⟨Octets.toText name⟩))
    let error : SystemError :=
      if session.isExtended ∧ Host.isPath name ∧ isDirectory then .isDirectory else error
    Scripting.warn (name ++ [':', ' '] ++ (reason session name error).toList)
    Scripting.setStatus (failureStatus error)
    throw .ended

/-- Find the program of a name that is to take the place of the shell in the extended dialect, or
complain and end the script. -/
def demandInPlace (places name : Octets) : Scripting Octets := do
  match ← Scripting.ask (Course.findProgram places name) with
  | .ok path => return path
  | .error error =>
    if !Host.isPath name ∧ error = .noEntry then Scripting.warn (name ++ ": not found".toList)
    else
      let isDirectory ← Scripting.ask (Course.look (fun files =>
        files.isDirectory ⟨Octets.toText name⟩))
      let reason := (if isDirectory then SystemError.isDirectory else error).reason.toList
      Scripting.namingNothing (Scripting.warn (name ++ [':', ' '] ++ reason))
      if isDirectory then Scripting.warn (name ++ ": cannot execute: ".toList ++ reason)
    Scripting.setStatus (failureStatus error)
    throw .ended

end Program

/-- The path of the working directory. -/
def workingPath : Course Octets := do
  let names ← Course.directory
  return '/' :: Octets.joined ['/'] (names.map Octets.ofString)

end PubSubTrials.Shell
