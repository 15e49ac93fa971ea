import PubSubTrials.Shell.Builtins.Basic
import PubSubTrials.Shell.Redirection

/-!
# Builtin commands that direct a script

Leaving loops, functions and scripts, running texts and files as scripts, letting a program take
the place of the shell, and evaluating expressions.
-/

namespace PubSubTrials.Shell.Builtins

open Host (Course)

/-! ## Leaving -/

/-- Complain about a number and end the script in the extended dialect. -/
def demandStatus (text : Octets) : Scripting Nat := do
  match Arguments.number? text with
  | some n => return n
  | none =>
    if (← get).isExtended then
      match text with
      | '-' :: digits =>
        match Arguments.number? digits with
        | some n => return (256 - n % 256) % 256
        | none => refuse
      | _ => refuse
    else Scripting.fail ("Illegal number: ".toList ++ text)
where
  /-- Complain and end the script. -/
  refuse : Scripting Nat := do
    Scripting.warn (text ++ ": numeric argument required".toList)
    Scripting.setStatus 2
    throw .ended

/-- Leave loops of the plain dialect, perhaps to go on with the next turn of the last one. -/
def leavePlainLoops (goesOn : Bool) (text : Octets) : Scripting Nat := do
  let session ← get
  let count ← Arguments.number text
  if count = 0 then Scripting.fail ("Illegal number: ".toList ++ text)
  else if session.loops = 0 then return 0
  else
    set { session with skip := .loops (min count session.loops) goesOn }
    return 0

/-- Leave loops of the extended dialect, perhaps to go on with the next turn of the last one. -/
def leaveExtendedLoops (goesOn : Bool) (text : Octets) : Scripting Nat := do
  let session ← get
  if session.loops = 0 then
    Scripting.warn "only meaningful in a \x60for', \x60while', or \x60until' loop".toList
    return 0
  else
    match Arguments.number? text with
    | some 0 =>
      Scripting.warn (text ++ ": loop count out of range".toList)
      modify (fun session => { session with skip := .loops session.loops false })
      return 1
    | some count =>
      set { session with skip := .loops (min count session.loops) goesOn }
      return 0
    | none =>
      Scripting.warn (text ++ ": numeric argument required".toList)
      Scripting.setStatus 1
      throw .ended

/-- Leave loops, perhaps to go on with the next turn of the last one. -/
def leaveLoops (goesOn : Bool) (arguments : List Octets) : Scripting Nat := do
  let text := arguments.head?.getD ['1']
  if (← get).isExtended then leaveExtendedLoops goesOn text else leavePlainLoops goesOn text

/-- Complain if there are several arguments where the extended dialect takes only one. -/
def demandAtMostOne (arguments : List Octets) : Scripting Unit := do
  if (← get).isExtended ∧ 1 < arguments.length then
    Scripting.warn "too many arguments".toList
    Scripting.setStatus 1
    throw .ended

/-- The status to return with, and whether it was asked for rightly. -/
def returnStatus (arguments : List Octets) : Scripting Nat := do
  match arguments with
  | [] => return (← get).status
  | text :: _ =>
    match ← Scripting.attempt (demandStatus text) with
    | .ok status => return if (← get).isExtended then status % 256 else status
    | .error stop => if (← get).isExtended then return 2 else throw stop

/-- Leave a function or a file. -/
def return' (arguments : List Octets) : Scripting Nat := do
  let session ← get
  demandAtMostOne arguments
  if session.isExtended ∧ session.extras.running.all Invoked.isScript then
    Scripting.warn "can only \x60return' from a function or sourced script".toList
    return 2
  else
    let status ← returnStatus arguments
    modify (fun session => { session with skip := .function })
    return status

/-- Leave the script. -/
def exit (arguments : List Octets) : Scripting Nat := do
  match arguments with
  | [] => pure ()
  | text :: _ =>
    let status ← demandStatus text
    demandAtMostOne arguments
    modify (fun session =>
      { session with status, heldStatus := session.heldStatus.map (fun _ => status) })
  throw .ended

/-! ## Scripts within scripts -/

/-- The arguments of a command of the extended dialect that knows no options. -/
def withoutOptions (arguments : List Octets) : Scripting (List Octets) := do
  if (← get).isExtended then return (← Arguments.options "" arguments).2 else return arguments

/-- Run arguments as commands. -/
def eval (means : Means) (arguments : List Octets) : Scripting Nat := do
  let words ← withoutOptions arguments
  let run := Subshell.runText means.perform ⟨means.stance.isTested, false⟩ "eval"
    (Octets.joined [' '] words)
  if (← get).isExtended then Scripting.namingNothing run else run

/-- The path of a file that holds commands. -/
def scriptPath (name : Octets) : Scripting Octets := do
  if Host.isPath name then return name
  else
    let session ← get
    let places := Program.places session ++ (if session.isExtended then [':'] else [])
    match ← Scripting.ask (Course.look (fun files => Host.findFile? files places name)) with
    | some path => return path
    | none =>
      if session.isExtended then return name else Scripting.failAbout name "not found"

/-- The text of a file that holds commands. -/
def scriptText (path : Octets) : Scripting Octets := do
  let handle ← Redirection.opened path .read
  let descriptor ← Scripting.ask (Course.keep handle)
  let text ← Scripting.ask (Course.readAll descriptor)
  Scripting.ask (Course.redirect descriptor none)
  match text with
  | .ok text => return text.filter (· ≠ '\x00')
  | .error _ => return []

/-- Run the text of a file in the extended dialect, perhaps with arguments of its own. -/
def runFile (run : Scripting Nat) (path : Octets) (arguments : List Octets) : Scripting Nat := do
  let before ← get
  let invoked : Invoked := ⟨"source".toList, path, before.line⟩
  set { before with
    arguments := if arguments.isEmpty then before.arguments else arguments
    input := some path, commandName := none
    extras := { before.extras with
      running := invoked :: before.extras.running, nesting := before.extras.nesting + 1 } }
  Scripting.ensuring run (modify (fun after =>
    { after with
      arguments := if arguments.isEmpty then after.arguments else before.arguments
      input := before.input, commandName := before.commandName
      extras := { after.extras with
        running := before.extras.running, nesting := before.extras.nesting } }))

/-- Run the commands of a file. -/
def source (means : Means) (arguments : List Octets) : Scripting Nat := do
  match ← withoutOptions arguments with
  | [] =>
    if (← get).isExtended then Arguments.refuse "filename argument required".toList
    else return 0
  | name :: rest =>
    let session ← get
    let path ← scriptPath name
    let text ←
      if session.isExtended then Scripting.namingNothing (scriptText path) else scriptText path
    let run := means.perform (.script ⟨means.stance.isTested, false⟩
      (.start session.dialect text 1) 0)
    let status ←
      if session.isExtended then runFile run path rest else Scripting.naming path run
    modify (fun session' =>
      { session' with
        line := session.line
        skip := if session'.skip = .function then .nothing else session'.skip })
    return status

/-- Let a program take the place of the shell. -/
def exec (means : Means) (arguments : List Octets) : Scripting Nat := do
  let session ← get
  let (options, words) ←
    if session.isExtended then Arguments.options "cla:" arguments else pure ([], arguments)
  match words with
  | [] => return 0
  | name :: rest =>
    let places := Program.places session
    let path ←
      if session.isExtended then Program.demandInPlace places name
      else Program.demand places name
    Program.become means path ((options.lookup 'a').getD name) rest

/-- Tell from where the function or file is called that is run, or one that is so many calls
further out. -/
def caller (arguments : List Octets) : Scripting Nat := do
  let running := (← get).extras.running
  let say (fields : List Octets) : Scripting Nat := do
    Scripting.sayLine (Octets.joined [' '] fields)
    return 0
  match arguments, running with
  | _, [] => return 1
  | [], invoked :: outer =>
    say [Octets.ofNat invoked.calledFrom, (outer.head?.map Invoked.file).getD "NULL".toList]
  | text :: _, _ =>
    match Arguments.number? text with
    | none =>
      Scripting.warn (text ++ ": invalid number".toList)
      Arguments.tellUsage
      return 2
    | some n =>
      match running[n]?, running[n + 1]? with
      | some inner, some outer => say [Octets.ofNat inner.calledFrom, outer.name, outer.file]
      | _, _ => return 1

/-! ## Expressions -/

/-- Evaluate expressions; the last one succeeds unless it is zero. -/
def let' : List Octets → Scripting Nat
  | [] => Scripting.failWith "expression expected"
  | [expression] => return if (← Scripting.calculate expression) = 0 then 1 else 0
  | expression :: rest => do
    let _ ← Scripting.calculate expression
    let' rest

/-- Builtin commands that direct a script. -/
def directing (dialect : Dialect) : List Builtin :=
  [.special "break" (leaveLoops false), .special "continue" (leaveLoops true),
   .special "return" return', .special "exit" exit, ⟨"eval", true, false, eval⟩,
   ⟨".", true, false, source⟩, ⟨"exec", true, false, exec⟩] ++
    (match dialect with
    | .plain => []
    | .extended =>
      [⟨"source", false, false, source⟩, .plain "caller" caller, .plain "let" let'])

end PubSubTrials.Shell.Builtins
