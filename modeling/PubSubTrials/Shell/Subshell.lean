import PubSubTrials.Shell.Act

/-!
# Processes of a shell

A shell runs some commands in copies of itself. A copy forgets what the script does about signals
and its jobs; when it ends, what it does at the end of the script comes last. The shell waits for
a copy unless it runs in the background, and tells when a signal has ended it.
-/

namespace PubSubTrials.Shell

open Host (Course Fate Signal)

namespace Subshell

/-- The number under which the end of a script is kept among the traps. -/
def atEnd : Signal := 0

/-- The number under which the moment before a command is kept among the traps. -/
def beforeCommand : Signal := 65

/-- The number under which the failure of a command is kept among the traps. -/
def atFailure : Signal := 66

/-- The number under which the end of a function is kept among the traps. -/
def atReturn : Signal := 67

/-- Whether functions and copies of the shell know nothing of what is to be done at a moment. -/
def isLocal (session : Session) (moment : Signal) : Bool :=
  (moment = atFailure && !session.has 'E') ||
    ((moment = beforeCommand || moment = atReturn) && !session.has 'T')

/-- A session as a copy of the shell has it. -/
def copied (session : Session) : Session :=
  { session with
    traps := session.traps.filter (fun trap =>
      trap.1 ≠ atEnd && (trap.2.isEmpty ||
        ([beforeCommand, atFailure, atReturn].contains trap.1 && !isLocal session trap.1)))
    jobs := [], skip := .nothing
    extras := { session.extras with level := session.extras.level + 1 } }

/-- Run a text as commands; `input` is what the text is called. -/
def runText (perform : Performer) (stance : Stance) (input : String) (text : Octets) :
    Scripting Nat := do
  let session ← get
  set { session with
    input := some input.toList
    extras := { session.extras with nesting := session.extras.nesting + 1 } }
  Scripting.ensuring
    (perform (.script stance (.start session.dialect text session.line) 0))
    (modify (fun after =>
      { after with
        input := session.input
        extras := { after.extras with nesting := session.extras.nesting } }))

/-- Carry out steps that know nothing of some traps, unless they set them. -/
def withoutTraps {α : Type} (p : Signal → Bool) (steps : Scripting α) : Scripting α := do
  let session ← get
  let (hidden, traps) := session.traps.partition (fun trap => p trap.1)
  if hidden.isEmpty then steps
  else
    set { session with traps }
    Scripting.ensuring steps (modify (fun after =>
      let missing := hidden.filter (fun trap => !after.traps.any (fun other => other.1 = trap.1))
      { after with traps := missing ++ after.traps }))

/-- Do what a trap asks for; the status is the same as before unless a function is left. -/
def obey (perform : Performer) (action : Octets) : Scripting Unit := do
  let session ← get
  if !action.isEmpty then
    set { session with heldStatus := some session.status }
    let _ ← runText perform .usual "trap handler" action
    modify (fun after =>
      { after with
        heldStatus := session.heldStatus
        status := if after.skip = .function then after.status else session.status })

/-- Do what is to be done at a moment; that itself makes no such moments. -/
def seize (perform : Performer) (moment : Signal) : Scripting Unit := do
  match (← get).traps.lookup moment with
  | some action => withoutTraps (· = moment) (obey perform action)
  | none => return ()

/-- What is done when a script ends. -/
def conclude (perform : Performer) : Scripting Nat := do
  let session ← get
  let status := session.heldStatus.getD session.status
  match session.traps.lookup atEnd with
  | some action =>
    if action.isEmpty then return status
    else
      set { session with
        traps := session.traps.filter (fun trap => trap.1 ≠ atEnd)
        status, heldStatus := some status, skip := .nothing, loops := 0 }
      let _ ← Scripting.attempt (runText perform .usual "exit trap" action)
      return (← get).heldStatus.getD status
  | none => return status

/-- All that a shell does that carries out steps and then ends. -/
def course (perform : Performer) (session : Session) (steps : Scripting Nat) : Course Nat := do
  let (result, session) ← steps.run.run session
  let session := match result with
    | .ok status => { session with status }
    | .error _ => session
  let (result, session) ← (conclude perform).run.run session
  match result with
  | .ok status => return status
  | .error _ => return session.status

/-- Carry out steps in a copy of the shell; the answer is the number of its process. -/
def start (perform : Performer) (steps : Scripting Nat) : Scripting Nat := do
  let session ← get
  let own : Scripting Nat := do
    let process ← Scripting.ask Course.number
    Scripting.adjust (fun extras => { extras with process })
    steps
  Scripting.ask (Course.fork (course perform (copied session) own))

/-- Note how a process of a job has ended. -/
def note (number : Nat) (fate : Fate) : Scripting Unit :=
  modify (fun session =>
    { session with
      jobs := session.jobs.map (fun job =>
        if job.processes.contains number then
          { job with fates := (number, fate) :: job.fates }
        else job) })

/-- Tell that a signal has ended a process. -/
def announce (fate : Fate) : Scripting Unit := do
  match fate with
  | .ended signal =>
    if signal ≠ Signal.interrupt ∧ signal ≠ Signal.brokenPipe ∧ !(← get).isExtended then
      Scripting.emit 2 (Signal.description signal ++ "\n").toList
  | _ => return ()

/-- Wait for a process; the answer is its status. -/
def await (number : Nat) : Scripting Nat := do
  let fate ← Scripting.ask (Course.fateOf number)
  announce fate
  return fate.status

/-- Carry out steps in a copy of the shell and wait for it. -/
def run (perform : Performer) (steps : Scripting Nat) : Scripting Nat := do
  await (← start perform steps)

/-- What a copy of the shell does first whose output or input another command takes: in the
extended dialect failures do not end it. -/
def beginTaken : Scripting Unit :=
  modify (fun session =>
    let forgives := session.isExtended && !session.hasFeature "inherit_errexit"
    { session with
      options := if forgives then session.options.filter (· ≠ 'e') else session.options
      extras := { session.extras with nesting := session.extras.nesting + 1 } })

/-- What is run for a command of the extended dialect whose output is taken: a lone file to read
from is copied. -/
def takenCommand : Command → Command
  | .simple line [] [] [.mk 0 (.fromFile path)] [] =>
    let words := ["command", "-p", "cat"].map (fun word => Word.ofText word.toList)
    .simple line [] words [.mk 0 (.fromFile path)] []
  | command => command

/-- What a command writes, without the line ends that it closes with. -/
def outputOf (perform : Performer) (command : Command) : Scripting Octets := do
  if command.isNothing then
    modify (fun session => { session with outputStatus := 0 })
    return []
  else
    let pipe ← Scripting.ask Course.pipe
    let source ← Scripting.ask (Course.keep (.pipe pipe false))
    let drain ← Scripting.ask (Course.keep (.pipe pipe true))
    let child ← start perform (do
      Scripting.ask (Course.redirect 1 (some (.pipe pipe true)))
      Scripting.ask (Course.redirect source none)
      Scripting.ask (Course.redirect drain none)
      beginTaken
      let command := if (← get).isExtended then takenCommand command else command
      perform (.command ⟨false, true⟩ command))
    Scripting.ask (Course.redirect drain none)
    let text ← Scripting.ask (Course.readAll source)
    Scripting.ask (Course.redirect source none)
    let status ← await child
    modify (fun session => { session with outputStatus := status })
    let text := match text with
      | .ok text => text.filter (· ≠ '\x00')
      | .error _ => []
    return (text.reverse.dropWhile (· = '\n')).reverse

/-- The largest descriptor behind a path. -/
def firstChannel : Nat := 63

/-- The path of a file from which what a command writes can be read, or to which its input can be
written. The descriptor behind it is closed after the command that the path is meant for. -/
def channelOf (perform : Performer) (isRead : Bool) (command : Command) : Scripting Octets := do
  let pipe ← Scripting.ask Course.pipe
  let descriptor ← Scripting.ask (Course.learn (fun process _ =>
    ((List.range (firstChannel + 1)).reverse.find?
      (fun n => (process.handle? n).isNone)).getD firstChannel))
  Scripting.ask (Course.redirect descriptor (some (.pipe pipe !isRead)))
  let other ← Scripting.ask (Course.keep (.pipe pipe isRead))
  let number ← start perform (do
    Scripting.ask (Course.redirect (if isRead then 1 else 0) (some (.pipe pipe isRead)))
    Scripting.ask (Course.redirect other none)
    Scripting.ask (Course.redirect descriptor none)
    beginTaken
    perform (.command ⟨false, true⟩ command))
  Scripting.ask (Course.redirect other none)
  Scripting.adjust (fun extras => { extras with channels := descriptor :: extras.channels })
  modify (fun session => { session with background := some number })
  return "/dev/fd/".toList ++ Octets.ofNat descriptor

/-- Close the descriptors behind paths that were given out since there were `known`. -/
def closeChannels (known : List Nat) : Scripting Unit := do
  for descriptor in (← get).extras.channels do
    if !known.contains descriptor then Scripting.ask (Course.redirect descriptor none)
  Scripting.adjust (fun extras => { extras with channels := known })

end Subshell

end PubSubTrials.Shell
