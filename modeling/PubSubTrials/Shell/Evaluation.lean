import PubSubTrials.Shell.Loops

/-!
# Running commands

Commands are run one after the other, each with a status. Commands of pipelines, in parentheses
and in the background are run by copies of the shell. A command may have what follows it passed
over, up to the end of loops, of a function or of a file. Before and after each command the shell
does what the script says about signals that have come.
-/

namespace PubSubTrials.Shell.Evaluation

open Host (Course Signal)

/-! ## Signals -/

/-- Do what is to be done about signals, one after the other. -/
def answerSignals (perform : Performer) : List Signal → Scripting Unit
  | [] => return ()
  | signal :: rest => do
    match (← get).traps.lookup signal with
    | some action => Subshell.obey perform action
    | none => pure ()
    answerSignals perform rest

/-- Do what is to be done about signals that have come, unless something is passed over. -/
def heed (perform : Performer) : Scripting Unit := do
  if (← get).skip = .nothing then
    answerSignals perform (← Scripting.ask Course.heard)

/-- Whether something is passed over. -/
def isSkipping : Scripting Bool := return (← get).skip ≠ .nothing

/-! ## Processes -/

/-- Note a job that was started and is not waited for. -/
def addJob (processes : List Nat) : Scripting Unit :=
  modify (fun session =>
    let taken := session.jobs.map Job.number
    let number := ((List.range (taken.length + 1)).find? (fun n => !taken.contains (n + 1))).getD 0
    { session with
      background := processes.getLast?
      jobs := ⟨number + 1, processes, []⟩ :: session.jobs })

/-- Note where the program of a stage is, if its name is known before it is run. -/
def noteStage : Command → Scripting Unit
  | .simple _ _ (word :: _) _ _ => do
    match Word.plain? word with
    | some name =>
      let session ← get
      if isName name ∧ (Builtins.knownMeanings session name).isEmpty then
        match ← Scripting.ask (Course.findProgram (Program.places session) name) with
        | .ok path => Builtins.noteProgram name path 0
        | .error _ => return ()
    | none => return ()
  | _ => return ()

/-- Start the stages of a pipeline, each with the output of the one before it as input; the answer
is their processes. -/
def startStages (perform : Performer) (stance : Stance) (apart : Scripting Unit) :
    Option Nat → List Command → Scripting (List Nat)
  | _, [] => return []
  | input, stage :: rest => do
    if !(← get).isExtended then noteStage stage
    let enter (descriptor : Nat) (place? : Option Nat) : Scripting Unit := do
      match place? with
      | some place =>
        let handle ← Scripting.ask (Course.handle? place)
        Scripting.ask (Course.redirect descriptor handle)
        Scripting.ask (Course.redirect place none)
      | none => return ()
    let steps (output : Option Nat) : Scripting Nat := do
      apart
      enter 0 input
      enter 1 output
      perform (.command { stance with isLast := true } stage)
    let close (place? : Option Nat) : Scripting Unit :=
      match place? with
      | some place => Scripting.ask (Course.redirect place none)
      | none => return ()
    if rest.isEmpty then
      let number ← Subshell.start perform (steps none)
      close input
      return [number]
    else
      let pipe ← Scripting.ask Course.pipe
      let source ← Scripting.ask (Course.keep (.pipe pipe false))
      let drain ← Scripting.ask (Course.keep (.pipe pipe true))
      let number ← Subshell.start perform (do
        Scripting.ask (Course.redirect source none)
        steps (some drain))
      close input
      close (some drain)
      return number :: (← startStages perform stance apart (some source) rest)

/-- Wait for the stages of a pipeline. -/
def awaitStages (numbers : List Nat) : Scripting Nat := do
  let statuses ← numbers.mapM Subshell.await
  Scripting.adjust (fun extras => { extras with stageStatuses := statuses })
  let last := statuses.getLast?.getD 0
  let session ← get
  if session.isExtended ∧ session.has pipefail then
    return ((statuses.reverse.find? (· ≠ 0)).getD 0)
  else return last

/-- What a process does first that is not waited for: it reads nothing, and does not end when the
script is interrupted. -/
def detach : Scripting Unit := do
  Scripting.ask (Course.adjust (fun process =>
    { process with ignored := Signal.interrupt :: 3 :: process.ignored }))
  match ← Scripting.ask (Course.openFile ⟨"/dev/null"⟩ .read) with
  | .ok handle => Scripting.ask (Course.redirect 0 (some handle))
  | .error _ => return ()

/-- Run a command in a copy of the shell, in place if nothing comes after it. -/
def subshell (perform : Performer) (stance : Stance) (command : Command)
    (redirections : List Redirection) : Scripting Nat := do
  let steps : Scripting Nat :=
    Redirection.within perform redirections Redirection.failureStatus true
      (perform (.command { stance with isLast := true } command))
  if stance.isLast ∧ !Simple.hasTraps (← get) then
    Scripting.adjust (fun extras => { extras with level := extras.level + 1 })
    steps
  else Subshell.run perform steps

/-- Start a command that is not waited for. -/
def background (perform : Performer) (command : Command) (redirections : List Redirection) :
    Scripting Nat := do
  match command, redirections with
  | .pipeline stages, [] =>
    addJob (← startStages perform .usual detach none stages)
  | command, redirections =>
    let number ← Subshell.start perform (do
      detach
      Redirection.within perform redirections Redirection.failureStatus true
        (perform (.command ⟨false, true⟩ command)))
    addJob [number]
  return 0

/-! ## Choices -/

/-- Whether one of several patterns matches a text. -/
def matchesOne (perform : Performer) (subject : Octets) (patterns : List Word) : Scripting Bool :=
  patterns.anyM (fun pattern => do
    Expansion.fits (← Expansion.pattern perform false pattern) subject)

/-- Run the arm of a choice that is next: the first one of which a pattern matches, unless it is
`taken` without a look at its patterns. -/
def choose (perform : Performer) (stance : Stance) (subject : Octets) :
    List (List Word × Command × ArmEnd) → Bool → Nat → Scripting Nat
  | [], _, status => return status
  | (patterns, body, ending) :: rest, taken, status => do
    if taken || (← matchesOne perform subject patterns) then
      let isEnd := ending = .leave || rest.isEmpty
      let status ←
        if body.isNothing then pure 0
        else perform (.command { stance with isLast := stance.isLast && isEnd } body)
      if isEnd ∨ (← isSkipping) then return status
      else choose perform stance subject rest (ending = .goOn) status
    else choose perform stance subject rest false status

/-! ## Time -/

/-- A time in minutes and seconds. -/
def minutes (time : Duration) : Octets :=
  let milliseconds := time.nanoseconds / 1000000
  let seconds := milliseconds / 1000
  let digits := Octets.ofNat (milliseconds % 1000)
  Octets.ofNat (seconds / 60) ++ 'm' :: Octets.ofNat (seconds % 60) ++ '.' ::
    List.replicate (3 - digits.length) '0' ++ digits ++ ['s']

/-- A time in seconds. -/
def seconds (time : Duration) : Octets :=
  let hundredths := time.nanoseconds / 10000000
  let digits := Octets.ofNat (hundredths % 100)
  Octets.ofNat (hundredths / 100) ++ '.' :: List.replicate (2 - digits.length) '0' ++ digits

/-- Carry out steps and tell how long they took. -/
def timed (inSeconds : Bool) (steps : Scripting Nat) : Scripting Nat := do
  let start ← Scripting.ask Course.now
  let status ← steps
  let finish ← Scripting.ask Course.now
  let line (name : String) (time : Duration) : Octets :=
    if inSeconds then name.toList ++ ' ' :: seconds time ++ ['\n']
    else name.toList ++ '\t' :: minutes time ++ ['\n']
  let taken : Duration := ⟨finish.nanoseconds - start.nanoseconds⟩
  Scripting.emit 2 ((if inSeconds then [] else ['\n']) ++ line "real" taken ++
    line "user" ⟨0⟩ ++ line "sys" ⟨0⟩)
  return status

/-! ## Commands -/

/-- Note the line of a command. -/
def atLine (line : Nat) : Scripting Unit := modify (fun session => { session with line })

/-- Run commands one after the other. -/
def sequence (perform : Performer) (stance : Stance) : List Command → Scripting Nat
  | [] => return (← get).status
  | [last] => perform (.command stance last)
  | first :: rest => do
    let status ← perform (.command { stance with isLast := false } first)
    if ← isSkipping then return status else sequence perform stance rest

/-- The file to which a function belongs that is defined now. -/
def definingFile (session : Session) : Octets :=
  match session.extras.running with
  | invoked :: _ => invoked.file
  | [] => "environment".toList

/-- Evaluate an expression as a command. -/
def evaluation (perform : Performer) (expression : Word) : Scripting Nat := do
  let text ← Expansion.single perform expression
  Simple.trace perform ("(( ".toList ++ text ++ " ))".toList)
  if text.all Octets.isSpace then return 1
  else
    match ← Conditions.calculated? "((" text with
    | some n => return if n = 0 then 1 else 0
    | none => return 1

/-- Run a command; the answer is its status. -/
def run (means : Means) (stance : Stance) : Command → Scripting Nat
  | .simple line assignments words redirections declared =>
    Simple.command { means with stance } line assignments words redirections declared
  | .pipeline stages => do
    awaitStages (← startStages means.perform stance (pure ()) none stages)
  | .negation inner => do
    return if (← means.perform (.command .tested inner)) = 0 then 1 else 0
  | .both first second => do
    let status ← means.perform (.command .tested first)
    if status ≠ 0 ∨ (← isSkipping) then return status
    else means.perform (.command stance second)
  | .either first second => do
    let status ← means.perform (.command .tested first)
    if status = 0 ∨ (← isSkipping) then return status
    else means.perform (.command stance second)
  | .sequence commands => sequence means.perform stance commands
  | .background line inner redirections => do
    atLine line
    background means.perform inner redirections
  | .redirected line inner redirections => do
    atLine line
    Redirection.within means.perform redirections Redirection.failureStatus false
      (means.perform (.command (Loops.stanceIn stance) inner))
  | .subshell line inner redirections => do
    atLine line
    subshell means.perform stance inner redirections
  | .conditional test yes no => do
    let status ← means.perform (.command .tested test)
    if ← isSkipping then return status
    else if status = 0 then means.perform (.command stance yes)
    else if no.isNothing then return 0
    else means.perform (.command stance no)
  | .loop endsOnSuccess test body =>
    Loops.within (means.perform (.again (Loops.stanceIn stance) endsOnSuccess test body 0))
  | .each line name values body => do
    atLine line
    Loops.each means.perform stance name values body
  | .count line start test next body => do
    atLine line
    Loops.count means.perform stance start test next body
  | .choice line subject arms => do
    atLine line
    Simple.trace means.perform ("case ".toList ++ Word.source subject ++ " in".toList)
    choose means.perform stance (← Expansion.single means.perform subject) arms false 0
  | .menu line name values body => do
    atLine line
    Loops.menu means.perform stance name values body
  | .timed inSeconds inner =>
    timed inSeconds (means.perform (.command (Loops.stanceIn stance) inner))
  | .function line name body => do
    modify (fun session =>
      { session with
        functions := (name, ⟨line, definingFile session, body⟩) ::
          session.functions.filter (fun entry => entry.1 ≠ name) })
    return 0
  | .condition line inner => do
    atLine line
    Conditions.evaluate means.perform false inner
  | .evaluation line expression => do
    atLine line
    evaluation means.perform expression

/-- Whether a script may end when a command fails. -/
def isDecisive : Command → Bool
  | .simple .. | .subshell .. | .background .. | .pipeline .. => true
  | .condition .. | .evaluation .. => true
  | _ => false

/-- Whether the status of a command counts as that of a pipeline of one stage. -/
def isStage : Command → Bool
  | .simple .. | .subshell .. | .condition .. | .evaluation .. => true
  | _ => false

/-- Whether the moment before a command is one at which something may be done. -/
def isAnnounced : Command → Bool
  | .simple .. | .condition .. | .evaluation .. | .choice .. => true
  | _ => false

/-- Do what follows from the status of a command. -/
def follow (perform : Performer) (stance : Stance) (command : Command) (status : Nat) :
    Scripting Unit := do
  if isStage command then
    Scripting.adjust (fun extras => { extras with stageStatuses := [status] })
  if !stance.isTested ∧ isDecisive command ∧ status ≠ 0 then
    if (← get).skip = .nothing then Subshell.seize perform Subshell.atFailure
    if ← Scripting.has 'e' then throw .ended

/-- Run a command, and do what has to be done about signals. -/
def command (means : Means) (stance : Stance) (command : Command) : Scripting Nat := do
  if command.isNothing ∨ (← Scripting.has 'n') then return (← get).status
  else
    heed means.perform
    if isAnnounced command then Subshell.seize means.perform Subshell.beforeCommand
    let status ← run means stance command
    Scripting.setStatus status
    heed means.perform
    follow means.perform stance command status
    return (← get).status

/-! ## Scripts -/

/-- The line of a script that a fault is about. -/
def faultyLine (reading : Reading) (fault : Fault) : Octets :=
  let lines := Octets.splitOn Octets.lineEnd reading.rest
  lines.getD (fault.line - reading.line) []

/-- The text near the end of what was read of a script; so many characters of it are left. -/
def nearText (reading : Reading) (left : Nat) : Octets :=
  let taken := (reading.rest.take (reading.rest.length - left)).reverse
  let next := (reading.rest.drop taken.length).head?.toList
  let line := match taken with
    | '\n' :: before => before.takeWhile (· ≠ Octets.lineEnd)
    | before => next ++ before.takeWhile (· ≠ Octets.lineEnd)
  let line := line.dropWhile (fun c => c = Octets.lineEnd || Octets.isSpace c)
  let isSign (c : Char) : Bool := [';', '|', '&'].contains c
  let word := line.takeWhile (fun c => !isSign c && !Octets.isSpace c)
  let sign := (line.drop word.length).head?.filter isSign
  sign.toList ++ word.reverse

/-- The text near the place that a complaint is about. -/
def nearFault (reading : Reading) : Complaint → Octets
  | .condition _ left => nearText reading left
  | _ => []

/-- Complain about a script that cannot be read. -/
def complain (reading : Reading) (fault : Fault) : Scripting Nat := do
  modify (fun session => { session with line := fault.line })
  let session ← get
  if session.isExtended then
    let say (message : Octets) : Scripting Unit :=
      Scripting.emit 2 (session.complaintStart ++ message ++ [Octets.lineEnd])
    let near := Octets.toText (nearFault reading fault.complaint)
    (fault.complaint.extendedMessages near).forM (fun message => say (Octets.ofString message))
    if fault.complaint.quotesLine then say (['\x60'] ++ faultyLine reading fault ++ ['\''])
  else Scripting.warn ("Syntax error: " ++ fault.complaint.message).toList
  Scripting.setStatus 2
  throw .failure

/-- Warn of documents that only the end of the script has ended. -/
def warnEndless (documents : List (Awaited × Nat)) : Scripting Unit :=
  documents.forM (fun (awaited, line) => do
    modify (fun session => { session with line })
    Scripting.warn ("warning: here-document at line ".toList ++ Octets.ofNat awaited.line ++
      " delimited by end-of-file (wanted \x60".toList ++ awaited.mark ++ "')".toList))

/-- Run a line of a script. In the extended dialect a script that is a file goes on after a line
that has failed. -/
def performLine (perform : Performer) (stance : Stance) (line : Command) : Scripting Nat := do
  let session ← get
  let run := perform (.command stance line)
  if session.isExtended ∧ session.input.isNone then
    match ← Scripting.attempt run with
    | .ok status => return status
    | .error .ended => throw .ended
    | .error .failure =>
      modify (fun session => { session with skip := .nothing, loops := 0 })
      return (← get).status
  else run

/-- Run what is left of a script. -/
def script (perform : Performer) (stance : Stance) (reading : Reading) (status : Nat) :
    Scripting Nat := do
  let session ← get
  let reading := { reading with
    documents := session.documents, knowsGroups := session.hasFeature "extglob" }
  match Grammar.line.run reading with
  | .error fault => complain reading fault
  | .ok (none, _) => return status
  | .ok (some line, after) =>
    set { session with documents := after.documents, readLine := after.line }
    if session.isExtended then warnEndless after.endless
    if session.has 'v' then
      Scripting.emit 2 (reading.rest.take (reading.rest.length - after.rest.length))
    let isLast := stance.isLast && after.rest.isEmpty
    let ran ← performLine perform { stance with isLast } line
    let status := if line.isNothing then status else ran
    if ← isSkipping then return status
    else perform (.script stance { after with endless := [] } status)

/-- Carry out an act. -/
def act (means : Means) : Act → Scripting Nat
  | .command stance inner => command means stance inner
  | .script stance reading status => script means.perform stance reading status
  | .again stance endsOnSuccess test body status =>
    Loops.again means.perform stance endsOnSuccess test body status
  | .counting stance test next body status =>
    Loops.counting means.perform stance test next body status

end PubSubTrials.Shell.Evaluation
