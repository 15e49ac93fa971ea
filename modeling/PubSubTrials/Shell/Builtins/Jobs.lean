import PubSubTrials.Shell.Builtins.Basic

/-!
# Builtin commands about jobs

Waiting for processes that were started and not waited for, telling how they fare, and refusing to
resume them, since no job can be stopped.
-/

namespace PubSubTrials.Shell.Builtins

open Host (Course Fate Signal)

/-- The job that a text names. -/
def jobNamed (text : Octets) : Scripting Job := do
  let jobs := (← get).jobs
  let found := match text with
    | ['%'] | ['%', '%'] | ['%', '+'] => jobs.head?
    | ['%', '-'] => jobs[1]?
    | '%' :: digits =>
      jobs.find? (fun job => some job.number = Arguments.number? digits)
    | _ => none
  match found with
  | some job => return job
  | none =>
    if (← get).isExtended then Scripting.failAbout text "no such job"
    else Scripting.fail ("No such job: ".toList ++ text)

/-- Wait for one process more, if there is one; the answer tells which, or the signal that
interrupted the waiting. -/
def awaitNext : Scripting (Option (Except Signal (Nat × Fate))) := do
  match ← Scripting.ask (Course.wait none true) with
  | none => return none
  | some (number, some fate) =>
    Subshell.note number fate
    return some (.ok (number, fate))
  | some (_, none) =>
    let pending ← Scripting.ask (Course.learn (fun process _ => process.pending))
    return some (.error (pending.head?.getD 0))

/-- Wait until all jobs that satisfy a condition are done; the answer is the signal that
interrupted the waiting, if one did. `told` says which ends are told. -/
def awaitJobs (p : Job → Bool) (told : Bool) : Nat → Scripting (Option Signal)
  | 0 => return none
  | fuel + 1 => do
    if (← get).jobs.all (fun job => !p job || job.isDone) then return none
    else
      match ← awaitNext with
      | none => return none
      | some (.error signal) => return some signal
      | some (.ok (number, fate)) =>
        if told ∧ (← get).jobs.any (fun job => p job && job.processes.contains number) then
          Subshell.announce fate
        awaitJobs p told fuel

/-- The job that a text stands for by the number of its last process, or as a job. Of others the
extended dialect complains, and the answer is a status. -/
def awaited (word : Octets) : Scripting (Except Nat Job) := do
  let isExtended := (← get).isExtended
  if word.head? = some '%' then
    match ← Scripting.attempt (jobNamed word) with
    | .ok job => return .ok job
    | .error stop => if isExtended then return .error 127 else throw stop
  else if isExtended ∧ !word.all Char.isDigit then
    Scripting.warn (['\x60'] ++ word ++ "': not a pid or valid job spec".toList)
    return .error 1
  else
    let number ← Arguments.number word
    match (← get).jobs.find? (fun job => job.processes.getLast? = some number) with
    | some job => return .ok job
    | none =>
      if isExtended then
        Scripting.warn ("pid ".toList ++ word ++ " is not a child of this shell".toList)
      return .error 127

/-- Wait for processes and jobs. -/
def wait (arguments : List Octets) : Scripting Nat := do
  let session ← get
  let (options, words) ← Arguments.options (if session.isExtended then "fnp:" else "") arguments
  if words.isEmpty then
    if Arguments.given options 'n' then
      match ← awaitNext with
      | some (.ok (number, fate)) =>
        noteWhich options number
        return fate.status
      | some (.error signal) => return 128 + signal
      | none => return 127
    else
      match ← awaitJobs (fun _ => true) false Reading.manyTimes with
      | some signal => return 128 + signal
      | none => return 0
  else waitFor options 127 words
where
  /-- Note in a variable for which process was waited. -/
  noteWhich (options : List (Char × Octets)) (number : Nat) : Scripting Unit := do
    match options.lookup 'p' with
    | some name => Scripting.assign name (Octets.ofNat number)
    | none => return ()
  /-- Wait for one after the other. -/
  waitFor (options : List (Char × Octets)) (status : Nat) : List Octets → Scripting Nat
    | [] => return status
    | word :: rest => do
      match ← awaited word with
      | .error status => waitFor options status rest
      | .ok job =>
        match ← awaitJobs (fun other => other.number = job.number) true Reading.manyTimes with
        | some signal => return 128 + signal
        | none =>
          noteWhich options (job.processes.getLast?.getD 0)
          let status := match (← get).jobs.find? (fun other => other.number = job.number) with
            | some job => job.status
            | none => 127
          waitFor options status rest

/-- Print the jobs. -/
def jobs (arguments : List Octets) : Scripting Nat := do
  let (options, names) ←
    Arguments.options (if (← get).isExtended then "lpnrs" else "lp") arguments
  let update : Scripting Unit := do
    let ended ← Scripting.ask (Course.carryOut (fun process host =>
      let ended := host.endedChildren process.number none
      (ended, ended.foldl (fun host child => host.forget child.number) host)))
    for child in ended do
      Subshell.note child.number child.fate
  update
  let session ← get
  let named := (← names.mapM jobNamed).map Job.number
  for (job, place) in session.jobs.zipIdx do
    if !names.isEmpty ∧ !named.contains job.number then continue
    else if Arguments.given options 'p' then
      Scripting.sayLine (Octets.ofNat (job.processes.head?.getD 0))
    else
      let mark := if place = 0 then '+' else if place = 1 then '-' else ' '
      let state :=
        if !job.isDone then "Running"
        else if job.status = 0 then "Done"
        else if job.status > 128 then Signal.description (job.status - 128)
        else "Done(" ++ toString job.status ++ ")"
      let blanks := List.replicate (27 - state.length) ' '
      Scripting.sayLine
        ('[' :: Octets.ofNat job.number ++ [']', ' ', mark, ' '] ++ state.toList ++ blanks)
  modify (fun session => { session with jobs := session.jobs.filter (fun job => !job.isDone) })
  return 0

/-- Complain that the shell cannot be stopped. -/
def suspend (_ : List Octets) : Scripting Nat :=
  Scripting.failWith "cannot suspend: no job control"

/-- Complain that there is no job that could be resumed. -/
def resume (arguments : List Octets) : Scripting Nat := do
  if (← get).isExtended then Scripting.failWith "no job control"
  else
    match arguments with
    | [] =>
      if (← get).jobs.isEmpty then Scripting.failWith "No current job"
      else Scripting.failWith "job not created under job control"
    | word :: _ =>
      let _ ← jobNamed word
      Scripting.fail ("job ".toList ++ word ++ " not created under job control".toList)

/-- Forget jobs. -/
def disown (arguments : List Octets) : Scripting Nat := do
  let (_, words) ← Arguments.options "har" arguments
  match words with
  | [] =>
    if (← get).jobs.isEmpty then Scripting.failWith "current: no such job" else return 0
  | words =>
    for word in words do
      let job ← jobNamed word
      modify (fun session =>
        { session with jobs := session.jobs.filter (fun other => other.number ≠ job.number) })
    return 0

/-- Builtin commands about jobs. -/
def aboutJobs (dialect : Dialect) : List Builtin :=
  [.plain "wait" wait, .plain "jobs" jobs, .plain "fg" resume, .plain "bg" resume] ++
    (match dialect with
    | .plain => []
    | .extended => [.plain "disown" disown, .plain "suspend" suspend])

end PubSubTrials.Shell.Builtins
