import PubSubTrials.Shell.Builtins.Jobs

/-!
# Builtin commands about signals

Saying what is done when a signal comes, or at certain moments of a script, and sending signals.
-/

namespace PubSubTrials.Shell.Builtins

open Host (Course Signal)

/-! ## Signals -/

/-- Moments of a script, and the numbers under which they stand among the signals. -/
def moments (isExtended : Bool) : List (String × Signal) :=
  ("EXIT", Subshell.atEnd) ::
    (if isExtended then
      [("DEBUG", Subshell.beforeCommand), ("ERR", Subshell.atFailure),
       ("RETURN", Subshell.atReturn)]
    else [])

/-- The name of a signal or of a moment. -/
def signalName (isExtended : Bool) (signal : Signal) : Octets :=
  match (moments isExtended).find? (fun entry => entry.2 = signal) with
  | some (name, _) => name.toList
  | none =>
    match if isExtended ∨ signal ≠ 16 then Signal.name? signal else none with
    | some name => name.toList
    | none => Octets.ofNat signal

/-- The signal that a text names by number or name. -/
def signalOf? (isExtended : Bool) (text : Octets) : Option Signal :=
  if !text.isEmpty ∧ text.all Char.isDigit then
    let n := Arithmetic.digitsValue 10 text
    if n ≤ Signal.last then some n else none
  else
    let upper := String.ofList (text.map Char.toUpper)
    match (moments isExtended).lookup upper with
    | some moment => some moment
    | none =>
      if !isExtended ∧ (upper.startsWith "SIG" ∨ upper = "STKFLT") then none
      else Signal.ofName? upper

/-- Tell the host what is done about a signal. -/
def arrange (signal : Signal) (action : Option Octets) : Scripting Unit := do
  if signal ≠ Subshell.atEnd ∧ signal ≤ Signal.last ∧ !(← get).ignored.contains signal then
    Scripting.ask (Course.adjust (fun process =>
      let ignored := process.ignored.filter (· ≠ signal)
      let caught := process.caught.filter (· ≠ signal)
      match action with
      | none => { process with ignored, caught }
      | some [] => { process with ignored := signal :: ignored, caught }
      | some _ => { process with ignored, caught := signal :: caught }))

/-- Print what is done about signals, of those that `p` chooses. -/
def listTraps (p : Signal → Bool) : Scripting Unit := do
  let session ← get
  let isExtended := session.isExtended
  let chosen := session.traps.filter (fun trap => p trap.1)
  for (signal, action) in chosen.mergeSort (fun a b => a.1 ≤ b.1) do
    let isMoment := (moments isExtended).any (fun entry => entry.2 = signal)
    let name := signalName isExtended signal
    Scripting.sayLine ("trap -- ".toList ++
      (if isExtended then Spelled.singleQuoted action else Spelled.quoted action) ++
      ' ' :: (if isExtended ∧ !isMoment then "SIG".toList ++ name else name))

/-- Complain about a text that names no signal for a trap. -/
def complainTrap (name : Octets) : Scripting Unit := do
  if (← get).isExtended then Scripting.warn (name ++ ": invalid signal specification".toList)
  else Scripting.emit 2 ("trap: ".toList ++ name ++ ": bad trap\n".toList)

/-- Say what is done about a signal. -/
def setTrap (action : Option Octets) (signal : Signal) : Scripting Unit := do
  modify (fun session =>
    let others := session.traps.filter (fun trap => trap.1 ≠ signal)
    { session with traps := (action.map (fun action => (signal, action))).toList ++ others })
  arrange signal action

/-- Say what is done about each of several signals. -/
def setTraps (action : Option Octets) : List Octets → Nat → Scripting Nat
  | [], status => return status
  | name :: rest, status => do
    let isExtended := (← get).isExtended
    match signalOf? isExtended name with
    | none =>
      complainTrap name
      if isExtended then setTraps action rest 1 else return 1
    | some signal =>
      setTrap action signal
      setTraps action rest status

/-- A number in a column of two places. -/
def numbered (n : Nat) : Octets := (if n < 10 then [' '] else []) ++ Octets.ofNat n

/-- The names of all signals in five columns. -/
def signalTable : List Octets :=
  let entries := ((List.range (Signal.last + 1)).filter (0 < ·)).filterMap (fun n =>
    (Signal.name? n).map (fun name => numbered n ++ ") SIG".toList ++ name.toList))
  let rows := (List.range ((entries.length + 4) / 5)).map (fun row =>
    (entries.drop (5 * row)).take 5)
  rows.map (fun row =>
    Octets.joined ['\t'] row ++ (if row.length < 5 then ['\t'] else []))

/-- Print the names of all signals in columns. -/
def showSignals : Scripting Unit := signalTable.forM Scripting.sayLine

/-- What a trap does and what it is for. -/
def trapOf (words : List Octets) : Option Octets × List Octets :=
  match words with
  | first :: second :: rest =>
    if !first.isEmpty ∧ first.all Char.isDigit ∧ (signalOf? false first).isSome then (none, words)
    else (if first = ['-'] then none else some first, second :: rest)
  | words => (none, words)

/-- Say what is done about signals. -/
def trap (arguments : List Octets) : Scripting Nat := do
  let isExtended := (← get).isExtended
  let (options, words) ← Arguments.options (if isExtended then "lp" else "") arguments
  if Arguments.given options 'l' then
    showSignals
    return 0
  else if words.isEmpty then
    listTraps (fun _ => true)
    return 0
  else if Arguments.given options 'p' then
    listTraps ((words.filterMap (signalOf? isExtended)).contains ·)
    return 0
  else
    let (action, names) := trapOf words
    setTraps action names 0

/-! ## Sending signals -/

/-- How sending signals is used. -/
def killUsage : String :=
  "Usage: kill [-s sigspec | -signum | -sigspec] [pid | job]... or\nkill -l [exitstatus]"

/-- Complain about the use of signals. -/
def complainKill : Scripting Nat := do
  if (← get).isExtended then
    Arguments.tellUsage
    return 2
  else Scripting.failWith killUsage

/-- The number behind a status with which a signal has ended a process, or the number itself. -/
def signalBehind (n : Nat) : Nat := if 128 < n then n - 128 else n

/-- Print the names of signals in the plain dialect. -/
def listPlainSignals (arguments : List Octets) : Scripting Nat := do
  match arguments with
  | [] =>
    Scripting.sayLine ['0']
    for n in (List.range (Signal.last + 1)).filter (0 < ·) do
      Scripting.sayLine (signalName false n)
    return 0
  | text :: _ =>
    let n := signalBehind (← Arguments.number text)
    if 0 < n ∧ n ≤ Signal.last then
      Scripting.sayLine (signalName false n)
      return 0
    else Scripting.fail ("invalid signal number or exit status: ".toList ++ text)

/-- Print the names of signals that are numbers, and the numbers of those that are names. -/
def listExtendedSignals : List Octets → Scripting Nat
  | [] => return 0
  | text :: rest => do
    match Arguments.number? text with
    | some n =>
      match signalOf? true (Octets.ofNat (signalBehind n)) with
      | some signal => Scripting.sayLine (signalName true signal)
      | none => Scripting.failAbout text "invalid signal specification"
    | none =>
      match signalOf? true text with
      | some signal => Scripting.sayLine (Octets.ofNat signal)
      | none => Scripting.failAbout text "invalid signal specification"
    listExtendedSignals rest

/-- The processes that a text stands for. -/
def targets (text : Octets) : Scripting (List Nat) := do
  match text with
  | '%' :: _ =>
    let job ← jobNamed text
    return if (← get).isExtended then job.processes else []
  | '-' :: digits =>
    let group ← Arguments.number digits
    Scripting.ask (Course.learn (fun _ host =>
      if group = 1 then host.processes.map (·.number) else host.members group))
  | digits =>
    if (← get).isExtended ∧ (Arguments.number? digits).isNone then
      Scripting.failAbout digits "arguments must be process or job IDs"
    let number ← Arguments.number digits
    if number = 0 then
      Scripting.ask (Course.learn (fun process host => host.members process.group))
    else return [number]

/-- Send a signal to processes. -/
def send (signal : Signal) : List Octets → Nat → Scripting Nat
  | [], status => return status
  | text :: rest, status => do
    let numbers ← targets text
    if ← Scripting.ask (Course.signal signal numbers) then send signal rest status
    else
      if (← get).isExtended then
        Scripting.warn (['('] ++ text ++ ") - No such process".toList)
      else Scripting.warn "No such process\n".toList
      send signal rest 1

/-- Send signals or print their names in the plain dialect. -/
def killPlain (arguments : List Octets) : Scripting Nat := do
  match arguments with
  | [] => complainKill
  | ('-' :: name) :: rest =>
    match signalOf? false name with
    | some signal => if rest.isEmpty then complainKill else send signal rest 0
    | none =>
      let (options, rest) ← Arguments.options "ls:" arguments
      if Arguments.given options 'l' then listPlainSignals rest
      else
        match options.lookup 's' with
        | none => if rest.isEmpty then complainKill else send Signal.terminate rest 0
        | some name =>
          match signalOf? false name with
          | some signal => if rest.isEmpty then complainKill else send signal rest 0
          | none => Scripting.fail ("invalid signal number or name: ".toList ++ name)
  | words => send Signal.terminate words 0

/-- Send signals or print their names in the extended dialect; `signal` is the one to send so
far. -/
def killFrom (signal : Signal) : List Octets → Scripting Nat
  | [] => complainKill
  | ['-', '-'] :: rest => sendAll signal rest
  | ['-', 's'] :: name :: rest | ['-', 'n'] :: name :: rest => do
    match signalOf? true name with
    | some signal => killFrom signal rest
    | none => Scripting.failAbout name "invalid signal specification"
  | ['-', 'l'] :: rest | ['-', 'L'] :: rest => do
    if rest.isEmpty then
      showSignals
      return 0
    else listExtendedSignals rest
  | ('-' :: name) :: rest => do
    match signalOf? true name with
    | some signal => sendAll signal rest
    | none => Scripting.failAbout name "invalid signal specification"
  | words => sendAll signal words
where
  /-- Send a signal to processes, of which there has to be one. -/
  sendAll (signal : Signal) (words : List Octets) : Scripting Nat :=
    if words.isEmpty then complainKill else send signal words 0

/-- Send signals or print their names. -/
def kill (arguments : List Octets) : Scripting Nat := do
  if (← get).isExtended then killFrom Signal.terminate arguments else killPlain arguments

/-- Builtin commands about signals. -/
def aboutSignals : List Builtin := [.special "trap" trap, .plain "kill" kill]

end PubSubTrials.Shell.Builtins
