import PubSubTrials.Decimal.Quantity
import PubSubTrials.Programs.Options
import PubSubTrials.Text.Format

/-!
# Programs that run other programs

Programs that run another one with a changed environment, in other circumstances, for a limited
time, or again and again with words from their input; and the one that only lets time pass.
-/

namespace PubSubTrials.Programs

open Host (Call Course Fate Signal)
open Shell (Executor)
open Decimal (Quantity)

/-- The status of a program that cannot be run. -/
def launchStatus (error : SystemError) : Nat := if error = .noEntry then 127 else 126

/-- Run another program in the place of this one, or complain with a text in front of its name. -/
def launch (execute : Executor) (environment : List (Octets × Octets)) (complaint : String)
    (quotes : Bool) (words : List Octets) : Running Unit := do
  let error ← Running.become execute environment words
  let name := words.head?.getD []
  let shown := if quotes then Running.quoted name else name
  Running.fail (complaint.toList ++ shown ++ [':', ' '] ++ error.reason.toList)
    (launchStatus error)

/-- The environment of a program. -/
def environment : Running (List (Octets × Octets)) := return (← get).call.environment

/-! ## Time -/

/-- The seconds of a unit of time. -/
def secondsOf? : Octets → Option Nat
  | [] | ['s'] => some 1
  | ['m'] => some 60
  | ['h'] => some 3600
  | ['d'] => some 86400
  | _ => none

/-- The time that a text stands for: a number with a unit; there is none if it never ends. -/
def interval? (text : Octets) : Option (Option Duration) :=
  match Quantity.ofText? text with
  | none => none
  | some found =>
    match secondsOf? found.rest with
    | none => none
    | some seconds =>
      if found.value.isNegative ∨ text.head?.any Octets.isSpace then none
      else if !found.value.isFinite then some none
      else
        let time := (found.value.mul (.ofInt (seconds * Duration.perSecond))).truncated
        some (some ⟨time.toNat⟩)

/-- The time that an operand stands for. -/
def demandInterval (text : Octets) (status : Nat) : Running (Option Duration) := do
  match interval? text with
  | some time => return time
  | none => Running.failUsage ("invalid time interval ".toList ++ Running.quoted text) status

/-- Let time pass. -/
def sleep (arguments : List Octets) : Running Unit := do
  let chosen ← OptionTable.read (.ofLetters "") arguments 1
  if chosen.operands.isEmpty then Running.failUsage "missing operand".toList 1
  else
    let times ← chosen.operands.mapM (demandInterval · 1)
    match times.mapM id with
    | some times => Running.ask (Course.sleep (times.foldl Duration.add .zero))
    | none => Running.ask Course.hang

/-- Wait for a program that has a limited time, and send it a signal after that, and another one
after more time. -/
def supervise (child : Nat) (name : Octets) (signal : Signal) (limit patience : Option Duration)
    (wholeGroup keepsStatus verbose : Bool) : Running Unit := do
  let send (signal : Signal) : Running Unit := do
    if verbose then
      Running.warn ("sending signal ".toList ++ ((Signal.name? signal).getD "").toList ++
        " to command ".toList ++ Running.quoted name)
    let own ← Running.ask Course.number
    let members ← Running.ask (Course.learn (fun process host =>
      if wholeGroup then (host.members process.group).filter (· ≠ own) else []))
    let _ ← Running.ask (Course.signal signal (child :: members.filter (· ≠ child)))
  let await (limit : Option Duration) : Running (Option Fate) := do
    match limit with
    | none => return some (← Running.ask (Course.fateOf child))
    | some limit =>
      let now ← Running.ask Course.now
      Running.ask (Course.waitUntil child (now.add limit))
  match ← await limit with
  | some fate => Running.setStatus fate.status
  | none =>
    send signal
    let (fate, killed) : Fate × Bool ← match patience with
      | none => do pure (← Running.ask (Course.fateOf child), decide (signal = Signal.kill))
      | some _ => do
        match ← await patience with
        | some fate => pure (fate, decide (signal = Signal.kill))
        | none =>
          send Signal.kill
          pure (← Running.ask (Course.fateOf child), true)
    if keepsStatus then Running.setStatus fate.status
    else if killed then
      let own ← Running.ask Course.number
      let _ ← Running.ask (Course.signal Signal.kill [own])
    else Running.setStatus 124

/-- The signal that a text names. -/
def demandSignal (text : Octets) : Running Signal := do
  let upper := String.ofList (text.map Char.toUpper)
  match upper.toNat? with
  | some n => if n < 65 then return n else refuse
  | none =>
    match Signal.ofName? upper with
    | some signal => return signal
    | none => refuse
where
  /-- Complain about the text. -/
  refuse : Running Signal :=
    Running.failUsage (Running.quoted text ++ ": invalid signal".toList) 125

/-- Run a program for a limited time. -/
def timeout (execute : Executor) (arguments : List Octets) : Running Unit := do
  let table : OptionTable :=
    ⟨"fk:ps:v", [("foreground", .never, 'f'), ("kill-after", .always, 'k'),
      ("preserve-status", .never, 'p'), ("signal", .always, 's'), ("verbose", .never, 'v')],
      false⟩
  let chosen ← table.read arguments 125
  match chosen.operands with
  | limit :: name :: rest =>
    let signal ← match chosen.value? 's' with
      | some text => demandSignal text
      | none => pure Signal.terminate
    let patience ← match chosen.value? 'k' with
      | some text => demandInterval text 125
      | none => pure none
    let limit ← demandInterval limit 125
    let nonZero (time : Option Duration) : Option Duration :=
      time.filter (fun time => 0 < time.nanoseconds)
    let wholeGroup := !chosen.has 'f'
    if wholeGroup then
      Running.ask (Course.adjust (fun process => { process with group := process.number }))
    let call := (← get).call
    let child ← Running.ask (Course.fork (Running.course
      (launch execute call.environment "failed to run command " true (name :: rest)) call))
    supervise child name signal (nonZero limit) (nonZero patience) wholeGroup
      (chosen.has 'p') (chosen.has 'v')
  | _ =>
    Running.tell ("Try '".toList ++ (← Running.name) ++
      " --help' for more information.\n".toList)
    throw 125

/-! ## Environments -/

/-- Print variables of the environment. -/
def printVariables (entries : List (Octets × Octets)) (ending : Octets) : Running Unit :=
  entries.forM (fun (name, value) => Running.put (name ++ '=' :: value ++ ending))

/-- Put a variable into an environment. -/
def withVariable (environment : List (Octets × Octets)) (name value : Octets) :
    List (Octets × Octets) :=
  if environment.any (fun entry => entry.1 = name) then
    environment.map (fun entry => if entry.1 = name then (name, value) else entry)
  else environment ++ [(name, value)]

/-- Run a program in another environment, or print that environment. -/
def env (execute : Executor) (arguments : List Octets) : Running Unit := do
  let table : OptionTable :=
    ⟨"C:iS:u:v0", [("chdir", .always, 'C'), ("ignore-environment", .never, 'i'),
      ("split-string", .always, 'S'), ("unset", .always, 'u'), ("debug", .never, 'v'),
      ("null", .never, '0')], false⟩
  let chosen ← table.read arguments 125
  let start ← if chosen.has 'i' then pure [] else environment
  let removed := chosen.options.filterMap (fun entry =>
    if entry.1 = 'u' then entry.2 else none)
  let start := start.filter (fun entry => !removed.contains entry.1)
  let split := match chosen.value? 'S' with
    | some text => (Octets.splitOn ' ' text).filter (fun word => !word.isEmpty)
    | none => []
  let words := split ++ (if chosen.operands.head? = some ['-'] then chosen.operands.tail
    else chosen.operands)
  let isSetting (word : Octets) : Bool := word.contains '='
  let settings := words.takeWhile isSetting
  let environment := settings.foldl (fun environment setting =>
    let (name, value) := Octets.cutAt (· = '=') setting
    withVariable environment name value.tail) start
  match chosen.value? 'C' with
  | some path =>
    let changed ← Running.ask (Course.carryOut (fun process host =>
      match (host.view process).resolve ⟨Octets.toText path⟩ with
      | .ok (names, .directory) =>
        (true, host.change process.number (fun process => { process with directory := names }))
      | _ => (false, host)))
    if !changed then
      Running.fail ("cannot change directory to ".toList ++ Running.quoted path ++
        ": No such file or directory".toList) 125
  | none => pure ()
  match words.dropWhile isSetting with
  | [] => printVariables environment (if chosen.has '0' then ['\x00'] else [Octets.lineEnd])
  | command => launch execute environment "" true command

/-- Print the values of variables of the environment. -/
def printenv (arguments : List Octets) : Running Unit := do
  let table : OptionTable := ⟨"0", [("null", .never, '0')], false⟩
  let chosen ← table.read arguments 2
  let ending : Octets := if chosen.has '0' then ['\x00'] else [Octets.lineEnd]
  let environment ← environment
  if chosen.operands.isEmpty then printVariables environment ending
  else
    for name in chosen.operands do
      match environment.lookup name with
      | some value => Running.put (value ++ ending)
      | none => Running.setStatus 1

/-! ## Circumstances -/

/-- Run a program that lines are not kept back by. -/
def stdbuf (execute : Executor) (arguments : List Octets) : Running Unit := do
  let table : OptionTable :=
    ⟨"i:o:e:", [("input", .always, 'i'), ("output", .always, 'o'), ("error", .always, 'e')],
      false⟩
  let chosen ← table.read arguments 125
  if chosen.operands.isEmpty then Running.failUsage "missing operand".toList 125
  else if chosen.options.isEmpty then
    Running.failUsage "you must specify a buffering mode option".toList 125
  else
    let environment ← environment
    let environment := chosen.options.foldl (fun environment (letter, mode) =>
      withVariable environment ("_STDBUF_".toList ++ [letter.toUpper]) (mode.getD []))
      environment
    launch execute environment "failed to run command " true chosen.operands

/-- Run a program that does not end when its terminal is gone. -/
def nohup (execute : Executor) (arguments : List Octets) : Running Unit := do
  let table : OptionTable := ⟨"", [], false⟩
  let chosen ← table.read arguments 125
  if chosen.operands.isEmpty then Running.failUsage "missing operand".toList 125
  else
    if (← get).isTerminal then
      match ← Running.ask (Course.openFile ⟨"nohup.out"⟩ .append) with
      | .ok handle =>
        Running.warn "appending output to 'nohup.out'".toList
        Running.ask (Course.redirect 1 (some handle))
        if ← Running.ask (Course.isTerminal 2) then
          Running.ask (Course.redirect 2 (some handle))
      | .error error =>
        Running.fail ("failed to open 'nohup.out': ".toList ++ error.reason.toList) 125
    else if ← Running.ask (Course.isTerminal 2) then
      Running.warn "redirecting stderr to stdout".toList
      let handle ← Running.ask (Course.handle? 1)
      Running.ask (Course.redirect 2 handle)
    Running.ask (Course.adjust (fun process => { process with ignored := 1 :: process.ignored }))
    launch execute (← environment) "failed to run command " true chosen.operands

/-- Run a program that others go before. -/
def nice (execute : Executor) (arguments : List Octets) : Running Unit := do
  let words := match arguments with
    | ('-' :: digits) :: rest =>
      if !digits.isEmpty ∧ digits.all Char.isDigit then rest else arguments
    | words => words
  let table : OptionTable := ⟨"n:", [("adjustment", .always, 'n')], false⟩
  let chosen ← table.read words 125
  match chosen.value? 'n' with
  | some text =>
    if (String.ofList text).toInt?.isNone then
      Running.fail ("invalid adjustment ".toList ++ Running.quoted text) 125
  | none => pure ()
  if chosen.operands.isEmpty then Running.putLine ['0']
  else launch execute (← environment) "" true chosen.operands

/-- Run a program in a group of its own. -/
def setsid (execute : Executor) (arguments : List Octets) : Running Unit := do
  let table : OptionTable :=
    ⟨"cfw", [("ctty", .never, 'c'), ("fork", .never, 'f'), ("wait", .never, 'w')], false⟩
  let chosen ← table.read arguments 1
  if chosen.operands.isEmpty then Running.fail "no command specified".toList 1
  else
    let call := (← get).call
    let enter : Running Unit := do
      Running.ask (Course.adjust (fun process => { process with group := process.number }))
      launch execute call.environment "failed to execute " false chosen.operands
    let leads : Bool ← Running.ask (Course.learn (fun process _ => process.group = process.number))
    if leads ∨ chosen.has 'f' then
      let child ← Running.ask (Course.fork (Running.course enter call))
      if chosen.has 'w' then Running.setStatus (← Running.ask (Course.fateOf child)).status
    else enter

/-- Run a program on given processors. -/
def taskset (execute : Executor) (arguments : List Octets) : Running Unit := do
  let table : OptionTable :=
    ⟨"acp", [("all-tasks", .never, 'a'), ("cpu-list", .never, 'c'), ("pid", .never, 'p')], false⟩
  let chosen ← table.read arguments 1
  match chosen.operands with
  | _ :: command =>
    if command.isEmpty then Running.failUsage "bad usage".toList 1
    else launch execute (← environment) "failed to execute " false command
  | [] => Running.failUsage "bad usage".toList 1

/-- Run a program with a class of its own among the others. -/
def classed (letters : String) (takesOperand : Bool) (execute : Executor)
    (arguments : List Octets) : Running Unit := do
  let table : OptionTable := ⟨letters, [], false⟩
  let chosen ← table.read arguments 1
  let command := if takesOperand then chosen.operands.tail else chosen.operands
  if command.isEmpty then Running.failUsage "bad usage".toList 1
  else launch execute (← environment) "failed to execute " false command

/-! ## Words from the input -/

/-- Words of a text: blanks and line ends separate, quotes and backslashes keep them together. -/
def quotedWords : Nat → Octets → Option Octets → List Octets → List Octets
  | 0, _, word?, taken => (word?.toList ++ taken).reverse
  | fuel + 1, text, word?, taken =>
    match text with
    | [] => ((word?.map List.reverse).toList ++ taken).reverse
    | '\\' :: c :: rest => quotedWords fuel rest (some (c :: word?.getD [])) taken
    | c :: rest =>
      if c = '\'' ∨ c = '"' then
        let (inside, after) := Octets.cutAt (fun d => d = c ∨ d = '\n') rest
        quotedWords fuel after.tail (some (inside.reverse ++ word?.getD [])) taken
      else if [' ', '\t', '\n'].contains c then
        quotedWords fuel rest none ((word?.map List.reverse).toList ++ taken)
      else quotedWords fuel rest (some (c :: word?.getD [])) taken

/-- A text with another one in the place of every one of a kind. -/
def substituted (mark replacement : Octets) : Nat → Octets → Octets
  | 0, text => text
  | fuel + 1, text =>
    match text with
    | [] => []
    | c :: rest =>
      match if mark.isEmpty then none else Octets.afterStart? mark text with
      | some after => replacement ++ substituted mark replacement fuel after
      | none => c :: substituted mark replacement fuel rest

/-- Groups of at most so many items. -/
def grouped (count : Nat) : Nat → List Octets → List (List Octets)
  | 0, _ => []
  | fuel + 1, items =>
    if items.isEmpty then [] else items.take count :: grouped count fuel (items.drop count)

/-- Run a command and wait for it; the answer tells whether to go on. -/
def runAndWait (execute : Executor) (traces : Bool) (words : List Octets) : Running Bool := do
  if traces then Running.tell (Octets.joined [' '] words ++ [Octets.lineEnd])
  let name := words.head?.getD []
  let call := (← get).call
  Running.flush
  let child ← Running.ask (Course.fork (Running.course
    (launch execute call.environment "" false words) call))
  match ← Running.ask (Course.fateOf child) with
  | .exited 0 => return true
  | .exited 255 =>
    Running.complain (name ++ ": exited with status 255; aborting".toList) 124
    return false
  | .exited status =>
    Running.setStatus (if status = 126 ∨ status = 127 then status else 123)
    return status ≠ 126 ∧ status ≠ 127
  | .ended signal =>
    Running.complain (name ++ ": terminated by signal ".toList ++ Octets.ofNat signal) 125
    return false
  | .running => return true

/-- Run commands one after the other until one says that it is enough. -/
def runEach (execute : Executor) (traces : Bool) : List (List Octets) → Running Unit
  | [] => return ()
  | words :: rest => do
    if ← runAndWait execute traces words then runEach execute traces rest

/-- Run commands with words from the input as their last arguments. -/
def xargs (execute : Executor) (arguments : List Octets) : Running Unit := do
  let table : OptionTable :=
    ⟨"0a:d:E:e::I:i::L:l::n:P:prs:tx", [("null", .never, '0'), ("delimiter", .always, 'd'),
      ("max-args", .always, 'n'), ("no-run-if-empty", .never, 'r'), ("verbose", .never, 't'),
      ("max-lines", .perhaps, 'L'), ("replace", .perhaps, 'I'), ("max-procs", .always, 'P')],
      false⟩
  let chosen ← table.read arguments 1
  let text ← match ← Running.ask (Course.readAll 0) with
    | .ok text => pure text
    | .error _ => pure []
  let command := if chosen.operands.isEmpty then ["echo".toList] else chosen.operands
  let separator : Option Char :=
    if chosen.has '0' then some '\x00'
    else (chosen.value? 'd').map (fun text =>
      ((Format.unescape (Format.Style.inEcho .program) (text.length + 1) text).1.head?).getD '\n')
  let cutBy (separator : Char) : List Octets :=
    let parts := Octets.splitOn separator text
    if parts.getLast? = some [] then parts.dropLast else parts
  let mark := if chosen.has 'I' then some ((chosen.value? 'I').getD "\x7b\x7d".toList)
    else if chosen.has 'i' then some "\x7b\x7d".toList else none
  match mark with
  | some mark =>
    let items := match separator with
      | some c => cutBy c
      | none =>
        ((cutBy '\n').map (fun line : Octets => line.dropWhile Octets.isBlank)).filter (!·.isEmpty)
    runEach execute (chosen.has 't') (items.map (fun item =>
      command.map (fun word => substituted mark item (word.length + 1) word)))
  | none =>
    let items := match separator with
      | some c => cutBy c
      | none => quotedWords (text.length + 1) text none []
    let count := (chosen.value? 'n').bind (fun text => (String.ofList text).toNat?)
    let lines := ((chosen.value? 'L').bind (fun text => (String.ofList text).toNat?))
    let groups := match lines, count with
      | some n, _ =>
        let wanted := ((cutBy '\n').map (fun line =>
          quotedWords (line.length + 1) line none [])).filter (!·.isEmpty)
        (List.range ((wanted.length + n - 1) / max n 1)).map (fun i =>
          ((wanted.drop (i * n)).take n).flatten)
      | none, some n => grouped (max n 1) (items.length + 1) items
      | none, none => if items.isEmpty then [] else [items]
    let groups := if groups.isEmpty ∧ !chosen.has 'r' then [[]] else groups
    runEach execute (chosen.has 't') (groups.map (command ++ ·))

/-- A program that runs others. -/
def Program.launcher (name : String) (steps : Executor → List Octets → Running Unit) :
    Program where
  name
  run execute call := Running.course (steps execute call.arguments) call

/-- Programs that run other programs. -/
def launchers : List Program :=
  [.plain "sleep" sleep, .launcher "timeout" timeout, .launcher "env" env,
   .plain "printenv" printenv, .launcher "stdbuf" stdbuf, .launcher "nohup" nohup,
   .launcher "nice" nice, .launcher "setsid" setsid, .launcher "taskset" taskset,
   .launcher "ionice" (classed "c:n:t" false), .launcher "chrt" (classed "abfimorp" true),
   .launcher "xargs" xargs]

end PubSubTrials.Programs
