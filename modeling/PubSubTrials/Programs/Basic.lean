import PubSubTrials.Host.Executable
import PubSubTrials.Shell.Act

/-!
# Programs of a system

Programs read options and operands, read inputs line by line, write to their output and complain
on their diagnostics. What they write to a terminal goes out line by line, and otherwise in large
pieces and at their end.
-/

namespace PubSubTrials.Programs

open Host (Call Course)

/-- What a running program knows of itself. -/
structure Condition where
  call : Call
  /-- Whether its output is a terminal. -/
  isTerminal : Bool
  /-- What was not written yet, the last piece first. -/
  kept : List Octets
  /-- Length of what was not written yet. -/
  size : Nat
  status : Nat
  /-- Why it could not write, if it could not. -/
  trouble : Option SystemError

/-- Steps of a program; they may end it with a status. -/
abbrev Running := ExceptT Nat (StateT Condition Course)

namespace Running

/-- Have the host do something. -/
def ask {α : Type} (course : Course α) : Running α := ExceptT.lift (StateT.lift course)

/-- The name by which the program was called. -/
def name : Running Octets := return (← get).call.name

/-- Number of octets that are written at once. -/
def blockSize : Nat := 4096

/-- Write octets as they are. -/
def writeOut (text : Octets) : Running Unit := do
  if !text.isEmpty then
    match ← ask (Course.write 1 text) with
    | .ok () => return ()
    | .error error => modify (fun condition => { condition with trouble := some error })

/-- Write what was not written yet. -/
def flush : Running Unit := do
  let condition ← get
  set { condition with kept := [], size := 0 }
  writeOut condition.kept.reverse.flatten

/-- Write as many full blocks as there are. -/
def flushBlocks : Running Unit := do
  let condition ← get
  if blockSize ≤ condition.size then
    let text := condition.kept.reverse.flatten
    let full := condition.size / blockSize * blockSize
    set { condition with kept := [text.drop full], size := condition.size - full }
    writeOut (text.take full)

/-- Write a text, perhaps later. -/
def put (text : Octets) : Running Unit := do
  modify (fun condition =>
    { condition with kept := text :: condition.kept, size := condition.size + text.length })
  if (← get).isTerminal then
    if text.contains Octets.lineEnd then flush
  else flushBlocks

/-- Write a line. -/
def putLine (line : Octets) : Running Unit := put (line ++ [Octets.lineEnd])

/-- Write to the diagnostics. -/
def tell (text : Octets) : Running Unit := do
  let _ ← ask (Course.write 2 text)

/-- Write a message after all that came before it. -/
def warn (message : Octets) : Running Unit := do
  flush
  tell ((← name) ++ [':', ' '] ++ message ++ [Octets.lineEnd])

/-- Set the status with which the program will end. -/
def setStatus (status : Nat) : Running Unit :=
  modify (fun condition => { condition with status })

/-- Write a message, and end with a status at last. -/
def complain (message : Octets) (status : Nat) : Running Unit := do
  warn message
  setStatus status

/-- Write a message and end. -/
def fail {α : Type} (message : Octets) (status : Nat) : Running α := do
  warn message
  throw status

/-- Say where help can be found, and end. -/
def failUsage {α : Type} (message : Octets) (status : Nat) : Running α := do
  warn message
  tell ("Try '".toList ++ (← name) ++ " --help' for more information.\n".toList)
  throw status

/-- A text in quotes for a message. -/
def quoted (text : Octets) : Octets := '\'' :: text ++ ['\'']

/-- Whether an environment asks for lines that go out one by one. -/
def asksForLines (environment : List (Octets × Octets)) : Bool :=
  (environment.lookup "_STDBUF_O".toList).any (fun mode => mode = ['L'] || mode = ['0'])

/-- All that a program does. -/
def course (steps : Running Unit) (call : Call) : Course Nat := do
  let goesByLine := (← Course.isTerminal 1) || asksForLines call.environment
  let start : Condition := ⟨call, goesByLine, [], 0, 0, none⟩
  let whole : Running Unit := do
    let result ← ExceptT.lift steps.run
    flush
    match result with
    | .ok () => pure ()
    | .error status => setStatus status
    match (← get).trouble with
    | some error =>
      warn ("write error: ".toList ++ error.reason.toList)
      setStatus 1
    | none => pure ()
  let (_, condition) ← whole.run.run start
  return condition.status

/-! ## Other programs -/

/-- The directories in which other programs are looked for. -/
def places (environment : List (Octets × Octets)) : Octets :=
  (environment.lookup "PATH".toList).getD Host.usualPlaces

/-- Let another program take the place of this one; the answer tells why that cannot be. -/
def become (execute : Shell.Executor) (environment : List (Octets × Octets))
    (words : List Octets) : Running SystemError := do
  match words with
  | [] => return .noEntry
  | name :: arguments =>
    match ← ask (Course.findProgram (places environment) name) with
    | .error error => return error
    | .ok path =>
      flush
      ask (do
        Course.adjust Host.Process.forProgram
        let status ← execute ⟨name, path, arguments, environment⟩
        Course.exit status)

end Running

/-- A program of a system, given the means to run others. -/
structure Program where
  name : String
  run : Shell.Executor → Call → Course Nat

namespace Program

/-- A program that runs no others. -/
def plain (name : String) (steps : List Octets → Running Unit) : Program where
  name
  run _ call := Running.course (steps call.arguments) call

end Program

end PubSubTrials.Programs
