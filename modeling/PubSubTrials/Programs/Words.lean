import PubSubTrials.Programs.Options
import PubSubTrials.Shell.Test
import PubSubTrials.Text.Echo

/-!
# Programs that print or judge words

Programs that print their operands, parts of paths or the working directory, and programs that
only have a status.
-/

namespace PubSubTrials.Programs

open Host (Course)

/-! ## Printing -/

/-- Print words. -/
def echo (words : List Octets) : Running Unit := Running.put (Echo.render .program words)

/-- Print words by a format. -/
def printf (arguments : List Octets) : Running Unit := do
  let arguments := if arguments.head? = some ['-', '-'] then arguments.tail else arguments
  match arguments with
  | [] => Running.failUsage "missing operand".toList 1
  | format :: values =>
    let result := Format.render .program format values
    for piece in result.pieces do
      match piece with
      | .shown text => Running.put text
      | .complaint text => Running.warn text
    match result.excess with
    | first :: _ =>
      if result.status = 0 then
        Running.warn ("warning: ignoring excess arguments, starting with ".toList ++
          Running.quoted first)
    | [] => pure ()
    Running.setStatus result.status

/-- Print words again and again; `fuel` bounds how often. -/
def repeatLine (text : Octets) : Nat → Running Unit
  | 0 => return ()
  | fuel + 1 => do
    Running.put text
    match (← get).trouble with
    | some _ => return ()
    | none => repeatLine text fuel

/-- Print words until nobody reads them. -/
def yes (arguments : List Octets) : Running Unit := do
  let table : OptionTable := ⟨"", [], false⟩
  let chosen ← table.read arguments 1
  let words := if chosen.operands.isEmpty then [['y']] else chosen.operands
  let line : Octets := Octets.joined [' '] words ++ [Octets.lineEnd]
  let block := List.replicate (max 1 (Running.blockSize / line.length)) line
  repeatLine block.flatten Course.manyTimes

/-! ## Paths -/

/-- The end that lines have which null characters or line ends close. -/
def lineEnding (chosen : Chosen) (letter : Char) : Octets :=
  if chosen.has letter then ['\x00'] else [Octets.lineEnd]

/-- A path without slashes at its end; one that is only slashes keeps one. -/
def withoutSlashes (path : Octets) : Octets :=
  let trimmed := (path.reverse.dropWhile (· = '/')).reverse
  if trimmed.isEmpty then path.take 1 else trimmed

/-- The last name of a path. -/
def lastName (path : Octets) : Octets :=
  let trimmed := withoutSlashes path
  if trimmed = ['/'] then trimmed else (trimmed.reverse.takeWhile (· ≠ '/')).reverse

/-- A name without a text at its end, unless it is that text. -/
def withoutEnd (ending name : Octets) : Octets :=
  if ending.isSuffixOf name ∧ ending.length < name.length then
    name.take (name.length - ending.length)
  else name

/-- The path of the directory that a path lies in. -/
def directoryOf (path : Octets) : Octets :=
  let trimmed := withoutSlashes path
  let before := (trimmed.reverse.dropWhile (· ≠ '/')).reverse
  if before.isEmpty then (if trimmed = ['/'] then ['/'] else ['.']) else withoutSlashes before

/-- Print the last names of paths. -/
def basename (arguments : List Octets) : Running Unit := do
  let table : OptionTable :=
    ⟨"as:z", [("multiple", .never, 'a'), ("suffix", .always, 's'), ("zero", .never, 'z')], false⟩
  let chosen ← table.read arguments 1
  let ending := lineEnding chosen 'z'
  let show' (suffix path : Octets) : Running Unit :=
    Running.put (withoutEnd suffix (lastName path) ++ ending)
  if chosen.operands.isEmpty then Running.failUsage "missing operand".toList 1
  else if chosen.has 'a' ∨ chosen.has 's' then
    chosen.operands.forM (show' ((chosen.value? 's').getD []))
  else
    match chosen.operands with
    | _ :: _ :: extra :: _ =>
      Running.failUsage ("extra operand ".toList ++ Running.quoted extra) 1
    | [path, suffix] => show' suffix path
    | paths => paths.forM (show' [])

/-- Print the directories that paths lie in. -/
def dirname (arguments : List Octets) : Running Unit := do
  let table : OptionTable := ⟨"z", [("zero", .never, 'z')], true⟩
  let chosen ← table.read arguments 1
  if chosen.operands.isEmpty then Running.failUsage "missing operand".toList 1
  else
    chosen.operands.forM (fun path => Running.put (directoryOf path ++ lineEnding chosen 'z'))

/-- The path of the working directory. -/
def workingDirectory : Running Octets := do
  let names ← Running.ask Course.directory
  return '/' :: Octets.joined ['/'] (names.map Octets.ofString)

/-- Print the working directory. -/
def pwd (arguments : List Octets) : Running Unit := do
  let table : OptionTable := ⟨"LP", [("logical", .never, 'L'), ("physical", .never, 'P')], true⟩
  let chosen ← table.read arguments 1
  if !chosen.operands.isEmpty then Running.warn "ignoring non-option arguments".toList
  Running.putLine (← workingDirectory)

/-! ## Judging -/

/-- End with a status. -/
def ending (status : Nat) (_ : List Octets) : Running Unit := Running.setStatus status

/-- What conditions about files depend on. -/
def facts : Running Shell.Test.Facts :=
  Running.ask (Course.learn (fun process host =>
    { files := host.view process
      isTerminal := fun descriptor =>
        match process.handle? descriptor with
        | some (.outlet _) => host.isTerminal
        | _ => false
      isExecutable := Host.isExecutable host.files host.executables
      isSet := fun _ => false
      isOn := fun _ => false }))

/-- Evaluate a condition over words. -/
def test (words : List Octets) : Running Unit := do
  match Shell.Test.ofWords .extended (← facts) words with
  | .ok holds => Running.setStatus (if holds then 0 else 1)
  | .error fault => Running.fail fault.extendedMessage 2

/-- Evaluate a condition over words that a bracket closes. -/
def bracket (words : List Octets) : Running Unit := do
  match words.getLast? with
  | some [']'] => test words.dropLast
  | _ => Running.fail "missing ']'".toList 2

/-! ## Users -/

/-- Print the name of the user. -/
def whoami (_ : List Octets) : Running Unit := Running.putLine "root".toList

/-- Print who the user is. -/
def identity (arguments : List Octets) : Running Unit := do
  let table : OptionTable := .ofLetters "agGnruz"
  let chosen ← table.read arguments 1
  let number := if chosen.has 'n' then "root" else "0"
  if chosen.has 'u' ∨ chosen.has 'g' ∨ chosen.has 'G' then Running.putLine number.toList
  else Running.putLine "uid=0(root) gid=0(root) groups=0(root)".toList

/-- Programs that print or judge words. -/
def aboutWords : List Program :=
  [.plain "echo" echo, .plain "printf" printf, .plain "yes" yes, .plain "basename" basename,
   .plain "dirname" dirname, .plain "pwd" pwd, .plain "true" (ending 0),
   .plain "false" (ending 1), .plain "test" test, .plain "[" bracket, .plain "whoami" whoami,
   .plain "id" identity]

end PubSubTrials.Programs
