import PubSubTrials.Host.Course
import PubSubTrials.Shell.Arithmetic
import PubSubTrials.Shell.Options
import PubSubTrials.Shell.Reading
import PubSubTrials.Shell.Variable

/-!
# Sessions of a shell

What a running script knows: its arguments, variables, functions and options, the status of the
last command, the jobs it has started, and what it does about signals. Steps of a script change
the session, ask the host for things, and may end the script.
-/

namespace PubSubTrials.Shell

open Host (Course Fate Signal)

/-- What is passed over before commands are run again. -/
inductive Skip where
  | nothing
  /-- The rest of so many loops; the last of them may go on with its next turn. -/
  | loops (count : Nat) (goesOn : Bool)
  /-- The rest of a function or of a file. -/
  | function
  deriving DecidableEq, Repr

/-- Processes that were started together. -/
structure Job where
  number : Nat
  processes : List Nat
  /-- How those that have ended did. -/
  fates : List (Nat × Fate)
  deriving Repr

/-- A function of a script. -/
structure Function where
  /-- The line at which it starts. -/
  line : Nat
  /-- The file that defines it. -/
  file : Octets
  body : Command

/-- A function that is run. -/
structure Invoked where
  name : Octets
  /-- The file that defines the function. -/
  file : Octets
  /-- The line from which it was called. -/
  calledFrom : Nat
  deriving Repr

/-- Whether it is the script itself. -/
def Invoked.isScript (invoked : Invoked) : Bool := invoked.name = "main".toList

/-- What only scripts of the extended dialect can see. -/
structure Extras where
  /-- Functions and files that are run, the innermost first. -/
  running : List Invoked
  /-- The statuses of the stages of the last pipeline. -/
  stageStatuses : List Nat
  /-- The last word of the last command. -/
  lastWord : Octets
  /-- Directories to which a script can go back. -/
  directories : List Octets
  /-- From this number the next random one is made. -/
  seed : Nat
  /-- The time from which seconds are counted, and their number then. -/
  start : Duration
  counted : Nat
  /-- The time that was seen last. -/
  now : Duration
  /-- Number of copies of the shell within each other. -/
  level : Nat
  /-- Number of texts within each other that are run as scripts. -/
  nesting : Nat
  /-- The number of the process that is this copy of the shell. -/
  process : Nat
  /-- Descriptors that are closed after the command. -/
  channels : List Nat

namespace Job

/-- Whether all processes of a job have ended. -/
def isDone (job : Job) : Bool :=
  job.processes.all (fun number => job.fates.any (fun entry => entry.1 = number))

/-- The status of a job: that of its last process. -/
def status (job : Job) : Nat :=
  match job.processes.getLast? with
  | some last => ((job.fates.lookup last).map Fate.status).getD 0
  | none => 0

end Job

/-- The state of a running script. -/
structure Session where
  dialect : Dialect
  /-- The name by which the script was started. -/
  title : Octets
  arguments : List Octets
  /-- What the text is called that is read, if it is not the script of that name. -/
  input : Option Octets
  /-- The letters of the options that are on. -/
  options : List Char
  /-- The features that are on. -/
  features : List String
  /-- The argument and the place in it at which the next option is read. -/
  cursor : Nat × Option Nat
  bindings : List (Octets × Variable)
  /-- Variables that running functions have of their own, with what they were before. -/
  covered : List (List (Octets × Option Variable))
  functions : List (Octets × Function)
  aliases : List (Octets × Octets)
  documents : Array Word
  /-- The status of the last command; zero for success. -/
  status : Nat
  /-- The status of the last command whose output was taken. -/
  outputStatus : Nat
  /-- The status to end with while a trap is run. -/
  heldStatus : Option Nat
  skip : Skip
  /-- Number of loops that are run. -/
  loops : Nat
  /-- Number of functions that are run. -/
  calls : Nat
  line : Nat
  /-- The line up to which the script was read. -/
  readLine : Nat
  /-- The command that messages are about. -/
  commandName : Option Octets
  /-- What is done about signals; nothing for those that are ignored. -/
  traps : List (Signal × Octets)
  /-- Signals that were ignored from the start. -/
  ignored : List Signal
  /-- The number of the process that runs the script. -/
  number : Nat
  /-- The last process that was not waited for. -/
  background : Option Nat
  jobs : List Job
  /-- Whether a builtin command could not write its output. -/
  outputFailed : Bool
  /-- Programs with the paths at which they were found, and how often they were run. -/
  located : List (Octets × Octets × Nat)
  extras : Extras

/-- Why a script goes no further. -/
inductive Stop where
  /-- Something failed that a script does not survive. -/
  | failure
  /-- The script was ended. -/
  | ended
  deriving DecidableEq, Repr

/-- Steps of a running script. -/
abbrev Scripting := ExceptT Stop (StateT Session Course)

namespace Session

/-- The separators of words, unless a script sets others. -/
def defaultSeparators : Octets := [' ', '\t', '\n']

/-- The variable of a name. -/
def binding (session : Session) (name : Octets) : Variable :=
  (session.bindings.lookup name).getD .absent

/-- Whether an option is on. -/
def has (session : Session) (option : Char) : Bool := session.options.contains option

/-- Whether a feature is on. -/
def hasFeature (session : Session) (feature : String) : Bool := session.features.contains feature

/-- Whether the script is of the extended dialect. -/
def isExtended (session : Session) : Bool := session.dialect = .extended

/-! ## Values -/

/-- The number from which the next random one is made, after a given one. -/
def nextSeed (seed : Nat) : Nat :=
  (if seed % 2147483647 = 0 then 123459876 else seed) * 16807 % 2147483647

/-- The random number that is made from a seed. -/
def randomOf (seed : Nat) : Nat :=
  Nat.xor (seed / 65536) (seed % 65536) % 32768

/-- Words as elements by numbers. -/
def listed (words : List Octets) : Content :=
  .list (words.zipIdx.map (fun (word, n) => (n, word)))

/-- The names of the options that are on. -/
def optionNames (session : Session) : Octets :=
  Octets.joined [':'] ((session.dialect.options.filter (fun option =>
    session.has option.2)).map (fun option => option.1.toList))

/-- The names of the variables whose values are made when they are asked for. -/
def computedNames : List String :=
  ["BASHPID", "BASHOPTS", "BASH_LINENO", "BASH_SOURCE", "BASH_SUBSHELL", "DIRSTACK", "FUNCNAME",
   "LINENO", "PIPESTATUS", "RANDOM", "SECONDS", "SHELLOPTS", "_"]

/-- What a variable holds whose value is made when it is asked for. -/
def computed (session : Session) (name : Octets) : Content :=
  let extras := session.extras
  let number (n : Nat) : Content := .text (Octets.ofNat n)
  match String.ofList name with
  | "RANDOM" => number (randomOf (nextSeed extras.seed))
  | "SECONDS" =>
    number (extras.counted + (extras.now.nanoseconds - extras.start.nanoseconds) / 1000000000)
  | "LINENO" => number session.line
  | "_" => .text extras.lastWord
  | "BASHPID" => number extras.process
  | "BASH_SUBSHELL" => number extras.level
  | "PIPESTATUS" => listed (extras.stageStatuses.map Octets.ofNat)
  | "FUNCNAME" => if session.calls = 0 then .nothing else listed (extras.running.map Invoked.name)
  | "BASH_SOURCE" => listed (extras.running.map Invoked.file)
  | "BASH_LINENO" =>
    listed (extras.running.map (fun invoked => Octets.ofNat invoked.calledFrom))
  | "DIRSTACK" => listed ((session.bindings.lookup "PWD".toList).bind (fun known =>
      known.content.element? 0) |>.toList |> (· ++ extras.directories))
  | "SHELLOPTS" => .text session.optionNames
  | "BASHOPTS" => .text (Octets.joined [':'] (session.features.map String.toList))
  | _ => .nothing

/-- What the variable of a name holds. -/
def contentOf (session : Session) (name : Octets) : Content :=
  match session.bindings.lookup name with
  | some known =>
    match known.content with
    | .nothing => if session.isExtended then session.computed name else .nothing
    | content => content
  | none => .nothing

/-- The name of the variable or element that a name stands for; `fuel` bounds how many stand for
each other. -/
def targetWithin (session : Session) : Nat → Octets → Octets
  | 0, name => name
  | fuel + 1, name =>
    match session.bindings.lookup name with
    | some known =>
      if known.isReference then
        match known.content.element? 0 with
        | some target => if target.isEmpty then name else session.targetWithin fuel target
        | none => name
      else name
    | none => name

/-- The name of the variable or element that a name stands for. -/
def targetOf (session : Session) (name : Octets) : Octets :=
  if session.isExtended then session.targetWithin 16 name else name

/-- The element of a content at a number, which is counted from the end if it is negative. -/
def elementAt? (content : Content) (n : Int) : Option Octets :=
  if 0 ≤ n then content.element? n.toNat
  else
    let place : Int := content.nextNumber + n
    if place < 0 then none else content.element? place.toNat

/-- The value of a variable or of an element, by its name; `fuel` bounds how often an index holds
elements. -/
def valueWithin (session : Session) : Nat → Octets → Option Octets
  | 0, _ => none
  | fuel + 1, text =>
    if !text.contains '[' then (session.contentOf text).element? 0
    else
      match elementName? text with
      | none => none
      | some (name, index) =>
        match session.contentOf name with
        | .table elements => elements.lookup index
        | content =>
          match Arithmetic.evaluate session.dialect false (session.valueWithin fuel) index with
          | .ok (n, _) => elementAt? content n
          | .error _ => none

/-- The value of a variable or of an element, if it has one. -/
def valueOf? (session : Session) (name : Octets) : Option Octets :=
  session.valueWithin 16 (session.targetOf name)

/-- The value of a variable by a name in plain letters. -/
def lookup? (session : Session) (name : String) : Option Octets :=
  session.valueOf? name.toList

/-- Put a variable in place. -/
def bind (session : Session) (name : Octets) (binding : Variable) : Session :=
  { session with
    bindings :=
      if session.bindings.any (fun entry => entry.1 = name) then
        session.bindings.map (fun entry => if entry.1 = name then (name, binding) else entry)
      else session.bindings ++ [(name, binding)] }

/-- Remove a variable. -/
def unbind (session : Session) (name : Octets) : Session :=
  { session with bindings := session.bindings.filter (fun entry => entry.1 ≠ name) }

/-- The separators of words. -/
def separators (session : Session) : Octets :=
  (session.lookup? "IFS").getD defaultSeparators

/-- The variables that programs are given. -/
def environment (session : Session) : List (Octets × Octets) :=
  session.dialect.arranged (session.bindings.filterMap (fun (name, binding) =>
    match binding.content with
    | .text value => if binding.isExported then some (name, value) else none
    | _ => none))

/-- The file that messages are about. -/
def fileName (session : Session) : Octets :=
  match session.dialect, session.extras.running with
  | .extended, invoked :: _ => invoked.file
  | _, _ => session.title

/-- What a message starts with. -/
def messageStart (session : Session) : Octets :=
  let line := Octets.ofNat session.line
  let command := (session.commandName.map (· ++ [':', ' '])).getD []
  let between := if session.isExtended then ": line ".toList else [':', ' ']
  session.fileName ++ between ++ line ++ [':', ' '] ++ command

/-- What a message about the text of a script starts with. -/
def complaintStart (session : Session) : Octets :=
  match session.input with
  | some input =>
    if session.isExtended ∧ input ≠ session.fileName then
      session.fileName ++ [':', ' '] ++ input ++ ": line ".toList ++ Octets.ofNat session.line ++
        [':', ' ']
    else { session with commandName := none }.messageStart
  | none => session.messageStart

end Session

namespace Scripting

/-- Have the host do something. -/
def ask {α : Type} (course : Course α) : Scripting α := ExceptT.lift (StateT.lift course)

/-- Write to a descriptor, whether or not that succeeds. -/
def emit (descriptor : Nat) (text : Octets) : Scripting Unit := do
  let _ ← ask (Course.write descriptor text)

/-- Write to the output, and note if that fails. -/
def say (text : Octets) : Scripting Unit := do
  match ← ask (Course.write 1 text) with
  | .ok () => return ()
  | .error _ => modify (fun session => { session with outputFailed := true })

/-- Write a line to the output. -/
def sayLine (text : Octets) : Scripting Unit := say (text ++ [Octets.lineEnd])

/-- Write a message. -/
def warn (message : Octets) : Scripting Unit := do
  emit 2 ((← get).messageStart ++ message ++ [Octets.lineEnd])

/-- Set the status of the last command. -/
def setStatus (status : Nat) : Scripting Unit :=
  modify (fun session => { session with status })

/-- Write a message and give up. -/
def fail {α : Type} (message : Octets) : Scripting α := do
  warn message
  setStatus (if (← get).isExtended then 1 else 2)
  throw .failure

/-- Carry out steps and tell how they ended. -/
def attempt {α : Type} (steps : Scripting α) : Scripting (Except Stop α) :=
  ExceptT.lift steps.run

/-- Carry out steps, and others after them in any case. -/
def ensuring {α : Type} (steps : Scripting α) (after : Scripting Unit) : Scripting α := do
  match ← attempt steps with
  | .ok value =>
    after
    return value
  | .error stop =>
    after
    throw stop

/-- Carry out steps with a name in front of messages, or without one. -/
def withName {α : Type} (name : Option Octets) (steps : Scripting α) : Scripting α := do
  let before := (← get).commandName
  modify (fun session => { session with commandName := name })
  ensuring steps (modify (fun session => { session with commandName := before }))

/-- Carry out steps with a name in front of messages. -/
def naming {α : Type} (name : Octets) (steps : Scripting α) : Scripting α :=
  withName (some name) steps

/-- Carry out steps without a name in front of messages. -/
def namingNothing {α : Type} (steps : Scripting α) : Scripting α := withName none steps

/-- Write a message and give up such that the script ends, even if it would go on after other
failures. -/
def abandon {α : Type} (message : Octets) : Scripting α := do
  let session ← get
  if session.isExtended then
    namingNothing (warn message)
    setStatus (if session.has 'c' ∧ session.extras.level = 0 then 127 else 1)
    throw .ended
  else fail message

/-- Write a message in plain letters and give up. -/
def failWith {α : Type} (message : String) : Scripting α := fail (Octets.ofString message)

/-- Write a message about a text and give up. -/
def failAbout {α : Type} (subject : Octets) (message : String) : Scripting α :=
  fail (subject ++ [':', ' '] ++ message.toList)

/-- Whether an option is on. -/
def has (option : Char) : Scripting Bool := return (← get).has option

/-- Change what only scripts of the extended dialect can see. -/
def adjust (f : Extras → Extras) : Scripting Unit :=
  modify (fun session => { session with extras := f session.extras })

/-! ## Assignments -/

/-- What else follows from a value of a variable. -/
def noteValue (name value : Octets) : Scripting Unit := do
  let number : Nat := (String.ofList value).toNat?.getD 0
  match String.ofList name with
  | "OPTIND" => modify (fun session => { session with cursor := (max 1 number, none) })
  | "PATH" => modify (fun session => { session with located := [] })
  | "RANDOM" => adjust (fun extras => { extras with seed := number })
  | "SECONDS" =>
    let now ← ask Course.now
    adjust (fun extras => { extras with now, start := now, counted := number })
  | _ => return ()

/-- Complain if a variable may not be changed. -/
def demandWritable (name : Octets) : Scripting Unit := do
  let session ← get
  if (session.binding name).isReadonly then
    failAbout name (if session.isExtended then "readonly variable" else "is read only")

/-- Change the content of a variable. -/
def setContent (name : Octets) (content : Content) : Scripting Unit := do
  demandWritable name
  modify (fun session =>
    let known := session.binding name
    session.bind name { known with content, isExported := known.isExported || session.has 'a' })

/-- Complain about an index before the first element. -/
def complainIndex {α : Type} (name index : Octets) : Scripting α :=
  failAbout (name ++ '[' :: index ++ [']']) "bad array subscript"

/-- The number that an index stands for among the elements of a content. -/
def placeAt (name index : Octets) (content : Content) (n : Int) : Scripting Nat := do
  let place : Int := if 0 ≤ n then n else content.nextNumber + n
  if place < 0 then complainIndex name index else return place.toNat

/-- Whether the value of a variable is made when it is asked for. -/
def isComputed (session : Session) (name : Octets) : Bool :=
  session.isExtended && Session.computedNames.contains (String.ofList name) &&
    (session.bindings.lookup name).any (fun known => known.content = .nothing)

/-- Give a variable a value as it is. -/
def put (name value : Octets) : Scripting Unit := do
  let session ← get
  if !isComputed session name then
    setContent name ((session.binding name).content.withText value)
  noteValue name value

/-- Give an element of a variable a value as it is; its number is calculated by others. -/
def putElement (name index value : Octets) (calculate : Octets → Scripting Int) :
    Scripting Unit := do
  match ((← get).binding name).content with
  | .table elements => setContent name (.table (Content.entered index value elements))
  | content =>
    let place ← placeAt name index content (← calculate index)
    setContent name (content.withNumbered place value)

/-- Whether a text holds a name. -/
def mentions (name : Octets) : Octets → Bool
  | [] => false
  | c :: rest => name.isPrefixOf (c :: rest) || mentions name rest

/-- Go on to the next random number if a text asks for one. -/
def draw (text : Octets) : Scripting Unit := do
  if (← get).isExtended ∧ mentions "RANDOM".toList text then
    adjust (fun extras => { extras with seed := Session.nextSeed extras.seed })

/-- Look at the clock if a text asks for the time. -/
def seeTime (text : Octets) : Scripting Unit := do
  if (← get).isExtended ∧ mentions "SECONDS".toList text then
    let now ← ask Course.now
    adjust (fun extras => { extras with now })

/-- The value of an expression; the values that it gives to variables are given to them by
others. -/
def calculateWith (give : Octets → Int → Scripting Unit) (expression : Octets) :
    Scripting Int := do
  seeTime expression
  let session ← get
  let demands := session.isExtended && session.has 'u'
  match Arithmetic.evaluate session.dialect demands session.valueOf? expression with
  | .ok (n, assigned) =>
    for (name, value) in assigned do
      give name value
    draw expression
    return n
  | .error (.unbound name) => abandon (name ++ ": unbound variable".toList)
  | .error fault =>
    if session.isExtended then fail (fault.extendedMessage expression)
    else fail (fault.message expression)

/-- Give what a text names a number. An index in it may give numbers as well; `fuel` bounds how
often. -/
def putNumber : Nat → Octets → Int → Scripting Unit
  | 0, _, _ => return ()
  | fuel + 1, text, n => do
    let text := (← get).targetOf text
    match elementName? text with
    | none => put text (Octets.ofInt n)
    | some (name, index) =>
      putElement name index (Octets.ofInt n) (calculateWith (putNumber fuel))

/-- The value of an expression. -/
def calculate (expression : Octets) : Scripting Int := calculateWith (putNumber 16) expression

/-- A value as a variable holds it. -/
def prepared (known : Variable) (value : Octets) : Scripting Octets := do
  let value ← if known.isInteger then do
      pure (Octets.ofInt (← calculate value))
    else pure value
  return match known.casing with
    | some goal => goal.change value
    | none => value

/-- Give an element of a variable a value. -/
def assignElement (name index value : Octets) : Scripting Unit := do
  let name := (← get).targetOf name
  putElement name index (← prepared ((← get).binding name) value) calculate

/-- Give a variable a value. -/
def assign (name value : Octets) : Scripting Unit := do
  let target := (← get).targetOf name
  if (← get).isExtended then
    match elementName? target with
    | some (name, index) => assignElement name index value
    | none => put target (← prepared ((← get).binding target) value)
  else put target value

/-- Give the variable or the element that a text names a value. -/
def assignNamed (text value : Octets) : Scripting Unit := do
  match if (← get).isExtended then elementName? text else none with
  | some (name, index) => assignElement name index value
  | none => assign text value

/-- Take a variable away. -/
def unset (name : Octets) : Scripting Unit := do
  let session ← get
  if session.isExtended ∧ (session.binding name).isReadonly then
    failAbout name "cannot unset: readonly variable"
  demandWritable name
  modify (fun session => session.unbind name)

/-- Remember what a variable was, so that the running function has it of its own. -/
def cover (name : Octets) : Scripting Unit :=
  modify (fun session =>
    match session.covered with
    | [] => session
    | inner :: outer =>
      if inner.any (fun entry => entry.1 = name) then session
      else
        { session with
          covered := ((name, session.bindings.lookup name) :: inner) :: outer })

/-- Start to remember what variables were. -/
def beginCover : Scripting Unit :=
  modify (fun session => { session with covered := [] :: session.covered })

/-- Let variables be what they were. -/
def endCover : Scripting Unit :=
  modify (fun session =>
    match session.covered with
    | [] => session
    | inner :: outer =>
      inner.foldl (fun session (name, before?) =>
        match before? with
        | some before => session.bind name before
        | none => session.unbind name) { session with covered := outer })

end Scripting

end PubSubTrials.Shell
