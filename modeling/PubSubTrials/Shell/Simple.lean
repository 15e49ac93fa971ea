import PubSubTrials.Shell.Builtins.Lookup
import PubSubTrials.Shell.Grammar

/-!
# Simple commands

A simple command is run in steps: its words are expanded, its redirections take effect, its
assignments are made, and then what the first word means is run: a function, a builtin command or
a program. Assignments in front of a special builtin command stay; in front of anything else they
hold while it runs.
-/

namespace PubSubTrials.Shell.Simple

open Host (Course)

/-! ## Words -/

/-- Whether a text in front of an equals sign says what is assigned. -/
def isAssigned (dialect : Dialect) (text : Octets) : Bool :=
  let bare := if text.getLast? = some '+' then text.dropLast else text
  isName text || (dialect = .extended && (isName bare || (elementName? bare).isSome))

/-- A name with the value that follows it in a word, if the word is an assignment. -/
def declaration? (dialect : Dialect) : Word → Option (Octets × Word)
  | .text false chars :: rest =>
    match Octets.cutAt (· = '=') chars with
    | (name, _ :: value) =>
      if isAssigned dialect name then some (name, .text false value :: rest) else none
    | _ => none
  | _ => none

/-- The words of a command without those in front that only say how to look it up. -/
def target (fields : List Octets) : List Octets :=
  match fields with
  | name :: rest =>
    if name = "command".toList ∨ name = "builtin".toList then
      rest.dropWhile (fun word => word.head? = some '-')
    else fields
  | [] => []

/-- Whether the arguments of a command are declarations. -/
def takesDeclarations (session : Session) (fields : List Octets) : Bool :=
  match target fields with
  | name :: _ =>
    !session.functions.any (fun entry => entry.1 = name) &&
      (Builtins.find? session.dialect name).any Builtin.isDeclaration
  | [] => false

/-- The fields of the words of a command, after those that are known. -/
def fieldsFrom (perform : Performer) : List Word → List Octets → Scripting (List Octets)
  | [], fields => return fields
  | word :: rest, fields => do
    let session ← get
    let declared? :=
      if takesDeclarations session fields then declaration? session.dialect word else none
    let more ← match declared? with
      | some (name, value) => do
        pure [name ++ '=' :: (← Expansion.value perform value)]
      | none => Expansion.fields perform word
    fieldsFrom perform rest (fields ++ more)

/-! ## Assignments -/

/-- What an assignment has done. -/
structure Made where
  /-- The variable that has got a value. -/
  name : Octets
  /-- The assignment as a trace shows it. -/
  trace : Octets

/-- A word as a trace shows it. -/
def traced (session : Session) (word : Octets) : Octets :=
  if session.isExtended then Spelled.traced word else word

/-- The value that an assignment gives, which is empty or not spelled at all if it is empty. -/
def tracedValue (session : Session) (value : Octets) : Octets :=
  if value.isEmpty then [] else traced session value

/-- Add fields to the content of a variable, after the elements that are there. -/
def addFields (known : Variable) : Content → List Octets → Scripting Content
  | content, [] => return content
  | content, value :: rest => do
    let value ← Scripting.prepared known value
    addFields known (content.withNumbered content.nextNumber value) rest

/-- Add names and values by turns to a table. -/
def addPairs (known : Variable) : List (Octets × Octets) → List Octets →
    Scripting (List (Octets × Octets))
  | elements, [] => return elements
  | elements, [name] => return Content.entered name [] elements
  | elements, name :: value :: rest => do
    addPairs known (Content.entered name (← Scripting.prepared known value) elements) rest

/-- Add the elements of a list to the content of a variable. -/
def addElements (perform : Performer) (name : Octets) (known : Variable) :
    Content → List (Option Word × Word) → Scripting Content
  | content, [] => return content
  | .table elements, (none, word) :: rest => do
    Scripting.warn (name ++ [':', ' '] ++ (← Expansion.single perform word) ++
      ": must use subscript when assigning associative array".toList)
    addElements perform name known (.table elements) rest
  | content, (none, word) :: rest => do
    let fields ← Expansion.fields perform word
    addElements perform name known (← addFields known content fields) rest
  | content, (some index, word) :: rest => do
    let index ← Expansion.single perform index
    let value ← Scripting.prepared known (← Expansion.value perform word)
    match content with
    | .table elements =>
      addElements perform name known (.table (Content.entered index value elements)) rest
    | content =>
      let place ← Scripting.placeAt name index content (← Scripting.calculate index)
      addElements perform name known (content.withNumbered place value) rest

/-- Give a variable a list of elements. -/
def assignList (perform : Performer) (name : Octets) (appends : Bool)
    (words : List (Option Word × Word)) : Scripting Unit := do
  let session ← get
  let known := session.binding name
  let start : Content :=
    match appends, known.content with
    | true, .nothing => .list []
    | true, .text value => .list [(0, value)]
    | true, content => content
    | false, .table _ => .table []
    | false, _ => .list []
  match start, words with
  | .table elements, (none, _) :: _ =>
    let fields ← Expansion.allFields perform (words.map Prod.snd)
    Scripting.setContent name (.table (← addPairs known elements fields))
  | start, words => Scripting.setContent name (← addElements perform name known start words)

/-- The elements of a list about as they were written. -/
def listSource (words : List (Option Word × Word)) : Octets :=
  Octets.joined [' '] (words.map (fun (index, word) =>
    match index with
    | some index => '[' :: Word.source index ++ ']' :: '=' :: Word.source word
    | none => Word.source word))

/-- Make an assignment. -/
def assign (perform : Performer) : Assignment → Scripting Made
  | .mk name none false (.word word) => do
    let value ← Expansion.value perform word
    Scripting.assign name value
    return ⟨name, name ++ '=' :: tracedValue (← get) value⟩
  | .mk name index appends (.word word) => do
    let value ← Expansion.value perform word
    let sign := if appends then ['+', '='] else ['=']
    match index with
    | none => Scripting.assign name (← Builtins.joinedValue name appends value)
    | some index =>
      let index ← Expansion.single perform index
      if index.isEmpty then Scripting.complainIndex name index
      let target := name ++ '[' :: index ++ [']']
      Scripting.assignElement name index (← Builtins.joinedValue target appends value)
    let place := match index with
      | some index => '[' :: Word.source index ++ [']']
      | none => []
    return ⟨name, name ++ place ++ sign ++ tracedValue (← get) value⟩
  | .mk name _ appends (.list words) => do
    let target := (← get).targetOf name
    assignList perform target appends words
    let sign := if appends then ['+', '='] else ['=']
    return ⟨name, name ++ sign ++ '(' :: listSource words ++ [')']⟩

/-- The name of the variable of an assignment. -/
def nameOf : Assignment → Octets
  | .mk name _ _ _ => name

/-- Give lists to variables that a command has declared, even if they are not to be changed from
then on. -/
def assignDeclared (perform : Performer) : List Assignment → Scripting Unit
  | [] => return ()
  | assignment :: rest => do
    let name := nameOf assignment
    let wasReadonly := ((← get).binding name).isReadonly
    let mark (isReadonly : Bool) : Scripting Unit :=
      modify (fun session => session.bind name { session.binding name with isReadonly })
    mark false
    let _ ← assign perform assignment
    mark wasReadonly
    assignDeclared perform rest

/-! ## What is run -/

/-- What a command is. -/
inductive Target where
  /-- Only assignments and redirections. -/
  | nothing
  | function (name : Octets) (function : Function) (arguments : List Octets)
  | builtin (builtin : Builtin) (name : Octets) (arguments : List Octets)
  /-- A program, looked for in given directories if these are known. -/
  | program (places : Option Octets) (name : Octets) (arguments : List Octets)

namespace Target

/-- Whether a command ends the script when it fails. -/
def isSpecial : Target → Bool
  | builtin found _ _ => found.isSpecial
  | _ => false

/-- Whether assignments in front of a command hold only while it runs. -/
def coversAssignments (dialect : Dialect) : Target → Bool
  | nothing => false
  | builtin found _ _ => !found.isSpecial || dialect = .extended
  | _ => true

/-- Whether a command is a function. -/
def isFunction : Target → Bool
  | function _ _ _ => true
  | _ => false

/-- Whether redirections stay in force after a command. -/
def keepsRedirections : Target → Bool
  | builtin found _ _ => found.name = "exec"
  | _ => false

/-- Whether assignments in front of a command are given to programs for good. -/
def exportsAssignments : Target → Bool
  | builtin found _ arguments => found.name = "exec" && !arguments.isEmpty
  | _ => false

end Target

/-- What fields mean without functions. -/
def targetWithoutFunctions (session : Session) (places : Option Octets) (fields : List Octets) :
    Target :=
  match fields with
  | [] => .nothing
  | name :: arguments =>
    match Builtins.find? session.dialect name with
    | some builtin => .builtin { builtin with isSpecial := false } name arguments
    | none => .program places name arguments

/-- What fields mean that follow a command which only looks up builtin commands. -/
def builtinTarget (session : Session) (name : Octets) (fields : List Octets) : Target :=
  match fields with
  | [] => .builtin (.plain "builtin" (Builtins.nothing 0)) name []
  | wanted :: _ =>
    if (Builtins.find? session.dialect wanted).isSome then
      targetWithoutFunctions session none fields
    else
      .builtin (.plain "builtin" (fun _ =>
        Scripting.failAbout wanted "not a shell builtin")) name []

/-- What fields mean that follow a command which looks up without functions. -/
def commandTarget (name : Octets) (arguments : List Octets) : Scripting Target := do
  match ← Scripting.attempt (Scripting.naming name (Builtins.request arguments)) with
  | .error _ =>
    let status := (← get).status
    return .builtin (.plain "command" (Builtins.nothing status)) name []
  | .ok request =>
    match request.asks with
    | some inSentence =>
      return .builtin (.plain "command" (fun _ => Builtins.answer inSentence request)) name []
    | none =>
      let session ← get
      match request.words with
      | [] => return .builtin (.plain "command" (Builtins.nothing 0)) name []
      | words =>
        let places :=
          if request.places = Program.places session then none else some request.places
        return targetWithoutFunctions session places words

/-- What fields mean; `fuel` bounds the number of commands that only look up others. -/
def meaning : Nat → List Octets → Scripting Target
  | 0, _ => return .nothing
  | fuel + 1, fields => do
    let session ← get
    match fields with
    | [] => return .nothing
    | name :: arguments =>
      match session.functions.lookup name with
      | some found => return .function name found arguments
      | none =>
        if name = "command".toList then
          match arguments with
          | next :: _ =>
            if next = "command".toList then meaning fuel arguments
            else commandTarget name arguments
          | [] => commandTarget name arguments
        else if session.isExtended ∧ name = "builtin".toList then
          return builtinTarget session name arguments
        else
          match Builtins.find? session.dialect name with
          | some builtin => return .builtin builtin name arguments
          | none => return .program none name arguments

/-! ## Running -/

/-- Whether something is done when a signal comes or the script ends. -/
def hasTraps (session : Session) : Bool :=
  session.traps.any (fun trap => !trap.2.isEmpty)

/-- Run a builtin command. One that is not special only fails itself. -/
def runBuiltin (means : Means) (builtin : Builtin) (name : Octets) (arguments : List Octets) :
    Scripting Nat := do
  let result ← Scripting.attempt (Scripting.naming name (do
    let status ← builtin.run means arguments
    if (← get).outputFailed then
      modify (fun session => { session with outputFailed := false })
      Scripting.warn (name ++ ": I/O error".toList)
      return if status % 2 = 0 then status + 1 else status
    else return status))
  match result with
  | .ok status => return status
  | .error stop =>
    if stop = .failure ∧ (!builtin.isSpecial ∨ (← get).isExtended) then return (← get).status
    else throw stop

/-- Run a function. -/
def runFunction (means : Means) (name : Octets) (function : Function) (arguments : List Octets) :
    Scripting Nat := do
  let before ← get
  let invoked : Invoked := ⟨name, function.file, before.line⟩
  set { before with
    arguments, cursor := (1, none), loops := 0, calls := before.calls + 1
    extras := { before.extras with running := invoked :: before.extras.running } }
  let body : Scripting Unit := do
    Scripting.setStatus (← means.perform (.command ⟨means.stance.isTested, false⟩ function.body))
    Subshell.seize means.perform Subshell.atReturn
  let _ ← Scripting.ensuring
    (Subshell.withoutTraps (Subshell.isLocal before) body)
    (modify (fun session =>
      { session with
        arguments := before.arguments, cursor := before.cursor, loops := before.loops
        calls := before.calls
        extras := { session.extras with running := before.extras.running }
        skip := if session.skip = .function then .nothing else session.skip }))
  return (← get).status

/-- Find the program of a name, and note where it is. -/
def findNoted (places name : Octets) : Scripting Octets := do
  let path ← Program.demand places name
  if !Host.isPath name then Builtins.noteProgram name path 1
  return path

/-- Run a program, in the place of the shell if nothing comes after it. -/
def runProgram (means : Means) (places : Option Octets) (name : Octets)
    (arguments : List Octets) : Scripting Nat := do
  let session ← get
  let places := places.getD (Program.places session)
  let start : Scripting Nat := do
    let path ← Program.demand places name
    Program.become means path name arguments
  if means.stance.isLast ∧ !hasTraps session then start
  else
    match ← Scripting.attempt (findNoted places name) with
    | .ok path => Subshell.run means.perform (Program.become means path name arguments)
    | .error _ => return (← get).status

/-- Run what a command is. -/
def run (means : Means) : Target → Scripting Nat
  | .nothing => return (← get).outputStatus
  | .function name function arguments => runFunction means name function arguments
  | .builtin builtin name arguments => runBuiltin means builtin name arguments
  | .program places name arguments => runProgram means places name arguments

/-! ## Traces -/

/-- What stands at the start of each line of a trace. Its first character stands there once more for
each text within which the command is run in the extended dialect. -/
def traceStart (perform : Performer) : Scripting Octets := do
  let session ← get
  let source := (session.lookup? "PS4").getD []
  let start ← match if source.any (['$', '\x60', '\\'].contains ·) then
      Grammar.document? session.dialect source else none with
    | none => pure source
    | some word => do
      set { session with options := session.options.filter (· ≠ 'x') }
      let shown ← Scripting.attempt (Expansion.single perform word)
      modify (fun after => { after with options := session.options, status := session.status })
      pure (shown.toOption.getD source)
  let more := if session.isExtended then session.extras.nesting else 0
  return List.replicate more (start.headD '+') ++ start

/-- What a trace says of a command. -/
def traceOf (session : Session) (start : Octets) (assigned : List Made) (fields : List Octets) :
    Octets :=
  let settings := assigned.map Made.trace
  let words := fields.map (traced session)
  let line (words : List Octets) : Octets :=
    start ++ Octets.joined [' '] words ++ [Octets.lineEnd]
  if session.isExtended then
    (settings.map (fun setting => line [setting])).flatten ++
      (if words.isEmpty then [] else line words)
  else line (settings ++ words)

/-- Trace a command that is no simple one, if traces are wanted. -/
def trace (perform : Performer) (text : Octets) : Scripting Unit := do
  let session ← get
  if session.isExtended ∧ session.has 'x' then
    Scripting.emit 2 ((← traceStart perform) ++ text ++ [Octets.lineEnd])

/-- Carry out steps that are given a place for traces, if any are wanted. -/
def tracing {α : Type} (steps : Option Nat → Scripting α) : Scripting α := do
  match ← Scripting.has 'x', ← Scripting.ask (Course.handle? 2) with
  | true, some handle =>
    let place ← Scripting.ask (Course.keep handle)
    Scripting.ensuring (steps (some place)) (Scripting.ask (Course.redirect place none))
  | _, _ => steps none

/-! ## All of it -/

/-- The status of a command of which a redirection has failed. -/
def failedRedirection (target : Target) : Scripting Nat := do
  let status ← Redirection.failureStatus
  Scripting.setStatus status
  if target.isSpecial ∧ !(← get).isExtended then throw .failure else return status

/-- Make an assignment in front of a command. -/
def assignFor (perform : Performer) (target : Target) (covers : Bool) (assignment : Assignment) :
    Scripting Made := do
  if covers then Scripting.cover (nameOf assignment)
  let made ← assign perform assignment
  if covers ∨ target.exportsAssignments then
    modify (fun session =>
      session.bind made.name { session.binding made.name with isExported := true })
  return made

/-- Run a simple command. -/
def command (means : Means) (line : Nat) (assignments : List Assignment) (words : List Word)
    (redirections : List Redirection) (declared : List Assignment) : Scripting Nat := do
  modify (fun session => { session with line, outputStatus := 0 })
  let channels := (← get).extras.channels
  let fields ← fieldsFrom means.perform words []
  let target ← meaning (fields.length + 1) fields
  let covers := target.coversAssignments (← get).dialect
  let steps (place : Option Nat) : Scripting Nat :=
    Redirection.within means.perform redirections (failedRedirection target)
      target.keepsRedirections (do
        let assigned ← assignments.mapM (assignFor means.perform target covers)
        match place with
        | some place =>
          let start ← traceStart means.perform
          Scripting.emit place (traceOf (← get) start assigned fields)
          Scripting.ask (Course.redirect place none)
        | none => pure ()
        let status ← run means target
        assignDeclared means.perform declared
        return status)
  let whole : Scripting Nat :=
    if covers ∧ (target.isFunction ∨ !assignments.isEmpty) then do
      Scripting.beginCover
      Scripting.ensuring (tracing steps) Scripting.endCover
    else tracing steps
  let status ← whole
  Scripting.adjust (fun extras => { extras with lastWord := fields.getLastD [] })
  if (← get).extras.channels ≠ channels then Subshell.closeChannels channels
  return status

end PubSubTrials.Shell.Simple
