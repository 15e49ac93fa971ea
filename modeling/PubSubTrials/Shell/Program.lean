import PubSubTrials.Shell.Evaluation

/-!
# The shell as a program

A shell is started with options, and with a script: a text, a file, or what can be read from its
input. What comes after the script are its arguments. The variables of the environment are
variables of the script, given on to the programs that it starts.
-/

namespace PubSubTrials.Shell.Program

open Host (Call Course)

/-- What the arguments of a shell ask for. -/
structure Request where
  /-- Whether the script stands among the arguments. -/
  hasText : Bool
  words : List Octets

/-! ## Options of the plain dialect -/

/-- Read options at the start of arguments; `fuel` bounds the number of arguments. -/
def readPlainOptions : Nat → List Octets → Bool → Scripting Request
  | 0, words, hasText => return ⟨hasText, words⟩
  | fuel + 1, words, hasText => do
    match words with
    | ['-'] :: rest | ['-', '-'] :: rest => return ⟨hasText, rest⟩
    | (sign :: letters) :: rest =>
      if sign ≠ '-' ∧ sign ≠ '+' then return ⟨hasText, words⟩
      else
        let (known, others) := letters.partition (fun c => c = 'c' ∨ c = 'l')
        if others.isEmpty then readPlainOptions fuel rest (hasText || known.contains 'c')
        else
          let rest ← Builtins.switchAll 1 ((sign :: others) :: rest)
          readPlainOptions fuel (rest.getD []) (hasText || known.contains 'c')
    | words => return ⟨hasText, words⟩

/-! ## Options of the extended dialect -/

/-- Options with names, and whether a value follows them. -/
def longOptions : List (String × Bool) :=
  [("debug", false), ("debugger", false), ("dump-po-strings", false), ("dump-strings", false),
   ("help", false), ("init-file", true), ("login", false), ("noediting", false),
   ("noprofile", false), ("norc", false), ("posix", false), ("pretty-print", false),
   ("rcfile", true), ("restricted", false), ("verbose", false), ("version", false)]

/-- How a shell is started. -/
def usage : List String :=
  ["Usage:\tbash [GNU long option] [option] ...",
   "\tbash [GNU long option] [option] script-file ...", "GNU long options:"] ++
    longOptions.map (fun option => "\t--" ++ option.1) ++
    ["Shell options:",
     "\t-ilrsD or -c command or -O shopt_option\t\t(invocation only)",
     "\t-abefhkmnptuvxBCEHPT or -o option"]

/-- Give up, with a message that starts with a title. -/
def abandon {α : Type} (title message : Octets) (status : Nat) : Scripting α := do
  Scripting.emit 2 (title ++ [':', ' '] ++ message ++ [Octets.lineEnd])
  Scripting.setStatus status
  throw .ended

/-- Complain about an option and tell how a shell is started. -/
def refuse {α : Type} (option : Octets) : Scripting α := do
  let lines := "invalid option" :: usage
  abandon (← get).title (option ++ [':', ' '] ++ ("\n".intercalate lines).toList) 2

/-- Read options with names at the start of arguments. -/
def readLongOptions : Nat → List Octets → Scripting (List Octets)
  | 0, words => return words
  | fuel + 1, words => do
    match words with
    | ('-' :: text) :: rest =>
      let isLong := text.head? = some '-' && 1 < text.length
      let name := String.ofList (if isLong then text.tail else text)
      match longOptions.lookup name with
      | some hasValue =>
        if name = "verbose" then Builtins.switch 'v' true
        readLongOptions fuel (if hasValue then rest.drop 1 else rest)
      | none => if isLong then refuse ('-' :: text) else return words
    | words => return words

/-- Follow letters of options; those with values take them from the words that come after. -/
def readLetters (sign : Char) : Octets → Request → Scripting Request
  | [], request => return request
  | letter :: letters, request => do
    let session ← get
    let on := sign = '-'
    let valued (act : Octets → Scripting Unit) : Scripting Request := do
      match request.words with
      | [] => return request
      | value :: words =>
        act value
        return { request with words }
    let known := session.dialect.optionOrder.filter (fun c => ' ' ≤ c)
    let request ←
      if letter = 'c' then pure { request with hasText := true }
      else if ['l', 'D', 'r', 'i'].contains letter then pure request
      else if letter = 'o' then
        valued (fun name =>
          match session.dialect.options.lookup (String.ofList name) with
          | some letter => Builtins.switch letter on
          | none =>
            abandon session.title (session.title ++ [':', ' '] ++ name ++
              ": invalid option name".toList) 2)
      else if letter = 'O' then
        valued (fun name => do
          if features.any (fun feature => feature.1.toList = name) then
            Builtins.switchFeature name on
          else abandon session.title (name ++ ": invalid shell option name".toList) 2)
      else if known.contains letter then
        Builtins.switch letter on
        pure request
      else refuse [sign, letter]
    readLetters sign letters request

/-- Read options at the start of arguments; `fuel` bounds the number of arguments. -/
def readExtendedOptions : Nat → Request → Scripting Request
  | 0, request => return request
  | fuel + 1, request => do
    match request.words with
    | ['-'] :: words | ['-', '-'] :: words => return { request with words }
    | (sign :: letters) :: words =>
      if sign ≠ '-' ∧ sign ≠ '+' then return request
      else readExtendedOptions fuel (← readLetters sign letters { request with words })
    | _ => return request

/-! ## Scripts -/

/-- The text of the file of a script of the extended dialect. -/
def fileText (path : Octets) : Scripting Octets := do
  let title := (← get).title
  let isDirectory ← Scripting.ask (Course.look (fun files =>
    files.isDirectory ⟨Octets.toText path⟩))
  if isDirectory then
    abandon path (path ++ [':', ' '] ++ SystemError.isDirectory.reason.toList) 126
  else
    match ← Scripting.ask (Course.openFile ⟨Octets.toText path⟩ .read) with
    | .error error =>
      abandon title (path ++ [':', ' '] ++ error.reason.toList)
        (if error = .noEntry then 127 else 126)
    | .ok handle =>
      let descriptor ← Scripting.ask (Course.keep handle)
      let text := (← Scripting.ask (Course.readAll descriptor)).toOption.getD []
      Scripting.ask (Course.redirect descriptor none)
      if (text.takeWhile (· ≠ Octets.lineEnd)).contains '\x00' then
        abandon path (path ++ ": cannot execute binary file".toList) 126
      else return text.filter (· ≠ '\x00')

/-- Where a script of the extended dialect is: in the working directory, or else where programs
are looked for. -/
def filePath (name : Octets) : Scripting Octets := do
  let exists' (path : Octets) : Scripting Bool :=
    Scripting.ask (Course.look (fun files => (files.resolve ⟨Octets.toText path⟩).isOk))
  if Host.isPath name ∨ (← exists' name) then return name
  else
    let places := Program.places (← get)
    let found ← Scripting.ask (Course.look (fun files => Host.findFile? files places name))
    return found.getD name

/-- The text of the script in a file. -/
def textOfFile (name : Octets) (arguments : List Octets) : Scripting Octets := do
  if (← get).isExtended then
    let text ← fileText (← filePath name)
    modify (fun session =>
      { session with
        title := name, arguments
        extras := { session.extras with running := [⟨"main".toList, name, 0⟩] } })
    return text
  else
    let text ← Builtins.scriptText name
    modify (fun session => { session with title := name, arguments })
    return text

/-- The text of a script that stands among the arguments, with the arguments of the script. -/
def givenText (text : Octets) (rest : List Octets) : Scripting Octets := do
  match rest with
  | title :: arguments => modify (fun session => { session with title, arguments })
  | [] => pure ()
  modify (fun session =>
    if session.isExtended then
      { session with input := some "-c".toList, options := session.options ++ ['c'] }
    else session)
  return text

/-- The script that is read from the input. -/
def readInput : Scripting Octets := do
  modify (fun session =>
    if session.isExtended then { session with options := session.options ++ ['s'] } else session)
  match ← Scripting.ask (Course.readAll 0) with
  | .ok text => return text.filter (· ≠ '\x00')
  | .error _ => return []

/-- The text of the script, which is read from the input if no argument says where it stands, and
how it is run. -/
def scriptOf (request : Request) : Scripting (Octets × Stance) := do
  match request.words with
  | [] =>
    if request.hasText then
      if (← get).isExtended then abandon (← get).title "-c: option requires an argument".toList 2
      else Scripting.failWith "-c requires an argument"
    else return (← readInput, .usual)
  | first :: rest =>
    if request.hasText then
      let text ← givenText first rest
      return (text, ⟨false, !(← Scripting.has 's')⟩)
    else if ← Scripting.has 's' then
      modify (fun session => { session with arguments := request.words })
      return (← readInput, .usual)
    else return (← textOfFile first rest, .usual)

/-- What the arguments of a shell ask for. -/
def requestOf (arguments : List Octets) : Scripting Request := do
  let fuel := arguments.length + 1
  if (← get).isExtended then
    readExtendedOptions fuel ⟨false, ← readLongOptions fuel arguments⟩
  else readPlainOptions fuel arguments false

/-- All that a shell does. -/
def steps (perform : Performer) (arguments : List Octets) : Scripting Nat := do
  let (text, stance) ← scriptOf (← requestOf arguments)
  modify (fun session => { session with line := 1 })
  perform (.script stance (.start (← get).dialect text 1) 0)

/-! ## Variables -/

/-- A variable with a value. -/
def holding (value : Octets) (isExported : Bool) : Variable :=
  { Variable.ofContent (.text value) with isExported }

/-- A variable with a number that is not to be changed. -/
def fixed (n : Nat) : Variable :=
  { Variable.ofContent (.text (Octets.ofNat n)) with isReadonly := true, isInteger := true }

/-- Variables of the extended dialect that a shell sets itself. -/
def extendedVariables (call : Call) : List (String × Variable) :=
  let version := ["5", "2", "15", "1", "release", "x86_64-pc-linux-gnu"].map String.toList
  let depth := ((call.environment.lookup "SHLVL".toList).bind Arguments.number?).getD 0 + 1
  let computed := Session.computedNames.map (fun name => (name, Variable.absent))
  [("PS4", holding ['+', ' '] false), ("BASH", holding call.path false),
   ("BASH_VERSION", holding "5.2.15(1)-release".toList false),
   ("BASH_VERSINFO", { Variable.ofContent (Session.listed version) with isReadonly := true }),
   ("EUID", fixed 0), ("UID", fixed 0), ("OPTERR", holding ['1'] false),
   ("SHLVL", holding (Octets.ofNat depth) true)] ++
    computed.map (fun (name, known) =>
      (name, { known with isReadonly := name = "SHELLOPTS" || name = "BASHOPTS" }))

/-- The variables that a shell sets itself, whatever the environment says. -/
def ownVariables (dialect : Dialect) (call : Call) (parent : Nat) (directory : Octets) :
    List (String × Variable) :=
  let number := match dialect with
    | .plain => holding (Octets.ofNat parent) false
    | .extended => fixed parent
  [("IFS", holding Session.defaultSeparators false), ("OPTIND", holding ['1'] false),
   ("PPID", number), ("PWD", holding directory true)] ++
    (match dialect with
    | .plain => []
    | .extended => extendedVariables call)

/-- The variables that a shell sets if the environment does not. -/
def missingVariables (dialect : Dialect) : List (String × Variable) :=
  ("PATH", holding Host.usualPlaces false) ::
    (match dialect with
    | .plain =>
      [("PS1", holding ['#', ' '] false), ("PS2", holding ['>', ' '] false),
       ("PS4", holding ['+', ' '] false)]
    | .extended =>
      let texts : List (String × String) :=
        [("HOSTNAME", "localhost"), ("HOSTTYPE", "x86_64"), ("MACHTYPE", "x86_64-pc-linux-gnu"),
         ("OSTYPE", "linux-gnu"), ("SHELL", "/bin/bash"), ("TERM", "dumb")]
      ("OLDPWD", { Variable.absent with isExported := true }) ::
        texts.map (fun (name, value) => (name, holding value.toList false)))

/-- The variables with which a shell starts. -/
def startingBindings (dialect : Dialect) (call : Call) (parent : Nat) (directory : Octets) :
    List (Octets × Variable) :=
  let spelled := fun (entry : String × Variable) => (entry.1.toList, entry.2)
  let own := (ownVariables dialect call parent directory).map spelled
  let given := call.environment.filter (fun entry =>
    isName entry.1 && !own.any (fun known => known.1 = entry.1))
  let missing := ((missingVariables dialect).map spelled).filter (fun entry =>
    !given.any (fun known => known.1 = entry.1))
  own ++ missing ++ given.map (fun (name, value) => (name, holding value true))

/-- The session of a shell that starts. -/
def session (dialect : Dialect) (call : Call) : Course Session := do
  let directory ← workingPath
  let parent ← Course.learn (fun process _ => process.parent)
  let ignored ← Course.learn (fun process _ => process.ignored)
  let number ← Course.number
  let now ← Course.now
  let extras : Extras :=
    { running := [], stageStatuses := [0], lastWord := call.path, directories := []
      seed := now.nanoseconds / 1000 + number, start := now, counted := 0, now, level := 0
      nesting := 0, process := number, channels := [] }
  return {
    dialect, title := call.name, arguments := [], input := none
    options := dialect.initialOptions
    features := if dialect = .extended then (features.filter Prod.snd).map Prod.fst else []
    cursor := (1, none)
    bindings := startingBindings dialect call parent directory
    covered := [], functions := [], aliases := [], documents := #[], status := 0
    outputStatus := 0, heldStatus := none, skip := .nothing, loops := 0, calls := 0, line := 0
    readLine := 1, commandName := none, traps := [], ignored, number
    background := none, jobs := [], outputFailed := false, located := [], extras }

/-- The shell of a dialect. -/
def shell (dialect : Dialect) (perform : Performer) (call : Call) : Course Nat := do
  Subshell.course perform (← session dialect call) (steps perform call.arguments)

end PubSubTrials.Shell.Program
