import PubSubTrials.Shell.Builtins.Control
import PubSubTrials.Shell.Builtins.Directories
import PubSubTrials.Shell.Builtins.Input
import PubSubTrials.Shell.Builtins.Printing
import PubSubTrials.Shell.Builtins.Settings
import PubSubTrials.Shell.Builtins.Signals

/-!
# What the names of commands mean

A name may be a keyword, an alias, a function, a builtin command or a program, in this order. A
script can ask what a name means, and can have a command run as if there were no functions.
-/

namespace PubSubTrials.Shell.Builtins

open Host (Course)

/-- What the name of a command means. -/
inductive Meaning where
  | keyword
  | shorthand (value : Octets)
  | function
  | builtin (isSpecial : Bool)
  | program (path : Octets)
  | unknown
  deriving DecidableEq, Repr

/-- Builtin commands that tell what names mean or change it, and whether they are special. -/
def lookupNames : List String := ["type", "command", "builtin", "hash"]

/-- Do nothing about builtin commands that are to be switched on or off. -/
def enable (arguments : List Octets) : Scripting Nat := do
  let _ ← Arguments.options "adnpsf:" arguments
  return 0

/-- The builtin commands that need no others. -/
def simple (dialect : Dialect) : List Builtin :=
  printing ++ declaring dialect ++ setting dialect ++ taking dialect ++ directing dialect ++
    aboutJobs dialect ++ aboutSignals ++ aboutDirectories dialect ++
    (match dialect with
    | .plain => []
    | .extended => [.plain "enable" enable])

/-- The names of keywords. -/
def isKeyword (dialect : Dialect) (name : Octets) : Bool :=
  (Keyword.ofText? dialect name).isSome

/-- The meanings of a name that a session knows itself, the first one first. In the extended dialect
aliases are not used. -/
def knownMeanings (session : Session) (name : Octets) : List Meaning :=
  let text := String.ofList name
  let keyword := if isKeyword session.dialect name then [Meaning.keyword] else []
  let shorthand :=
    if session.isExtended then []
    else (session.aliases.lookup name).toList.map Meaning.shorthand
  let function :=
    if session.functions.any (fun entry => entry.1 = name) then [Meaning.function] else []
  let builtin := match (simple session.dialect).find? (fun builtin => builtin.name = text) with
    | some builtin => [Meaning.builtin builtin.isSpecial]
    | none =>
      if lookupNames.contains text ∧ (session.isExtended ∨ text ≠ "builtin") then
        [Meaning.builtin false]
      else []
  keyword ++ shorthand ++ function ++ builtin

/-- Note the path at which a program was found. -/
def noteProgram (name path : Octets) (runs : Nat) : Scripting Unit :=
  modify (fun session =>
    let before := (session.located.lookup name).map Prod.snd
    let entry := (name, path, before.getD 0 + runs)
    { session with
      located :=
        if before.isSome then
          session.located.map (fun known => if known.1 = name then entry else known)
        else session.located ++ [entry] })

/-- What a name means; paths are looked for in given directories. The plain dialect notes the
program that it finds where it would look for it. -/
def meaning (places name : Octets) : Scripting Meaning := do
  let session ← get
  match knownMeanings session name with
  | first :: _ => return first
  | [] =>
    match ← Scripting.ask (Course.findProgram places name) with
    | .ok path =>
      if !session.isExtended ∧ places = Program.places session ∧ !Host.isPath name then
        noteProgram name path 0
      return .program path
    | .error _ => return .unknown

/-- What a sentence says of a meaning that there is; `isTracked` tells that a program was run
before. -/
def sentence (isExtended isTracked : Bool) : Meaning → Octets
  | .keyword => " is a shell keyword".toList
  | .shorthand value => " is an alias for ".toList ++ value
  | .function => (if isExtended then " is a function" else " is a shell function").toList
  | .builtin isSpecial =>
    (if isSpecial ∧ !isExtended then " is a special shell builtin"
      else " is a shell builtin").toList
  | .program path =>
    if !isTracked then " is ".toList ++ path
    else if isExtended then " is hashed (".toList ++ path ++ [')']
    else " is a tracked alias for ".toList ++ path
  | .unknown => ": not found".toList

/-- Tell in a sentence what a name means. -/
def describe (places name : Octets) : Scripting Nat := do
  let session ← get
  let isTracked := session.located.any (fun entry => entry.1 = name)
  match ← meaning places name with
  | .unknown =>
    if session.isExtended then
      Scripting.warn (name ++ ": not found".toList)
      return 1
    else
      Scripting.sayLine (name ++ ": not found".toList)
      return 127
  | found =>
    Scripting.sayLine (name ++ sentence session.isExtended isTracked found)
    return 0

/-- The paths of all programs of a name. -/
def allPrograms (places name : Octets) : Scripting (List Octets) := do
  let found ← (Octets.splitOn ':' places).mapM (fun place =>
    Scripting.ask (Course.findProgram place name))
  return found.filterMap Except.toOption

/-- Tell in sentences what all a name means, or only give the paths of programs. -/
def describeAll (onlyPaths : Bool) (places name : Octets) : Scripting Nat := do
  let session ← get
  let paths ← allPrograms places name
  let known := if onlyPaths then [] else knownMeanings session name
  if known.isEmpty ∧ paths.isEmpty then
    if !onlyPaths then Scripting.warn (name ++ ": not found".toList)
    return 1
  else
    for found in known do
      Scripting.sayLine (name ++ sentence session.isExtended false found)
    for path in paths do
      Scripting.sayLine (if onlyPaths then path else name ++ " is ".toList ++ path)
    return 0

/-- Tell how a command of a name could be called. -/
def locate (places name : Octets) : Scripting Nat := do
  match ← meaning places name with
  | .shorthand value =>
    Scripting.sayLine ("alias ".toList ++ name ++ '=' :: Spelled.quoted value)
    return 0
  | .program path =>
    Scripting.sayLine path
    return 0
  | .unknown => return if (← get).isExtended then 1 else 127
  | _ =>
    Scripting.sayLine name
    return 0

/-- What kind of command a name means, in a word. -/
def kindOf (name : Octets) : Scripting Nat := do
  let tell (word : String) : Scripting Nat := do
    Scripting.sayLine word.toList
    return 0
  match ← meaning (Program.places (← get)) name with
  | .keyword => tell "keyword"
  | .shorthand _ => tell "alias"
  | .function => tell "function"
  | .builtin _ => tell "builtin"
  | .program _ => tell "file"
  | .unknown => return 1

/-- Give the path of a program, which is looked for in any case if `forced` says so. -/
def pathOf (forced : Bool) (places name : Octets) : Scripting Nat := do
  let session ← get
  match if forced then [] else knownMeanings session name with
  | _ :: _ => return 0
  | [] =>
    match ← Scripting.ask (Course.findProgram places name) with
    | .ok path =>
      Scripting.sayLine path
      return 0
    | .error _ => return 1

/-- Tell what names mean. -/
def type (arguments : List Octets) : Scripting Nat := do
  let session ← get
  let places := Program.places session
  let (options, names) ←
    if session.isExtended then Arguments.options "afptP" arguments else pure ([], arguments)
  let given := Arguments.given options
  names.foldlM (fun status name => do
    let result ←
      if given 't' then kindOf name
      else if given 'a' then describeAll (given 'p' || given 'P') places name
      else if given 'p' ∨ given 'P' then pathOf (given 'P') places name
      else describe places name
    return if result = 0 then status else result) 0

/-! ## Programs that were found -/

/-- The number by which a name finds its place in the table of programs. -/
def placeOf (name : Octets) : Nat :=
  let first := (name.head?.map Char.toNat).getD 0
  (name.foldl (fun n c => n + c.toNat) (first * 16)) % 32768 % 31

/-- Print the programs that were found. -/
def listLocated : Scripting Unit := do
  let session ← get
  if session.isExtended then
    if session.located.isEmpty then Scripting.sayLine "hash: hash table empty".toList
    else
      Scripting.sayLine "hits\tcommand".toList
      for (_, path, runs) in session.located do
        let digits := Octets.ofNat runs
        Scripting.sayLine (List.replicate (4 - digits.length) ' ' ++ digits ++ '\t' :: path)
  else
    for (_, path, _) in session.located.mergeSort (fun a b => placeOf a.1 ≤ placeOf b.1) do
      Scripting.sayLine path

/-- Look for programs and note where they are, forget that, or print it. -/
def hash (arguments : List Octets) : Scripting Nat := do
  let session ← get
  let (options, names) ←
    Arguments.options (if session.isExtended then "lrp:dt" else "rv") arguments
  let given := Arguments.given options
  if given 'r' then modify (fun session => { session with located := [] })
  if names.isEmpty then
    if !given 'r' then listLocated
    return 0
  else
    names.foldlM (fun status name => do
      match knownMeanings (← get) name,
        ← Scripting.ask (Course.findProgram (Program.places session) name) with
      | [], .ok path =>
        if given 't' then Scripting.sayLine path
        else if !Host.isPath name then noteProgram name path 0
        return status
      | [], .error _ =>
        Scripting.warn (name ++ ": not found".toList)
        return 1
      | _ :: _, _ => return status) 0

/-- A request of the command that runs another one without functions. -/
structure Request where
  /-- The directories to look in. -/
  places : Octets
  /-- Whether it only asks for a meaning, and if so whether in a sentence. -/
  asks : Option Bool
  words : List Octets

/-- What the arguments of that command ask for. -/
def request (arguments : List Octets) : Scripting Request := do
  let (options, words) ← Arguments.options "pvV" arguments
  let session ← get
  let places :=
    if Arguments.given options 'p' then Host.usualPlaces else Program.places session
  let asks :=
    if Arguments.given options 'V' then some true
    else if Arguments.given options 'v' then some false
    else none
  return ⟨places, asks, words⟩

/-- Answer what a request asks. -/
def answer (inSentence : Bool) (request : Request) : Scripting Nat := do
  match request.words with
  | [] => return 0
  | name :: _ =>
    if inSentence then describe request.places name else locate request.places name

/-- The builtin command of a name, if there is one. -/
def find? (dialect : Dialect) (name : Octets) : Option Builtin :=
  let text := String.ofList name
  (simple dialect ++ [Builtin.plain "type" type, .plain "hash" hash]).find? (fun builtin =>
    builtin.name = text)

end PubSubTrials.Shell.Builtins
