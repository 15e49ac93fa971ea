import PubSubTrials.Shell.Builtins.Declarations

/-!
# Builtin commands about options and arguments

Switching options and features on and off, changing the arguments of the script, and taking
options from arguments one after the other.
-/

namespace PubSubTrials.Shell.Builtins

/-! ## Options of the script -/

/-- Switch an option on or off. -/
def switch (letter : Char) (on : Bool) : Scripting Unit :=
  modify (fun session =>
    let wanted (c : Char) : Bool := if c = letter then on else session.options.contains c
    { session with options := session.dialect.optionOrder.filter wanted })

/-- A name in a column. -/
def column (width : Nat) (name : String) : Octets :=
  name.toList ++ List.replicate (width - name.length) ' '

/-- Whether something is on, in a word. -/
def onOrOff (on : Bool) : Octets := (if on then "on" else "off").toList

/-- A line that tells whether something is on in the extended dialect. -/
def stateLine (name : String) (on : Bool) : Octets := column 15 name ++ '\t' :: onOrOff on

/-- A command that switches an option as it is. -/
def settingLine (name : String) (on : Bool) : Octets :=
  "set ".toList ++ (if on then ['-'] else ['+']) ++ "o ".toList ++ name.toList

/-- Print which options are on, in columns or as commands. -/
def listOptions (asCommands : Bool) : Scripting Unit := do
  let session ← get
  if !session.isExtended ∧ !asCommands then Scripting.say "Current option settings\n".toList
  for (name, letter) in session.dialect.options do
    let on := session.has letter
    Scripting.sayLine
      (if asCommands then settingLine name on
      else if session.isExtended then stateLine name on
      else column 16 name ++ onOrOff on)

/-- Complain about an option that does not exist. -/
def complainOption {α : Type} (option : Octets) : Scripting α := do
  if (← get).isExtended then Arguments.refuse (option ++ ": invalid option".toList)
  else Scripting.fail ("Illegal option ".toList ++ option)

/-- Switch an option by its name. -/
def switchNamed (name : Octets) (on : Bool) : Scripting Unit := do
  let session ← get
  match session.dialect.options.lookup (String.ofList name) with
  | some letter => switch letter on
  | none =>
    if session.isExtended then
      Scripting.warn (name ++ ": invalid option name".toList)
      Scripting.setStatus 2
      throw .failure
    else complainOption ("-o ".toList ++ name)

/-- Switch options by the words at the start of arguments; the answer is the other arguments, if
there are any or if two dashes say that there are none. -/
def switchAll : Nat → List Octets → Scripting (Option (List Octets))
  | 0, rest => return some rest
  | fuel + 1, arguments => do
    match arguments with
    | [] => return none
    | ['-', '-'] :: rest => return some rest
    | ['-'] :: rest =>
      switch 'x' false
      switch 'v' false
      return if rest.isEmpty then none else some rest
    | [] :: _ => return some arguments
    | (sign :: letters) :: rest =>
      if (sign ≠ '-' ∧ sign ≠ '+') ∨ letters.isEmpty then return some arguments
      else
        let order := (← get).dialect.optionOrder
        let mut rest := rest
        for letter in letters do
          if letter = 'o' then
            match rest with
            | [] => listOptions (sign = '+')
            | name :: more =>
              rest := more
              switchNamed name (sign = '-')
          else if order.contains letter ∧ ' ' ≤ letter ∧ letter ≠ 'c' then
            switch letter (sign = '-')
          else complainOption [sign, letter]
        switchAll fuel rest

/-- Change options and arguments. -/
def set' (arguments : List Octets) : Scripting Nat := do
  if arguments.isEmpty then listAll
  else
    match ← switchAll (arguments.length + 1) arguments with
    | some rest =>
      modify (fun session => { session with arguments := rest, cursor := (1, none) })
    | none => pure ()
  return 0

/-! ## Features of the extended dialect -/

/-- Whether a name of an option or of a feature is known, and whether it is on. -/
def isOn? (session : Session) (isOption : Bool) (name : Octets) : Option Bool :=
  let name := String.ofList name
  if isOption then (session.dialect.options.lookup name).map session.has
  else (features.lookup name).map (fun _ => session.hasFeature name)

/-- Switch a feature on or off. -/
def switchFeature (name : Octets) (on : Bool) : Scripting Unit :=
  modify (fun session =>
    let name := String.ofList name
    let wanted (known : String) : Bool := if known = name then on else session.hasFeature known
    { session with features := (features.map Prod.fst).filter wanted })

/-- Print whether an option or a feature is on. -/
def showState (isOption asCommand : Bool) (name : Octets) (on : Bool) : Scripting Unit := do
  let name := String.ofList name
  Scripting.sayLine
    (if !asCommand then stateLine name on
    else if isOption then settingLine name on
    else "shopt ".toList ++ (if on then "-s " else "-u ").toList ++ name.toList)

/-- Switch features on or off, or tell which of them are on. -/
def shopt (arguments : List Octets) : Scripting Nat := do
  let (options, names) ← Arguments.options "pqsuo" arguments
  let given := Arguments.given options
  let isOption := given 'o'
  if names.isEmpty then
    let session ← get
    let known := if isOption then session.dialect.options.map Prod.fst else features.map Prod.fst
    for name in known do
      let on := (isOn? session isOption name.toList).getD false
      if (!given 's' ∨ on) ∧ (!given 'u' ∨ !on) then
        showState isOption (given 'p') name.toList on
    return 0
  else
    names.foldlM (fun status name => do
      match isOn? (← get) isOption name with
      | none =>
        Scripting.warn (name ++
          (if isOption then ": invalid option name" else ": invalid shell option name").toList)
        return 1
      | some on =>
        if given 's' ∨ given 'u' then
          if isOption then switchNamed name (given 's') else switchFeature name (given 's')
          return status
        else
          if !given 'q' then showState isOption (given 'p') name on
          return if on then status else 1) 0

/-! ## Arguments of the script -/

/-- Drop arguments at the start. -/
def shift (arguments : List Octets) : Scripting Nat := do
  let session ← get
  let count ← match arguments with
    | [] => pure 1
    | ('-' :: digits) :: _ =>
      if session.isExtended ∧ (Arguments.number? digits).isSome then
        Scripting.failAbout ('-' :: digits) "shift count out of range"
      else Arguments.number ('-' :: digits)
    | first :: _ => Arguments.number first
  if session.arguments.length < count then
    if session.isExtended then return 1 else Scripting.failWith "can't shift that many"
  else
    set { session with arguments := session.arguments.drop count, cursor := (1, none) }
    return 0

/-! ## Options of arguments -/

/-- Whether an option is known, and whether it has a value. -/
def optionIn (known : Octets) (letter : Char) : Option Bool :=
  match known with
  | [] => none
  | c :: ':' :: rest => if c = letter then some true else optionIn rest letter
  | c :: rest => if c = letter then some false else optionIn rest letter

/-- What is found when the next option is looked for. -/
structure Found where
  /-- The letter that the variable gets. -/
  letter : Char
  value : Option Octets
  /-- The argument to go on with, and the place in it. -/
  cursor : Nat × Option Nat
  message : Option String
  isDone : Bool

/-- What is found of an option of a letter, which comes in front of `rest` in the argument before
`next`. -/
def optionFound (known : Octets) (arguments : List Octets) (next : Nat) (place : Nat)
    (letter : Char) (rest : Octets) : Found :=
  let silent := known.head? = some ':'
  let onward : Nat × Option Nat := (next, some place)
  match optionIn known letter with
  | none =>
    if silent then ⟨'?', some [letter], onward, none, false⟩
    else ⟨'?', none, onward, some ("Illegal option -" ++ letter.toString), false⟩
  | some false => ⟨letter, some [], onward, none, false⟩
  | some true =>
    if !rest.isEmpty then ⟨letter, some rest, (next, none), none, false⟩
    else
      match arguments[next - 1]? with
      | some value => ⟨letter, some value, (next + 1, none), none, false⟩
      | none =>
        if silent then ⟨':', some [letter], (next, none), none, false⟩
        else ⟨'?', none, (next, none), some ("No arg for -" ++ letter.toString ++ " option"), false⟩

/-- Look for the next option. -/
def findOption (known : Octets) (arguments : List Octets) (cursor : Nat × Option Nat) : Found :=
  let (index, place?) := cursor
  let left := match place? with
    | some place => ((arguments[index - 2]?).getD []).drop place
    | none => []
  match left, place? with
  | letter :: rest, some place => optionFound known arguments index (place + 1) letter rest
  | _, _ =>
    match arguments[index - 1]? with
    | some ['-', '-'] => ⟨'?', none, (index + 1, none), none, true⟩
    | some ('-' :: letter :: rest) => optionFound known arguments (index + 1) 2 letter rest
    | _ => ⟨'?', none, (index, none), none, true⟩

/-- Take the next option from arguments. -/
def getopts (arguments : List Octets) : Scripting Nat := do
  match arguments with
  | known :: name :: rest =>
    let session ← get
    let found := findOption known (if rest.isEmpty then session.arguments else rest) session.cursor
    match found.message with
    | some message =>
      if session.isExtended then
        let text :=
          if message.startsWith "Illegal" then ": illegal option -- "
          else ": option requires an argument -- "
        let letter := (message.toList.dropWhile (· ≠ '-')).tail.take 1
        Scripting.emit 2 (session.title ++ text.toList ++ letter ++ [Octets.lineEnd])
      else Scripting.emit 2 (message ++ "\n").toList
    | none => pure ()
    if !found.isDone then
      match found.value with
      | some value => Scripting.assign "OPTARG".toList value
      | none => modify (fun session => session.unbind "OPTARG".toList)
    Scripting.assign "OPTIND".toList (Octets.ofNat found.cursor.1)
    Scripting.assign name [found.letter]
    modify (fun session => { session with cursor := found.cursor })
    return if found.isDone then 1 else 0
  | _ =>
    if (← get).isExtended then
      Scripting.emit 2 "getopts: usage: getopts optstring name [arg ...]\n".toList
      return 2
    else Scripting.failWith "Usage: getopts optstring var [arg...]"

/-- Builtin commands about options and arguments. -/
def setting (dialect : Dialect) : List Builtin :=
  [.special "set" set', .special "shift" shift, .plain "getopts" getopts] ++
    (match dialect with
    | .plain => []
    | .extended => [.plain "shopt" shopt])

end PubSubTrials.Shell.Builtins
