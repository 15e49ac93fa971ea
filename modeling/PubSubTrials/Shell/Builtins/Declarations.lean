import PubSubTrials.Shell.Builtins.Basic
import PubSubTrials.Shell.Pattern

/-!
# Builtin commands that declare

Giving variables to programs, keeping them from being changed, letting functions have some of
their own, saying what is assigned to them, and forgetting them; and aliases.
-/

namespace PubSubTrials.Shell.Builtins

/-- A name and what is assigned to it. -/
def splitAssignment (text : Octets) : Octets × Option Octets :=
  match Octets.cutAt (· = '=') text with
  | (name, _ :: value) => (name, some value)
  | (name, []) => (name, none)

/-- A text that is no name, for a message of the extended dialect. -/
def notIdentifier (text : Octets) : Octets :=
  ['\x60'] ++ text ++ "': not a valid identifier".toList

/-- Complain if a text is no name. -/
def demandName (name : Octets) : Scripting Unit := do
  if !isName name then
    if (← get).isExtended then Scripting.fail (notIdentifier name)
    else Scripting.failAbout name "bad variable name"

/-- Names with what they stand for, in order. -/
def inOrder {α : Type} (entries : List (Octets × α)) : List (Octets × α) :=
  entries.mergeSort (fun a b => Pattern.precedes a.1 b.1)

/-- Print variables as declarations. -/
def listDeclarations (word : String) (p : Variable → Bool) : Scripting Unit := do
  let session ← get
  for (name, known) in inOrder (session.bindings.filter (fun entry => p entry.2)) do
    if session.isExtended then
      Scripting.sayLine ({ known with content := session.contentOf name }.declaration name)
    else
      let value := match known.content.element? 0 with
        | some value => '=' :: Spelled.quoted value
        | none => []
      Scripting.sayLine (word.toList ++ ' ' :: name ++ value)

/-- Print all variables. -/
def listAll : Scripting Unit := do
  let session ← get
  let spelled := if session.isExtended then Spelled.asNeeded else Spelled.quoted
  for (name, known) in inOrder session.bindings do
    match known.content.element? 0 with
    | some value => Scripting.sayLine (name ++ '=' :: spelled value)
    | none => pure ()

/-! ## Declarations of the extended dialect -/

/-- What a declaration says of variables. -/
structure Wishes where
  /-- Letters of what is to be so. -/
  on : List Char
  /-- Letters of what is not to be so any more. -/
  off : List Char
  deriving Repr

/-- A variable after wishes that do not depend on what is assigned. -/
def Wishes.shape (wishes : Wishes) (known : Variable) : Variable :=
  let wants (c : Char) : Bool := wishes.on.contains c
  let marked (c : Char) (now : Bool) : Bool := wants c || (now && !wishes.off.contains c)
  let content := match known.content with
    | .nothing => if wants 'A' then .table [] else if wants 'a' then .list [] else .nothing
    | .text value => if wants 'a' then .list [(0, value)] else .text value
    | content => content
  let casing :=
    if wants 'u' then some .upper
    else if wants 'l' then some .lower
    else if wishes.off.contains 'u' ∨ wishes.off.contains 'l' then none
    else known.casing
  { known with
    content, casing, isInteger := marked 'i' known.isInteger
    isReference := marked 'n' known.isReference, isExported := marked 'x' known.isExported }

/-- Options of a declaration at the start of arguments, and the other arguments. -/
def wishes (letters : String) : Nat → List Octets → Wishes → Scripting (Wishes × List Octets)
  | 0, arguments, wishes => return (wishes, arguments)
  | fuel + 1, arguments, known => do
    match arguments with
    | ['-', '-'] :: rest => return (known, rest)
    | (sign :: c :: more) :: rest =>
      let given := c :: more
      if sign ≠ '-' ∧ sign ≠ '+' then return (known, arguments)
      else
        match given.find? (fun c => !letters.toList.contains c) with
        | some stranger => Arguments.refuse ([sign, stranger] ++ ": invalid option".toList)
        | none =>
          wishes letters fuel rest
            (if sign = '-' then { known with on := known.on ++ given }
            else { known with off := known.off ++ given })
    | arguments => return (known, arguments)

/-- A name, the index of an element if there is one, whether a value is appended, and the value. -/
def parts (argument : Octets) : Octets × Option Octets × Bool × Option Octets :=
  let (target, value) := splitAssignment argument
  let appends := value.isSome && target.getLast? = some '+'
  let target := if appends then target.dropLast else target
  match elementName? target with
  | some (name, index) => (name, some index, appends, value)
  | none => (target, none, appends, value)

/-- The value of an assignment that may append to what is there. -/
def joinedValue (target : Octets) (appends : Bool) (value : Octets) : Scripting Octets := do
  if !appends then return value
  else
    let session ← get
    let before := (session.valueOf? target).getD []
    let known := session.binding (session.targetOf target)
    return if known.isInteger then before ++ '+' :: value else before ++ value

/-- Declare a variable of the extended dialect; the answer tells whether its name is one. `own`
says whether a running function gets it of its own. -/
def declareOne (wishes : Wishes) (own : Bool) (argument : Octets) : Scripting Bool := do
  let (name, index, appends, value) := parts argument
  if !isName name then
    Scripting.warn (notIdentifier (if value.isSome then argument else name))
    return false
  else
    if own then
      let known := ((← get).covered.headD []).any (fun entry => entry.1 = name)
      Scripting.cover name
      if !known then modify (fun session => session.bind name .absent)
    let session ← get
    let name := if wishes.on.contains 'n' then name else session.targetOf name
    modify (fun session => session.bind name (wishes.shape (session.binding name)))
    match value, index with
    | some value, some index =>
      let target := name ++ '[' :: index ++ [']']
      Scripting.assignElement name index (← joinedValue target appends value)
    | some value, none =>
      if wishes.on.contains 'n' then Scripting.setContent name (.text value)
      else Scripting.assign name (← joinedValue name appends value)
    | none, _ => pure ()
    if wishes.on.contains 'r' then
      modify (fun session =>
        session.bind name { session.binding name with isReadonly := true })
    return true

/-- Declare variables of the extended dialect one after the other. -/
def declareEach (wishes : Wishes) (own : Bool) (arguments : List Octets) : Scripting Nat :=
  arguments.foldlM (fun status argument => do
    return if ← declareOne wishes own argument then status else 1) 0

/-- Print the declarations of variables. -/
def showEach (names : List Octets) : Scripting Nat :=
  names.foldlM (fun status name => do
    let session ← get
    match session.bindings.lookup name with
    | some known =>
      Scripting.sayLine ({ known with content := session.contentOf name }.declaration name)
      return status
    | none =>
      Scripting.warn (name ++ ": not found".toList)
      return 1) 0

/-- Print the names of functions. -/
def showFunctions (names : List Octets) : Scripting Nat := do
  let functions := (← get).functions
  if names.isEmpty then
    for (name, _) in inOrder functions do
      Scripting.sayLine ("declare -f ".toList ++ name)
    return 0
  else
    names.foldlM (fun status name => do
      if functions.any (fun entry => entry.1 = name) then
        Scripting.sayLine name
        return status
      else return 1) 0

/-- Declare variables, in a function those of its own. -/
def declare (arguments : List Octets) : Scripting Nat := do
  let (wishes, rest) ← wishes "aAfFgiIlnrtuxp" (arguments.length + 1) arguments ⟨[], []⟩
  if wishes.on.contains 'f' ∨ wishes.on.contains 'F' then showFunctions rest
  else if wishes.on.contains 'p' ∧ !rest.isEmpty then showEach rest
  else if rest.isEmpty then
    if arguments.isEmpty then listAll
    else
      listDeclarations "" (fun known =>
        wishes.on.all (fun c => c = 'p' || known.letters.contains c))
    return 0
  else declareEach wishes (0 < (← get).calls && !wishes.on.contains 'g') rest

/-! ## Declarations of both dialects -/

/-- Declare variables: each one gets its value first, and is then marked. -/
def markEach (mark : Variable → Variable) (arguments : List Octets) : Scripting Unit := do
  for argument in arguments do
    let (name, value?) := splitAssignment argument
    demandName name
    match value? with
    | some value => Scripting.assign name value
    | none => pure ()
    modify (fun session => session.bind name (mark (session.binding name)))

/-- Give variables to programs. -/
def export' (arguments : List Octets) : Scripting Nat := do
  let isExtended := (← get).isExtended
  let (options, rest) ← Arguments.options (if isExtended then "pnf" else "p") arguments
  if rest.isEmpty then
    listDeclarations "export" Variable.isExported
    return 0
  else if Arguments.given options 'f' then return 0
  else if isExtended then
    if Arguments.given options 'n' then declareEach ⟨[], ['x']⟩ false rest
    else declareEach ⟨['x'], []⟩ false rest
  else
    markEach (fun known => { known with isExported := true }) rest
    return 0

/-- Keep variables from being changed. -/
def readonly (arguments : List Octets) : Scripting Nat := do
  let isExtended := (← get).isExtended
  let (options, rest) ← Arguments.options (if isExtended then "paAf" else "p") arguments
  if rest.isEmpty then
    listDeclarations "readonly" Variable.isReadonly
    return 0
  else if isExtended then
    let shape := (options.map Prod.fst).filter (fun c => c = 'a' || c = 'A')
    declareEach ⟨'r' :: shape, []⟩ false rest
  else
    markEach (fun known => { known with isReadonly := true }) rest
    return 0

/-- Let a function have variables of its own. -/
def local' (arguments : List Octets) : Scripting Nat := do
  let session ← get
  if session.calls = 0 then
    if session.isExtended then Scripting.failWith "can only be used in a function"
    else Scripting.failWith "not in a function"
  else if session.isExtended then
    let (wishes, rest) ← wishes "aAfFgiIlnrtux" (arguments.length + 1) arguments ⟨[], []⟩
    if arguments.isEmpty then
      let own := inOrder (session.covered.headD [])
      showEach (own.map Prod.fst)
    else declareEach wishes true (rest.filter (· ≠ ['-']))
  else
    for argument in arguments do
      if argument.head? ≠ some '-' then
        let (name, value?) := splitAssignment argument
        demandName name
        Scripting.cover name
        match value? with
        | some value => Scripting.assign name value
        | none => pure ()
    return 0

/-- Forget a function. -/
def forgetFunction (name : Octets) : Scripting Unit :=
  modify (fun session =>
    { session with functions := session.functions.filter (fun entry => entry.1 ≠ name) })

/-- Forget a variable, an element or else a function of the extended dialect. -/
def forgetNamed (itself : Bool) (text : Octets) : Scripting Unit := do
  let session ← get
  match elementName? text with
  | some (name, index) =>
    let name := session.targetOf name
    Scripting.demandWritable name
    let content := (session.binding name).content
    if content.isTable then Scripting.setContent name (content.without index)
    else if index = ['@'] ∨ index = ['*'] then Scripting.unset name
    else
      let n ← Scripting.calculate index
      let place ← Scripting.placeAt [] index content n
      Scripting.setContent name (content.without (Octets.ofNat place))
  | none =>
    let name := if itself then text else session.targetOf text
    if session.bindings.any (fun entry => entry.1 = name) then Scripting.unset name
    else forgetFunction name

/-- Forget variables or functions. -/
def unset (arguments : List Octets) : Scripting Nat := do
  let isExtended := (← get).isExtended
  let (options, rest) ← Arguments.options (if isExtended then "fvn" else "fv") arguments
  for name in rest do
    if Arguments.given options 'f' then forgetFunction name
    else if isExtended then
      if Arguments.given options 'v' then demandName name
      forgetNamed (Arguments.given options 'n') name
    else
      demandName name
      if (← get).bindings.any (fun entry => entry.1 = name) then Scripting.unset name
  return 0

/-! ## Aliases -/

/-- Print an alias. -/
def showAlias (name value : Octets) : Scripting Unit := do
  if (← get).isExtended then
    Scripting.sayLine ("alias ".toList ++ name ++ '=' :: Spelled.singleQuoted value)
  else Scripting.sayLine (name ++ '=' :: Spelled.quoted value)

/-- Complain about an alias that does not exist. -/
def complainAlias (command : String) (name : Octets) : Scripting Unit := do
  if (← get).isExtended then Scripting.warn (name ++ ": not found".toList)
  else Scripting.emit 2 (command.toList ++ ": ".toList ++ name ++ " not found\n".toList)

/-- Define or print aliases. -/
def makeAliases (arguments : List Octets) : Scripting Nat := do
  let (_, words) ←
    if (← get).isExtended then Arguments.options "p" arguments else pure ([], arguments)
  if words.isEmpty then
    for (name, value) in (← get).aliases do
      showAlias name value
  words.foldlM (fun status word => do
    match splitAssignment word with
    | (name, some value) =>
      modify (fun session =>
        { session with
          aliases := session.aliases.filter (fun entry => entry.1 ≠ name) ++ [(name, value)] })
      return status
    | (name, none) =>
      match (← get).aliases.lookup name with
      | some value =>
        showAlias name value
        return status
      | none =>
        complainAlias "alias" name
        return 1) 0

/-- Forget aliases. -/
def unalias (arguments : List Octets) : Scripting Nat := do
  let (options, names) ← Arguments.options "a" arguments
  if Arguments.given options 'a' then
    modify (fun session => { session with aliases := [] })
    return 0
  else
    names.foldlM (fun status name => do
      if (← get).aliases.any (fun entry => entry.1 = name) then
        modify (fun session =>
          { session with aliases := session.aliases.filter (fun entry => entry.1 ≠ name) })
        return status
      else
        complainAlias "unalias" name
        return 1) 0

/-- Builtin commands that declare. -/
def declaring (dialect : Dialect) : List Builtin :=
  [⟨"export", true, true, fun _ => export'⟩, ⟨"readonly", true, true, fun _ => readonly⟩,
   ⟨"local", true, true, fun _ => local'⟩, .special "unset" unset,
   ⟨"alias", false, true, fun _ => makeAliases⟩, .plain "unalias" unalias] ++
    (match dialect with
    | .plain => []
    | .extended =>
      [⟨"declare", false, true, fun _ => declare⟩, ⟨"typeset", false, true, fun _ => declare⟩])

end PubSubTrials.Shell.Builtins
