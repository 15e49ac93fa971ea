import PubSubTrials.Shell.Builtins.Basic

/-!
# Builtin commands about directories

Changing the working directory, and keeping a row of directories to go back to.
-/

namespace PubSubTrials.Shell.Builtins

open Host (Course)

/-- Change the working directory, if there is such a directory. -/
def enter (path : Octets) : Scripting (Except SystemError Unit) := do
  let before ← Scripting.ask workingPath
  let result : Except SystemError Unit ← Scripting.ask (Course.carryOut (fun process host =>
    match (host.view process).resolve ⟨Octets.toText path⟩ with
    | .ok (names, .directory) =>
      (.ok (), host.change process.number (fun process => { process with directory := names }))
    | .ok _ => (.error SystemError.notDirectory, host)
    | .error error => (.error error, host)))
  match result with
  | .error error => return .error error
  | .ok () =>
    let exported (name value : Octets) : Scripting Unit := do
      Scripting.assign name value
      modify (fun session =>
        session.bind name { session.binding name with isExported := true })
    exported "OLDPWD".toList (((← get).lookup? "PWD").getD before)
    exported "PWD".toList (← Scripting.ask workingPath)
    return .ok ()

/-- Whether a name is looked for in the directories of a list. -/
def isSearched (name : Octets) : Bool :=
  match Octets.cutAt (· = '/') name with
  | ([], _) => name.isEmpty
  | (first, _) => first ≠ ['.'] && first ≠ ['.', '.']

/-- The path of a directory, and whether it was found elsewhere than here. -/
def directoryPath (name : Octets) : Scripting (Octets × Bool) := do
  let places := ((← get).lookup? "CDPATH").getD []
  if !isSearched name ∨ places.isEmpty then return (name, false)
  else
    let candidates := (Octets.splitOn ':' places).map (fun place =>
      (Host.inDirectory place name, !place.isEmpty))
    let found ← Scripting.ask (Course.look (fun files =>
      candidates.find? (fun entry => files.isDirectory ⟨Octets.toText entry.1⟩)))
    return found.getD (name, false)

/-- Go to the directory of a name, and print where that is if it was found elsewhere or if
`prints` says so. -/
def goTo (name : Octets) (prints : Bool) : Scripting Nat := do
  let (path, elsewhere) ← directoryPath (if name.isEmpty then ['.'] else name)
  match ← enter path with
  | .ok () =>
    if prints ∨ elsewhere then Scripting.sayLine (← Scripting.ask workingPath)
    return 0
  | .error error =>
    if (← get).isExtended then Scripting.failAbout name error.reason
    else Scripting.fail ("can't cd to ".toList ++ name)

/-- The value of a variable that names a directory. -/
def directoryIn (variable' : String) : Scripting Octets := do
  let session ← get
  match session.lookup? variable' with
  | some value => return value
  | none =>
    if session.isExtended then Scripting.failWith (variable' ++ " not set") else return []

/-- Change the working directory. -/
def cd (arguments : List Octets) : Scripting Nat := do
  let isExtended := (← get).isExtended
  let (_, words) ← Arguments.options (if isExtended then "LPe@" else "LP") arguments
  if isExtended ∧ words.length > 1 then Scripting.failWith "too many arguments"
  else
    match words with
    | [] => goTo (← directoryIn "HOME") false
    | ['-'] :: _ => goTo (← directoryIn "OLDPWD") true
    | word :: _ => goTo word false

/-! ## Rows of directories -/

/-- A path as it is shown, where a tilde stands for the home directory. -/
def shortened (session : Session) (path : Octets) : Octets :=
  match session.lookup? "HOME" with
  | some home =>
    if home.length < 2 then path
    else
      match Octets.afterStart? home path with
      | some [] => ['~']
      | some ('/' :: rest) => '~' :: '/' :: rest
      | _ => path
  | none => path

/-- The working directory and those to which a script can go back. -/
def row : Scripting (List Octets) := do
  return (← Scripting.ask workingPath) :: (← get).extras.directories

/-- Keep directories to which a script can go back. -/
def keepRow (directories : List Octets) : Scripting Unit :=
  Scripting.adjust (fun extras => { extras with directories })

/-- Print the row of directories in a line. -/
def showRow : Scripting Unit := do
  let session ← get
  Scripting.sayLine (Octets.joined [' '] ((← row).map (shortened session)))

/-- The place in a row that a text names, counted from either end. -/
def placeIn? (length : Nat) (text : Octets) : Option Nat :=
  match text with
  | '+' :: digits => (Arguments.number? digits).bind (fun n => if n < length then some n else none)
  | '-' :: digits =>
    (Arguments.number? digits).bind (fun n => if n < length then some (length - 1 - n) else none)
  | _ => none

/-- Print the row of directories, or forget it. -/
def dirs (arguments : List Octets) : Scripting Nat := do
  let (options, _) ← Arguments.options "clpv" arguments
  let given := Arguments.given options
  if given 'c' then keepRow []
  else
    let session ← get
    let paths := (← row).map (if given 'l' then id else shortened session)
    if given 'v' then
      for (path, n) in paths.zipIdx do
        Scripting.sayLine ((if n < 10 then [' '] else []) ++ Octets.ofNat n ++ ' ' :: ' ' :: path)
    else if given 'p' then paths.forM Scripting.sayLine
    else Scripting.sayLine (Octets.joined [' '] paths)
  return 0

/-- Go to the first directory of a row and keep the others. -/
def turnTo (directories : List Octets) : Scripting Nat := do
  match directories with
  | [] => return 0
  | first :: rest =>
    match ← enter first with
    | .ok () =>
      keepRow rest
      showRow
      return 0
    | .error error => Scripting.failAbout first error.reason

/-- Go to a directory and keep the one before, or turn the row of directories. -/
def pushd (arguments : List Octets) : Scripting Nat := do
  let (stays, words) := match arguments with
    | ['-', 'n'] :: rest => (true, rest)
    | words => (false, words)
  let known ← row
  match words, known with
  | [], first :: second :: rest => turnTo (second :: first :: rest)
  | [], _ => Scripting.failWith "no other directory"
  | word :: _, known =>
    match placeIn? known.length word with
    | some n => turnTo (known.drop n ++ known.take n)
    | none =>
      if stays then
        keepRow (word :: known.tail)
        showRow
        return 0
      else
        match ← enter word with
        | .ok () =>
          keepRow known
          showRow
          return 0
        | .error error => Scripting.failAbout word error.reason

/-- Go back to the directory before, or forget one of the row. -/
def popd (arguments : List Octets) : Scripting Nat := do
  let known ← row
  match arguments, known with
  | _, [_] => Scripting.failWith "directory stack empty"
  | [], known => turnTo known.tail
  | ['-', 'n'] :: _, known =>
    keepRow (known.drop 2)
    showRow
    return 0
  | word :: _, known =>
    match placeIn? known.length word with
    | some 0 => turnTo known.tail
    | some n =>
      keepRow (known.eraseIdx n).tail
      showRow
      return 0
    | none =>
      Scripting.warn (word ++ ": invalid argument".toList)
      Arguments.tellUsage
      return 2

/-- Builtin commands about directories. -/
def aboutDirectories (dialect : Dialect) : List Builtin :=
  .plain "cd" cd ::
    (match dialect with
    | .plain => []
    | .extended => [.plain "pushd" pushd, .plain "popd" popd, .plain "dirs" dirs])

end PubSubTrials.Shell.Builtins
