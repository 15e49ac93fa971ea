import PubSubTrials.Shell.Builtins.Basic
import PubSubTrials.Shell.Test
import PubSubTrials.Text.Echo

/-!
# Builtin commands that print or compare

Printing words as they are or by a format, telling about the process, and conditions over words.
-/

namespace PubSubTrials.Shell.Builtins

open Host (Course)

/-- How a session prints by formats. -/
def styleOf (session : Session) : Format.Style :=
  if session.isExtended then .extended else .plain

/-- Print words. -/
def echo (words : List Octets) : Scripting Nat := do
  Scripting.say (Echo.render (styleOf (← get)) words)
  return 0

/-- Write a piece of what a format gives. -/
def showPiece : Format.Piece → Scripting Unit
  | .shown text => Scripting.say text
  | .complaint text => Scripting.warn text

/-- Print words by a format. -/
def printf (arguments : List Octets) : Scripting Nat := do
  let session ← get
  let known := if session.isExtended then "v:" else ""
  let (options, rest) ← Arguments.options known arguments
  match rest with
  | [] =>
    if session.isExtended then
      Arguments.tellUsage
      return 2
    else Scripting.failWith "usage: printf format [arg ...]"
  | format :: arguments =>
    let result := Format.render (styleOf session) format arguments
    match options.lookup 'v' with
    | some name =>
      if !isName name ∧ (elementName? name).isNone then
        Scripting.warn (['\x60'] ++ name ++ "': not a valid identifier".toList)
        return 2
      result.complaints.forM Scripting.warn
      Scripting.assignNamed name result.output
    | none =>
      if session.isExtended then result.pieces.forM showPiece
      else
        result.complaints.forM Scripting.warn
        Scripting.say result.output
    return result.status

/-- What conditions about files depend on. -/
def facts : Scripting Test.Facts := do
  let session ← get
  Scripting.ask (Course.learn (fun process host =>
    { files := host.view process
      isTerminal := fun descriptor =>
        match process.handle? descriptor with
        | some (.outlet _) => host.isTerminal
        | _ => false
      isExecutable := Host.isExecutable host.files host.executables
      isSet := fun name => (session.valueOf? name).isSome
      isOn := fun name =>
        ((session.dialect.options.lookup (String.ofList name)).map session.has).getD false }))

/-- Evaluate a condition over words. -/
def test (words : List Octets) : Scripting Nat := do
  let dialect := (← get).dialect
  match Test.ofWords dialect (← facts) words with
  | .ok holds => return if holds then 0 else 1
  | .error fault =>
    Scripting.warn (if dialect = .extended then fault.extendedMessage else fault.message)
    return 2

/-- Evaluate a condition over words that a bracket closes. -/
def bracket (words : List Octets) : Scripting Nat := do
  match words.getLast? with
  | some [']'] => test words.dropLast
  | _ =>
    Scripting.warn
      (if (← get).isExtended then "missing \x60]'".toList else "missing ]".toList)
    return 2

/-- Print the working directory. -/
def pwd (arguments : List Octets) : Scripting Nat := do
  let _ ← Arguments.options "LP" arguments
  Scripting.sayLine (← Scripting.ask workingPath)
  return 0

/-- Print the times that were used. -/
def times (_ : List Octets) : Scripting Nat := do
  let line := if (← get).isExtended then "0m0.000s 0m0.000s\n" else "0m0.000000s 0m0.000000s\n"
  Scripting.say (line ++ line).toList
  return 0

/-- The permissions that new files lack once a text was given as a change of them. -/
def maskAfter (mask : Permissions) (text : Octets) : Scripting Permissions := do
  let isExtended := (← get).isExtended
  if text.head?.any Char.isDigit then
    match Permissions.octal? text with
    | some n =>
      if isExtended ∧ 4095 < n then Scripting.failAbout text "octal number out of range"
      else return Nat.land n Permissions.all
    | none =>
      if isExtended then Scripting.failAbout text "octal number out of range"
      else Scripting.fail ("Illegal number: ".toList ++ text)
  else if !isExtended ∧ text.all "ugoa".toList.contains then return mask
  else
    match Permissions.afterClauses (!isExtended) (Permissions.all.without mask) text with
    | .ok permissions => return Permissions.all.without permissions
    | .error fault =>
      if isExtended then
        let (c, kind) := match fault with
          | .operator c => (c, "operator")
          | .letter c => (c, "character")
        Scripting.fail (['\x60', c] ++ "': invalid symbolic mode ".toList ++ kind.toList)
      else Scripting.fail ("Illegal mode: ".toList ++ text)

/-- Print or change the permissions that new files lack. -/
def umask (arguments : List Octets) : Scripting Nat := do
  let (options, rest) ← Arguments.options (if (← get).isExtended then "Sp" else "S") arguments
  let mask ← Scripting.ask (Course.learn (fun process _ => process.mask))
  match rest with
  | [] =>
    Scripting.sayLine
      (if Arguments.given options 'S' then Permissions.clauses (Permissions.all.without mask)
      else if Arguments.given options 'p' then "umask ".toList ++ Permissions.digits mask
      else Permissions.digits mask)
  | text :: _ =>
    let mask ← maskAfter mask text
    Scripting.ask (Course.adjust (fun process => { process with mask }))
  return 0

/-- Print the limit of a resource. -/
def ulimit (arguments : List Octets) : Scripting Nat := do
  let (options, rest) ← Arguments.options "HSatfdsmcnvpwr" arguments
  match rest with
  | [] =>
    Scripting.sayLine
      (if Arguments.given options 'n' then "1048576" else "unlimited").toList
  | limit :: _ =>
    if (← get).isExtended ∧ !(["unlimited", "hard", "soft"].contains (String.ofList limit)) ∧
        (Arguments.number? limit).isNone then
      Scripting.failAbout limit "invalid number"
  return 0

/-- Do nothing, with a given status. -/
def nothing (status : Nat) (_ : List Octets) : Scripting Nat := return status

/-- Builtin commands that print or compare. -/
def printing : List Builtin :=
  [.plain "echo" echo, .plain "printf" printf, .plain "test" test, .plain "[" bracket,
   .plain "pwd" pwd, .special "times" times, .plain "umask" umask, .plain "ulimit" ulimit,
   .plain "true" (nothing 0), .plain "false" (nothing 1), .special ":" (nothing 0)]

end PubSubTrials.Shell.Builtins
