import PubSubTrials.Host.Executable
import PubSubTrials.Shell.Arithmetic
import PubSubTrials.Shell.Session
import PubSubTrials.Shell.Usage

/-!
# Arguments of builtin commands

How builtin commands read their arguments: options first, each a letter that may have a value,
and numbers that must not be negative.
-/

namespace PubSubTrials.Shell.Arguments

/-- Whether an option is known, and whether it has a value: `known` lists the letters, a colon
after those with a value. -/
def option? (known : Octets) (letter : Char) : Option Bool :=
  match known with
  | [] => none
  | c :: ':' :: rest => if c = letter then some true else option? rest letter
  | c :: rest => if c = letter then some false else option? rest letter

/-- Tell how the builtin command that is run is used. -/
def tellUsage : Scripting Unit := do
  match (← get).commandName with
  | some name =>
    match usage? (String.ofList name) with
    | some line => Scripting.emit 2 line.toList
    | none => return ()
  | none => return ()

/-- Complain about the use of a builtin command of the extended dialect and give up. -/
def refuse {α : Type} (message : Octets) : Scripting α := do
  Scripting.warn message
  tellUsage
  Scripting.setStatus 2
  throw .failure

/-- Options at the start of arguments with their values, and the other arguments. -/
def optionsFrom (known : Octets) : Nat → List Octets → List (Char × Octets) →
    Scripting (List (Char × Octets) × List Octets)
  | 0, arguments, taken => return (taken.reverse, arguments)
  | fuel + 1, arguments, taken => do
    match arguments with
    | ['-', '-'] :: rest => return (taken.reverse, rest)
    | ('-' :: letter :: more) :: rest =>
      match option? known letter with
      | none =>
        if (← get).isExtended then refuse (['-', letter] ++ ": invalid option".toList)
        else Scripting.fail ("Illegal option -".toList ++ [letter])
      | some false =>
        let rest := if more.isEmpty then rest else ('-' :: more) :: rest
        optionsFrom known fuel rest ((letter, []) :: taken)
      | some true =>
        match more, rest with
        | [], value :: rest => optionsFrom known fuel rest ((letter, value) :: taken)
        | [], [] =>
          if (← get).isExtended then
            refuse (['-', letter] ++ ": option requires an argument".toList)
          else Scripting.fail ("No arg for -".toList ++ [letter] ++ " option".toList)
        | value, rest => optionsFrom known fuel rest ((letter, value) :: taken)
    | arguments => return (taken.reverse, arguments)

/-- Options at the start of arguments with their values, and the other arguments. -/
def options (known : String) (arguments : List Octets) :
    Scripting (List (Char × Octets) × List Octets) :=
  optionsFrom known.toList Reading.manyTimes arguments []

/-- Whether an option was given. -/
def given (options : List (Char × Octets)) (letter : Char) : Bool :=
  options.any (fun entry => entry.1 = letter)

/-- The largest number that commands take. -/
def largest : Nat := 2147483647

/-- The number that a text is, if it is one that commands take. -/
def number? (text : Octets) : Option Nat :=
  let bare := text.dropWhile Octets.isSpace
  let digits := if bare.head? = some '+' then bare.tail else bare
  let taken := digits.takeWhile Char.isDigit
  if taken.isEmpty ∨ !((digits.drop taken.length).all Octets.isSpace) then none
  else
    let n := Arithmetic.digitsValue 10 taken
    if n ≤ largest then some n else none

/-- The number that an argument is. -/
def number (text : Octets) : Scripting Nat := do
  match number? text with
  | some n => return n
  | none =>
    if (← get).isExtended then
      Scripting.failAbout text "numeric argument required"
    else Scripting.fail ("Illegal number: ".toList ++ text)

end PubSubTrials.Shell.Arguments
