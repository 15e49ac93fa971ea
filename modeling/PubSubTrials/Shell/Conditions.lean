import PubSubTrials.Shell.Simple
import PubSubTrials.Text.Regex

/-!
# Conditions of the extended dialect

Conditions are evaluated from left to right, and only as far as needed. Their words are not cut
into fields. A text can be compared with a pattern or with a regular expression, whose groups are
known afterwards.
-/

namespace PubSubTrials.Shell.Conditions

/-- The statuses of a condition. -/
def statusOf (holds : Bool) : Nat := if holds then 0 else 1

/-- The value of an expression in a command that messages are about; there is none if something is
wrong with it, which is told. -/
def calculated? (command : String) (expression : Octets) : Scripting (Option Int) := do
  let steps := Scripting.naming command.toList (Scripting.calculate expression)
  match ← Scripting.attempt steps with
  | .ok n => return some n
  | .error .failure => return none
  | .error stop => throw stop

/-- Trace a condition without connectives. -/
def trace (perform : Performer) (negates : Bool) (words : List Octets) : Scripting Unit := do
  let shown := words.map (fun word => if word.isEmpty then ['\'', '\''] else word)
  let sign := if negates then ['!', ' '] else []
  Simple.trace perform ("[[ ".toList ++ sign ++ Octets.joined [' '] shown ++ " ]]".toList)

/-! ## Patterns -/

/-- Characters of a regular expression that do not stand for themselves. -/
def isSpecial (c : Char) : Bool := "\\.[]*^$+?()\x7b\x7d|".toList.contains c

/-- A pattern as a regular expression, in which quoted characters stand for themselves. -/
def expressionOf (pattern : List PatternChar) : Octets :=
  pattern.flatMap (fun c => if !c.isActive ∧ isSpecial c.char then ['\\', c.char] else [c.char])

/-- A pattern as a trace shows it. -/
def shownPattern (pattern : List PatternChar) : Octets :=
  pattern.flatMap (fun c => if c.isActive then [c.char] else ['\\', c.char])

/-- Compare a text with a regular expression, and keep what its groups match. -/
def matchGroups (text expression : Octets) : Scripting Nat := do
  let ignoresCase := (← get).hasFeature "nocasematch"
  let name := "BASH_REMATCH".toList
  match Regex.parse .extended ignoresCase expression with
  | .error _ =>
    Scripting.setContent name (.list [])
    return 2
  | .ok pattern =>
    let chars := text.toArray
    match pattern.find? chars true 0 with
    | none =>
      Scripting.setContent name (.list [])
      return 1
    | some found =>
      let groups := (List.range (pattern.groups + 1)).map (found.text chars)
      Scripting.setContent name (Session.listed groups)
      return 0

/-! ## Operators -/

/-- Operators that compare numbers. -/
def comparison? (operator : Octets) : Option (Int → Int → Bool) :=
  match String.ofList operator with
  | "-eq" => some (· = ·)
  | "-ne" => some (· ≠ ·)
  | "-lt" => some (· < ·)
  | "-le" => some (· ≤ ·)
  | "-gt" => some (· > ·)
  | "-ge" => some (· ≥ ·)
  | _ => none

/-- Evaluate an operator between two words. -/
def binary (perform : Performer) (negates : Bool) (operator : Octets) (left right : Word) :
    Scripting Nat := do
  let text ← Expansion.single perform left
  match String.ofList operator with
  | "=" | "==" | "!=" =>
    let (pattern, known) ← Expansion.pattern perform true right
    trace perform negates [text, operator, shownPattern pattern]
    return statusOf ((← Expansion.fits (pattern, known) text) = (operator ≠ ['!', '=']))
  | "=~" =>
    let (pattern, _) ← Expansion.pattern perform true right
    trace perform negates [text, operator, expressionOf pattern]
    matchGroups text (expressionOf pattern)
  | _ =>
    let other ← Expansion.single perform right
    trace perform negates [text, operator, other]
    match comparison? operator with
    | some holds =>
      match ← calculated? "[[" text with
      | none => return 1
      | some a =>
        match ← calculated? "[[" other with
        | none => return 1
        | some b => return statusOf (holds a b)
    | none =>
      return statusOf ((Test.binary (← Builtins.facts) operator text other).toOption.getD false)

/-- Evaluate a condition; `negates` tells that its status is turned around. -/
def evaluate (perform : Performer) (negates : Bool) : Condition → Scripting Nat
  | .unary operator word => do
    let text ← Expansion.single perform word
    trace perform negates [operator, text]
    return statusOf ((Test.unary (← Builtins.facts) operator text).toOption.getD false)
  | .binary operator left right => binary perform negates operator left right
  | .negation inner => do
    return statusOf ((← evaluate perform (!negates) inner) ≠ 0)
  | .both first second => do
    let status ← evaluate perform false first
    if status = 0 then evaluate perform false second else return status
  | .either first second => do
    let status ← evaluate perform false first
    if status = 0 then return status else evaluate perform false second

end PubSubTrials.Shell.Conditions
