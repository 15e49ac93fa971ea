import PubSubTrials.Programs.Options
import PubSubTrials.Text.Regex

/-!
# The program that calculates with its operands

Every operand is a sign, a number or a text of an expression. Numbers are whole and of any size.
The status tells whether the value is null, that is, empty or zero.
-/

namespace PubSubTrials.Programs

namespace Calculation

/-- A value of an expression. -/
inductive Value where
  | number (n : Int)
  | text (text : Octets)
  deriving Repr

namespace Value

/-- The number that a text stands for. -/
def integer? (text : Octets) : Option Int :=
  let (negative, digits) := match text with
    | '-' :: digits => (true, digits)
    | digits => (false, digits)
  if digits.isEmpty ∨ !digits.all Char.isDigit then none
  else
    let n : Int := (String.ofList digits).toNat?.getD 0
    some (if negative then -n else n)

/-- A value as a number. -/
def number? : Value → Option Int
  | number n => some n
  | text word => integer? word

/-- A value as a text. -/
def shown : Value → Octets
  | number n => Octets.ofInt n
  | text word => word

/-- Whether a value is empty or zero. -/
def isNull : Value → Bool
  | number n => n = 0
  | text word =>
    let digits := if word.head? = some '-' then word.drop 1 else word
    word.isEmpty || (!digits.isEmpty && digits.all (· = '0'))

end Value

/-- What is known while an expression is read. -/
structure Progress where
  rest : List Octets
  /-- The operand before. -/
  before : Octets

/-- Readers of expressions. -/
abbrev Reader := StateT Progress Running

/-- Complain about an expression. -/
def complain {α : Type} (message : Octets) : Reader α :=
  StateT.lift (Running.fail message 2)

/-- Take the next operand if it is one of some signs. -/
def sign? (signs : List String) : Reader (Option String) := do
  let progress ← get
  match progress.rest with
  | word :: rest =>
    match signs.find? (fun sign => sign.toList = word) with
    | some sign =>
      set (⟨rest, word⟩ : Progress)
      return some sign
    | none => return none
  | [] => return none

/-- Take the next operand. -/
def operand : Reader Octets := do
  let progress ← get
  match progress.rest with
  | word :: rest =>
    set (⟨rest, word⟩ : Progress)
    return word
  | [] =>
    complain ("syntax error: missing argument after ".toList ++ Running.quoted progress.before)

/-- A value as a number; texts that are none end the program. -/
def numberOf (value : Value) : Reader Int := do
  match value.number? with
  | some n => return n
  | none => complain "non-integer argument".toList

/-- What a pattern matches from the start of a text: its first group, or its length. -/
def matched (text pattern : Octets) : Reader Value := do
  match Regex.parse .basic false pattern with
  | .error fault => complain fault.message.toList
  | .ok pattern =>
    let chars := text.toArray
    match pattern.matchAt? chars true 0 with
    | some found =>
      return if 0 < pattern.groups then .text (found.text chars 1) else .number found.stop
    | none => return if 0 < pattern.groups then .text [] else .number 0

/-- A part of a text by the place of its first character and its length. -/
def part (text : Octets) (place length : Option Int) : Octets :=
  match place, length with
  | some place, some length =>
    if place < 1 ∨ length < 1 then [] else (text.drop (place.toNat - 1)).take length.toNat
  | _, _ => []

/-- The place of the first character of a text that is among others. -/
def placeOf (text others : Octets) : Nat :=
  match text.findIdx? others.contains with
  | some place => place + 1
  | none => 0

/-- A value compared with another one. -/
def compared (sign : String) (a b : Value) : Bool :=
  let order : Ordering := match a.number?, b.number? with
    | some a, some b => compare a b
    | _, _ => compare (String.ofList a.shown) (String.ofList b.shown)
  match sign with
  | "<" => order = .lt
  | "<=" => order ≠ .gt
  | ">" => order = .gt
  | ">=" => order ≠ .lt
  | "!=" => order ≠ .eq
  | _ => order = .eq

/-- The value of an operand or of an expression in parentheses. -/
def primary (all : Bool → Reader Value) (counts : Bool) : Reader Value := do
  match ← sign? ["(", ")"] with
  | some "(" =>
    let value ← all counts
    match ← sign? [")"] with
    | some _ => return value
    | none =>
      let progress ← get
      match progress.rest with
      | [] =>
        complain ("syntax error: expecting ')' after ".toList ++ Running.quoted progress.before)
      | word :: _ =>
        complain ("syntax error: expecting ')' instead of ".toList ++ Running.quoted word)
  | some _ => complain "syntax error: unexpected ')'".toList
  | none => return .text (← operand)

/-- The value of a function or an operand. -/
def applied (all : Bool → Reader Value) (counts : Bool) : Nat → Reader Value
  | 0 => primary all counts
  | fuel + 1 => do
    let next : Reader Value := applied all counts fuel
    match ← sign? ["+", "length", "match", "index", "substr"] with
    | none => primary all counts
    | some "+" => return .text (← operand)
    | some "length" => return .number (← next).shown.length
    | some "match" =>
      let text ← next
      let pattern ← next
      if counts then matched text.shown pattern.shown else return text
    | some "index" =>
      let text ← next
      let others ← next
      return .number (placeOf text.shown others.shown)
    | some _ =>
      let text ← next
      let place ← next
      let length ← next
      return .text (part text.shown place.number? length.number?)

/-- Values joined from left to right by signs of one rank. -/
def joined (signs : List String) (inner : Reader Value)
    (join : String → Value → Value → Reader Value) : Nat → Value → Reader Value
  | 0, value => return value
  | fuel + 1, value => do
    match ← sign? signs with
    | none => return value
    | some sign => joined signs inner join fuel (← join sign value (← inner))

/-- An expression; `counts` tells whether its value matters, and `fuel` bounds its depth. -/
def expression : Nat → Bool → Reader Value
  | 0, _ => complain "syntax error: missing argument after '('".toList
  | fuel + 1, counts => do
    let row (signs : List String) (inner : Bool → Reader Value)
        (join : String → Value → Value → Reader Value) (counts : Bool) : Reader Value := do
      joined signs (inner counts) (fun sign a b => if counts then join sign a b else pure a)
        ((← get).rest.length) (← inner counts)
    let matching := row [":"] (fun counts => do
        applied (expression fuel) counts (← get).rest.length)
      (fun _ a b => matched a.shown b.shown)
    let product := row ["*", "/", "%"] matching (fun sign a b => do
      let a ← numberOf a
      let b ← numberOf b
      if sign = "*" then return .number (a * b)
      else if b = 0 then complain "division by zero".toList
      else return .number (if sign = "/" then a.tdiv b else a.tmod b))
    let sum := row ["+", "-"] product (fun sign a b => do
      let a ← numberOf a
      let b ← numberOf b
      return .number (if sign = "+" then a + b else a - b))
    let comparison := row ["<", "<=", "=", "==", "!=", ">=", ">"] sum (fun sign a b =>
      return .number (if compared sign a b then 1 else 0))
    let rec both (inner : Bool → Reader Value) (counts : Bool) : Nat → Value → Reader Value
      | 0, value => return value
      | more + 1, value => do
        match ← sign? ["&"] with
        | none => return value
        | some _ =>
          let other ← inner (counts && !value.isNull)
          both inner counts more (if value.isNull || other.isNull then .number 0 else value)
    let conjunction (counts : Bool) : Reader Value := do
      both comparison counts (← get).rest.length (← comparison counts)
    let rec either (inner : Bool → Reader Value) (counts : Bool) : Nat → Value → Reader Value
      | 0, value => return value
      | more + 1, value => do
        match ← sign? ["|"] with
        | none => return value
        | some _ =>
          let other ← inner (counts && value.isNull)
          let value := if value.isNull then other else value
          either inner counts more (if value.isNull then .number 0 else value)
    either conjunction counts (← get).rest.length (← conjunction counts)

end Calculation

open Calculation in
/-- Calculate the value of an expression. -/
def expr (arguments : List Octets) : Running Unit := do
  let arguments := if arguments.head? = some ['-', '-'] then arguments.tail else arguments
  if arguments.isEmpty then Running.failUsage "missing operand".toList 2
  let (value, progress) ← (expression (arguments.length + 1) true).run ⟨arguments, []⟩
  match progress.rest with
  | word :: _ =>
    Running.fail ("syntax error: unexpected argument ".toList ++ Running.quoted word) 2
  | [] =>
    Running.putLine value.shown
    Running.setStatus (if value.isNull then 1 else 0)

/-- Programs that calculate. -/
def calculating : List Program := [.plain "expr" expr]

end PubSubTrials.Programs
