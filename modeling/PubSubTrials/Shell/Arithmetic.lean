import PubSubTrials.Shell.Syntax

/-!
# Arithmetic of scripts

Expressions over whole numbers of 64 bits: the usual operators with their usual precedence,
comparisons that give one or zero, a choice by condition, and assignments to variables. An
operand that does not count is read but not evaluated. The extended dialect also knows powers,
steps by one and rows of expressions.
-/

namespace PubSubTrials.Shell.Arithmetic

/-! ## Numbers -/

/-- Number of values of a word. -/
def wordSize : Nat := 18446744073709551616

/-- A number as the word that it wraps around to. -/
def wrap (n : Int) : Int := Int.bmod n wordSize

/-- The largest number. -/
def largest : Int := 9223372036854775807

/-- The smallest number. -/
def smallest : Int := -9223372036854775808

/-- A number as the nearest one that a word can hold. -/
def clamp (n : Int) : Int := max smallest (min largest n)

/-- The value of a digit, of which there are up to 36. -/
def digitValue (c : Char) : Nat :=
  if c.isDigit then c.toNat - '0'.toNat
  else if c.isAlpha then c.toLower.toNat - 'a'.toNat + 10
  else 36

/-- The value of digits to a base. -/
def digitsValue (base : Nat) (digits : Octets) : Nat :=
  digits.foldl (fun n c => n * base + digitValue c) 0

/-- The number at the start of a text without a sign, to the base that its start tells, and what
comes after it. -/
def unsigned? (text : Octets) : Option (Nat × Octets) :=
  let inBase (base : Nat) (text : Octets) : Nat × Octets :=
    let digits := text.takeWhile (fun c => digitValue c < base)
    (digitsValue base digits, text.drop digits.length)
  match text with
  | '0' :: x :: c :: rest =>
    if (x = 'x' ∨ x = 'X') ∧ digitValue c < 16 then some (inBase 16 (c :: rest))
    else some (inBase 8 text)
  | '0' :: _ => some (inBase 8 text)
  | c :: _ => if c.isDigit then some (inBase 10 text) else none
  | [] => none

/-- The number at the start of a text, perhaps with a sign, and what comes after it. -/
def signed? (text : Octets) : Option (Int × Octets) :=
  match text.dropWhile Octets.isSpace with
  | '-' :: rest => (unsigned? rest).map (fun (n, rest) => (-(n : Int), rest))
  | '+' :: rest => (unsigned? rest).map (fun (n, rest) => ((n : Int), rest))
  | rest => (unsigned? rest).map (fun (n, rest) => ((n : Int), rest))

/-- The number that a text is, blanks aside; no text is zero. -/
def number? (text : Octets) : Option Int :=
  match signed? text with
  | some (n, rest) =>
    if rest.all Octets.isSpace ∧ smallest ≤ n ∧ n ≤ largest then some n else none
  | none => if text.all Octets.isSpace then some 0 else none

/-! ## Pieces of expressions -/

/-- A piece of an expression. -/
inductive Lexeme where
  | finish
  | number (n : Int)
  /-- A number with a digit that its base lacks. -/
  | badNumber (text : Octets)
  /-- The name of a variable, in the extended dialect perhaps with the index of an element. -/
  | name (text : Octets)
  | sign (text : String)
  | stray (c : Char)
  deriving DecidableEq, Repr

/-- Signs, longer ones first. -/
def signs : List String :=
  ["<<=", ">>=", "&&", "||", "==", "!=", "<=", ">=", "<<", ">>", "+=", "-=", "*=", "/=", "%=",
   "&=", "|=", "^=", "+", "-", "*", "/", "%", "<", ">", "=", "!", "~", "&", "|", "^", "(", ")",
   "?", ":"]

/-- Signs that only the extended dialect has. -/
def extendedSigns : List String := ["**", "++", "--", ","]

/-- The value of a digit to a base. Up to base 36 letters may be large or small; beyond it small
letters come first, then large ones and two signs. -/
def digitToBase (base : Nat) (c : Char) : Nat :=
  if c.isDigit then c.toNat - '0'.toNat
  else if c.isLower then c.toNat - 'a'.toNat + 10
  else if c.isUpper then
    if base ≤ 36 then c.toNat - 'A'.toNat + 10 else c.toNat - 'A'.toNat + 36
  else if c = '@' then 62
  else if c = '_' then 63
  else 64

/-- The number that digits stand for to a base, unless the base lacks one of them. -/
def inBase? (base : Nat) (digits : Octets) : Option Int :=
  if digits.all (fun c => digitToBase base c < base) then
    some (wrap (digits.foldl (fun n c => n * base + digitToBase base c) 0 : Nat))
  else none

/-- The number that a piece of the extended dialect is. -/
def extendedNumber? (text : Octets) : Option Int :=
  match Octets.cutAt (· = '#') text with
  | (base, _ :: digits) =>
    let base := digitsValue 10 base
    if 2 ≤ base ∧ base ≤ 64 ∧ !digits.isEmpty then inBase? base digits else none
  | _ =>
    match text with
    | '0' :: x :: digits =>
      if x = 'x' ∨ x = 'X' then inBase? 16 digits else inBase? 8 (x :: digits)
    | text => inBase? 10 text

/-- The length of the index in brackets at the start of a text, with the brackets. -/
def indexLength : Nat → Nat → Octets → Nat
  | _, _, [] => 0
  | depth, n, '[' :: rest => indexLength (depth + 1) (n + 1) rest
  | 1, n, ']' :: _ => n + 1
  | depth, n, ']' :: rest => indexLength (depth - 1) (n + 1) rest
  | depth, n, _ :: rest => if depth = 0 then 0 else indexLength depth (n + 1) rest

/-- The first piece of a text, and what comes after it. -/
def lexeme (dialect : Dialect) (text : Octets) : Lexeme × Octets :=
  let text := text.dropWhile Octets.isSpace
  match text with
  | [] => (.finish, [])
  | c :: rest =>
    if c.isDigit then
      if dialect = .extended then
        let digits := text.takeWhile (fun c => inName c || c = '#' || c = '@')
        match extendedNumber? digits with
        | some n => (.number n, text.drop digits.length)
        | none => (.badNumber digits, text.drop digits.length)
      else
        match unsigned? text with
        | some (n, rest) => (.number (clamp n), rest)
        | none => (.stray c, rest)
    else if startsName c then
      let name := text.takeWhile inName
      let rest := text.drop name.length
      if dialect = .extended then
        let index := rest.take (indexLength 0 0 rest)
        (.name (name ++ index), rest.drop index.length)
      else (.name name, rest)
    else
      let known := if dialect = .extended then extendedSigns ++ signs else signs
      match known.find? (fun sign => sign.toList.isPrefixOf text) with
      | some sign => (.sign sign, text.drop sign.length)
      | none => (.stray c, rest)

/-! ## Calculations -/

/-- What has to stand where something else does. -/
inductive Wanted where
  | operand
  /-- The end of the expression. -/
  | finish
  | closing
  | colon
  deriving DecidableEq, Repr

/-- Why an expression has no value. Most faults are about a place, from which on the text is
given. -/
inductive Fault where
  | divisionByZero (rest : Octets)
  | expected (what : Wanted) (rest : Octets)
  | illegalNumber (text : Octets)
  /-- Something that is no operator follows an operand. -/
  | badOperator (rest : Octets)
  /-- Something that is no variable is assigned to. -/
  | badAssignment (rest : Octets)
  | negativeExponent (rest : Octets)
  /-- A variable without a value, if there must be none. -/
  | unbound (name : Octets)
  /-- A fault of another expression, which is the value of a variable. -/
  | inside (expression : Octets) (fault : Fault)
  deriving DecidableEq, Repr

namespace Fault

/-- How a fault of an expression reads in the plain dialect. -/
def message (expression : Octets) (fault : Fault) : Octets :=
  let about (text : String) : Octets :=
    "arithmetic expression: ".toList ++ text.toList ++ ": \"".toList ++ expression ++ ['"']
  match fault with
  | divisionByZero _ => about "division by zero"
  | expected .operand _ => about "expecting primary"
  | expected .closing _ => about "expecting ')'"
  | expected .colon _ => about "expecting ':'"
  | illegalNumber text => "Illegal number: ".toList ++ text
  | _ => about "expecting EOF"

/-- How a fault of an expression reads in the extended dialect. -/
def extendedMessage (expression : Octets) : Fault → Octets
  | inside expression fault => extendedMessage expression fault
  | unbound name => name ++ ": unbound variable".toList
  | fault =>
    let (text, rest) : String × Octets := match fault with
      | divisionByZero rest => ("division by 0", rest)
      | expected .operand rest => ("syntax error: operand expected", rest)
      | expected .finish rest => ("syntax error in expression", rest)
      | expected .closing rest => ("missing \x60)'", rest)
      | expected .colon rest => ("\x60:' expected for conditional expression", rest)
      | illegalNumber text => ("value too great for base", text)
      | badOperator rest => ("syntax error: invalid arithmetic operator", rest)
      | badAssignment rest => ("attempted assignment to non-variable", rest)
      | negativeExponent rest => ("exponent less than 0", rest)
      | inside _ _ | unbound _ => ("", [])
    expression.dropWhile Octets.isSpace ++ ": ".toList ++ text.toList ++ " (error token is \"".toList ++
      rest ++ "\")".toList

end Fault

/-- How far an expression was calculated. -/
structure Progress where
  dialect : Dialect
  /-- The value of a variable that was not assigned in the expression. -/
  lookup : Octets → Except Fault Int
  /-- Values assigned in the expression, the last one first. -/
  assigned : List (Octets × Int)
  /-- The next piece. -/
  last : Lexeme
  /-- What comes from the next piece on. -/
  here : Octets
  /-- What comes after the next piece. -/
  rest : Octets

/-- Calculations of expressions. -/
abbrev Calculation := StateT Progress (Except Fault)

/-- Whether a piece is an operand. -/
def Lexeme.isOperand : Lexeme → Bool
  | .number _ | .name _ | .sign ")" | .sign "++" | .sign "--" => true
  | _ => false

/-- Go on to the next piece. -/
def advance : Calculation Unit := do
  let progress ← get
  let (last, rest) := lexeme progress.dialect progress.rest
  let here :=
    if last = .finish then progress.here else progress.rest.dropWhile Octets.isSpace
  if progress.dialect = .extended then
    match last with
    | .badNumber text => throw (.illegalNumber text)
    | .stray _ =>
      if progress.last.isOperand then throw (.badOperator here)
      else throw (.expected .operand here)
    | _ => pure ()
  set { progress with last, here, rest }

/-- Complain about the next piece. -/
def complain {α : Type} (what : Wanted) : Calculation α := do
  throw (.expected what (← get).here)

/-- The value of a variable. -/
def value (name : Octets) : Calculation Int := do
  let progress ← get
  match progress.assigned.lookup name with
  | some n => return n
  | none => (progress.lookup name : Except Fault Int)

/-- Give a variable a value. -/
def give (name : Octets) (n : Int) : Calculation Int := do
  modify (fun progress => { progress with assigned := (name, n) :: progress.assigned })
  return n

/-- One for what is true and zero for what is not. -/
def truth (b : Bool) : Int := if b then 1 else 0

/-- How many places a number is shifted by. -/
def places (n : Int) : Nat := (n % 64).toNat

/-- Bits of a number, as a number without a sign. -/
def bits (n : Int) : Nat := (n % wordSize).toNat

/-- A power of a number. -/
def powered (a : Int) : Nat → Int
  | 0 => 1
  | n + 1 =>
    let half := powered a ((n + 1) / 2)
    let square := wrap (half * half)
    if n % 2 = 0 then wrap (square * a) else square
termination_by n => n

/-- What an operator makes of two operands; `rest` is the text from the second one on. -/
def operate (rest : Octets) (sign : String) (a b : Int) : Calculation Int :=
  match sign with
  | "*" => return wrap (a * b)
  | "/" => if b = 0 then throw (.divisionByZero rest) else return wrap (a.tdiv b)
  | "%" => if b = 0 then throw (.divisionByZero rest) else return wrap (a.tmod b)
  | "+" => return wrap (a + b)
  | "-" => return wrap (a - b)
  | "<<" => return wrap (bits a <<< places b : Nat)
  | ">>" => return a >>> places b
  | "<" => return truth (a < b)
  | "<=" => return truth (a ≤ b)
  | ">" => return truth (a > b)
  | ">=" => return truth (a ≥ b)
  | "==" => return truth (a = b)
  | "!=" => return truth (a ≠ b)
  | "&" => return wrap (bits a &&& bits b : Nat)
  | "^" => return wrap (Nat.xor (bits a) (bits b) : Nat)
  | "|" => return wrap (bits a ||| bits b : Nat)
  | "**" => if b < 0 then throw (.negativeExponent rest) else return powered a b.toNat
  | _ => return b

/-- How strongly an operator binds, weaker for larger numbers. -/
def precedence? (sign : String) : Option Nat :=
  match sign with
  | "**" => some 0
  | "*" | "/" | "%" => some 1
  | "+" | "-" => some 2
  | "<<" | ">>" => some 3
  | "<" | "<=" | ">" | ">=" => some 4
  | "==" | "!=" => some 5
  | "&" => some 6
  | "^" => some 7
  | "|" => some 8
  | _ => none

/-- The weakest precedence of an operator with two operands. -/
def weakest : Nat := 8

/-- The operator that an assignment joins with, nothing for a plain one. -/
def assigning? (sign : String) : Option String :=
  match sign with
  | "=" => some ""
  | "+=" | "-=" | "*=" | "/=" | "%=" | "<<=" | ">>=" | "&=" | "^=" | "|=" =>
    some (String.ofList sign.toList.dropLast)
  | _ => none

/-- What is calculated. -/
inductive Part where
  | row
  | assignment
  | choice
  | either
  | both
  /-- Operands joined by operators that bind at least so strongly. -/
  | joined (most : Nat)
  | operand
  deriving DecidableEq, Repr

/-- Calculations of parts; the flag tells that their values do not count. -/
abbrev Calculator := Part → Bool → Calculation Int

/-- A variable that is one larger or smaller from then on. -/
def stepped (name : Octets) (by' : Int) (idle : Bool) : Calculation Int := do
  if idle then return 0 else give name (wrap ((← value name) + by'))

/-- An operand. -/
def operand (calculate : Calculator) (idle : Bool) : Calculation Int := do
  let first := (← get).last
  advance
  match first with
  | .sign "(" =>
    let n ← calculate .row idle
    if (← get).last = .sign ")" then
      advance
      return n
    else complain .closing
  | .number n => return n
  | .name name =>
    match (← get).last with
    | .sign "++" =>
      advance
      return (← stepped name 1 idle) - truth (!idle)
    | .sign "--" =>
      advance
      return (← stepped name (-1) idle) + truth (!idle)
    | _ => if idle then return 0 else value name
  | .sign "+" => calculate .operand idle
  | .sign "-" => return wrap (-(← calculate .operand idle))
  | .sign "!" => return truth ((← calculate .operand idle) = 0)
  | .sign "~" => return wrap (-1 - (← calculate .operand idle))
  | .sign sign =>
    if sign = "++" ∨ sign = "--" then
      match (← get).last with
      | .name name =>
        advance
        stepped name (if sign = "++" then 1 else -1) idle
      | _ => complain .operand
    else complain .operand
  | _ => complain .operand

/-- Go on joining while operators bind strongly enough. -/
def joinedFrom (calculate : Calculator) (most : Nat) (idle : Bool) : Nat → Int → Calculation Int
  | 0, a => return a
  | fuel + 1, a => do
    match (← get).last with
    | .sign sign =>
      match precedence? sign with
      | some level =>
        if level ≤ most then
          advance
          let place := (← get).here
          let b ← if level = 0 then calculate (.joined 0) idle
            else calculate (.joined (level - 1)) idle
          let n ← if idle then pure b else operate place sign a b
          joinedFrom calculate most idle fuel n
        else return a
      | none => return a
    | _ => return a

/-- Bound on the number of operators in a row. -/
def manyOperators : Nat := 1000000

/-- A part, given calculations of the parts within it. -/
def part (calculate : Calculator) : Calculator := fun which idle => do
  match which with
  | .row =>
    let n ← calculate .assignment idle
    if (← get).last = .sign "," then
      advance
      calculate .row idle
    else return n
  | .assignment =>
    let progress ← get
    match progress.last, (lexeme progress.dialect progress.rest).1 with
    | .name name, .sign sign =>
      match assigning? sign with
      | some operator =>
        advance
        advance
        let place := (← get).here
        let n ← calculate .assignment idle
        if idle then return n
        else if operator = "" then give name n
        else give name (← operate place operator (← value name) n)
      | none => calculate .choice idle
    | _, _ => calculate .choice idle
  | .choice =>
    let a ← calculate .either idle
    if (← get).last = .sign "?" then
      advance
      let b ← calculate .assignment (idle || a = 0)
      if (← get).last = .sign ":" then
        advance
        let c ← calculate .choice (idle || a ≠ 0)
        return if a = 0 then c else b
      else complain .colon
    else return a
  | .either =>
    let a ← calculate .both idle
    if (← get).last = .sign "||" then
      advance
      let b ← calculate .either (idle || a ≠ 0)
      return truth (a ≠ 0 || b ≠ 0)
    else return a
  | .both =>
    let a ← calculate (.joined weakest) idle
    if (← get).last = .sign "&&" then
      advance
      let b ← calculate .both (idle || a = 0)
      return truth (a ≠ 0 && b ≠ 0)
    else return a
  | .joined most => joinedFrom calculate most idle manyOperators (← calculate .operand idle)
  | .operand => operand calculate idle

/-- Calculate a part; `fuel` bounds the depth of parts within parts. -/
def calculate : Nat → Calculator
  | 0 => fun _ _ => complain .operand
  | fuel + 1 => part (fun which idle => calculate fuel which idle)

/-- The value of a whole expression. -/
def whole (fuel : Nat) : Calculation Int := do
  advance
  let n ← calculate fuel .row false
  match (← get).last with
  | .finish => return n
  | .sign sign =>
    if (assigning? sign).isSome then throw (.badAssignment (← get).here) else complain .finish
  | _ => complain .finish

/-- The value of an expression and the values that it gives to variables, the first one first. -/
def evaluateWith (dialect : Dialect) (lookup : Octets → Except Fault Int)
    (expression : Octets) : Except Fault (Int × List (Octets × Int)) := do
  if dialect = .extended ∧ expression.all Octets.isSpace then return (0, [])
  else
    let start : Progress := ⟨dialect, lookup, [], .finish, expression, expression⟩
    let (n, progress) ← (whole (10 * expression.length + 20)).run start
    return (n, progress.assigned.reverse)

/-- The value of a variable, whose text may be an expression in the extended dialect. One without
a value is zero unless `demands` says that there must be none; `fuel` bounds how many variables
stand for each other. -/
def valueWithin (dialect : Dialect) (demands : Bool) (lookup : Octets → Option Octets) :
    Nat → Octets → Except Fault Int
  | 0, _ => .ok 0
  | fuel + 1, name =>
    match lookup name with
    | none => if demands then .error (.unbound name) else .ok 0
    | some text =>
      match number? text with
      | some n => .ok n
      | none =>
        if dialect = .extended then
          match evaluateWith dialect (fun name => valueWithin dialect demands lookup fuel name)
            text with
          | .ok (n, _) => .ok n
          | .error (.unbound name) => .error (.unbound name)
          | .error (.inside expression fault) => .error (.inside expression fault)
          | .error fault => .error (.inside text fault)
        else .error (.illegalNumber text)

/-- Bound on how many variables stand for each other. -/
def maxDepth : Nat := 1024

/-- The value of an expression and the values that it gives to variables, the first one first. All
its variables must have values if `demands` says so. -/
def evaluate (dialect : Dialect) (demands : Bool) (lookup : Octets → Option Octets)
    (expression : Octets) : Except Fault (Int × List (Octets × Int)) :=
  evaluateWith dialect (valueWithin dialect demands lookup maxDepth) expression

end PubSubTrials.Shell.Arithmetic
