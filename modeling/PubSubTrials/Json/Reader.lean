import PubSubTrials.Json.Fault
import PubSubTrials.Sample
import PubSubTrials.Text.Utf8

/-!
# Reading JSON

Steps of a reader that goes through a text once, from left to right. A step takes what it needs
from the front of the rest of the text, or names the first fault. Strings are decoded with all
their escapes; a number is a whole number below `2 ^ 64`, a negative one down to `-2 ^ 63`, or a
double.
-/

namespace PubSubTrials.Json

open Decimal (Binary64)

/-- A step of a reader, which knows how long the whole text is and whose state is the rest of the
text. -/
abbrev Reader (α : Type) := ReaderT Nat (StateT (List Char) (Except Fault)) α

namespace Reader

/-- A bound on the number of parts of a value, each of which takes at least one character. -/
def partsBound : Reader Nat := return (← read) + 1

/-- Refuse the text because it ends. -/
def failEnd {α : Type} (place : Place) : Reader α := throw (.ended place)

/-- Refuse the text because of its grammar. -/
def failSlip {α : Type} (slip : Slip) : Reader α := throw (.slip slip)

/-- Refuse the text because of its shape. -/
def failMisfit {α : Type} (misfit : Misfit) : Reader α := throw (.misfit misfit)

/-- Whitespace between the parts of a text. -/
def isBlank (c : Char) : Bool :=
  c = ' ' || c = '\n' || c = '\t' || c = '\r'

/-- The next character that is not blank, if there is one; it stays in the text. -/
def peek : Reader (Option Char) := do
  modify (List.dropWhile isBlank)
  return (← get).head?

/-- Drop the next character. -/
def skip : Reader Unit := modify List.tail

/-- Read the letters of a word. -/
def letters : List Char → Reader Unit
  | [] => return ()
  | c :: rest => do
    match ← get with
    | [] => failEnd .value
    | d :: text =>
      if c = d then do
        set text
        letters rest
      else failSlip .expectedWord

/-! ## Strings -/

/-- The value of a hexadecimal digit. -/
def hexDigit? (c : Char) : Option Nat :=
  if '0' ≤ c ∧ c ≤ '9' then some (c.toNat - 48)
  else if 'a' ≤ c ∧ c ≤ 'f' then some (c.toNat - 87)
  else if 'A' ≤ c ∧ c ≤ 'F' then some (c.toNat - 55)
  else none

/-- The value of four hexadecimal digits at the head of a text. -/
def hex4 (text : List Char) : Except Fault Nat :=
  if Text.byteLength (text.take 4) < 4 then .error (.ended .string)
  else
    match (text.take 4).mapM hexDigit? with
    | some [a, b, c, d] => .ok (((a * 16 + b) * 16 + c) * 16 + d)
    | _ => .error (.slip .invalidEscape)

/-- The second half of a pair of escapes, given the value of the first one, and how many
characters both take after the letter `u` of the first. -/
def surrogatePair (high : Nat) : List Char → Except Fault (Char × Nat)
  | [] => .error (.ended .string)
  | '\\' :: [] => .error (.ended .string)
  | '\\' :: 'u' :: rest => do
    let low ← hex4 rest
    if low < 0xDC00 ∨ 0xDFFF < low then .error (.slip .loneSurrogate)
    else .ok (Char.ofNat ((high - 0xD800) * 0x400 + (low - 0xDC00) + 0x10000), 10)
  | _ => .error (.slip .unfinishedSurrogate)

/-- The character of an escape in hexadecimal, and how many characters it takes after the
letter `u`. -/
def hexEscape (text : List Char) : Except Fault (Char × Nat) := do
  let n ← hex4 text
  if 0xDC00 ≤ n ∧ n ≤ 0xDFFF then .error (.slip .loneSurrogate)
  else if n < 0xD800 ∨ 0xDBFF < n then .ok (Char.ofNat n, 4)
  else surrogatePair n (text.drop 4)

/-- The character of a short escape. -/
def shortEscape? (c : Char) : Option Char :=
  if c = '"' then some '"'
  else if c = '\\' then some '\\'
  else if c = '/' then some '/'
  else if c = 'b' then some '\x08'
  else if c = 'f' then some '\x0c'
  else if c = 'n' then some '\n'
  else if c = 'r' then some '\r'
  else if c = 't' then some '\t'
  else none

/-- The character of an escape, and how many characters it takes after the backslash. -/
def escape : List Char → Except Fault (Char × Nat)
  | [] => .error (.ended .string)
  | c :: rest =>
    match shortEscape? c with
    | some d => .ok (d, 1)
    | none =>
      if c = 'u' then (hexEscape rest).map (fun (d, n) => (d, n + 1))
      else .error (.slip .invalidEscape)

/-- Read the characters of a string up to its closing quote; the next `skipped` characters of
the text belong to an escape dealt with. -/
def stringFrom (skipped : Nat) (decoded : List Char) :
    List Char → Except Fault (List Char × List Char)
  | [] => .error (.ended .string)
  | c :: rest =>
    match skipped with
    | n + 1 => stringFrom n decoded rest
    | 0 =>
      if c = '"' then .ok (decoded.reverse, rest)
      else if c = '\\' then
        match escape rest with
        | .ok (d, n) => stringFrom n (d :: decoded) rest
        | .error fault => .error fault
      else if c.toNat < 0x20 then .error (.slip .controlCharacter)
      else stringFrom 0 (c :: decoded) rest

/-- Read a string after its opening quote. -/
def stringBody : Reader String := do
  let (decoded, rest) ← stringFrom 0 [] (← get)
  set rest
  return String.ofList decoded

/-- How many characters an escape takes after the backslash, whatever its value. -/
def escapeLength : List Char → Except Fault Nat
  | [] => .error (.ended .string)
  | c :: rest =>
    match shortEscape? c with
    | some _ => .ok 1
    | none =>
      if c = 'u' then (hex4 rest).map (fun _ => 5) else .error (.slip .invalidEscape)

/-- The rest of a text after a string whose characters are of no interest. -/
def afterString (skipped : Nat) : List Char → Except Fault (List Char)
  | [] => .error (.ended .string)
  | c :: rest =>
    match skipped with
    | n + 1 => afterString n rest
    | 0 =>
      if c = '"' then .ok rest
      else if c = '\\' then
        match escapeLength rest with
        | .ok n => afterString n rest
        | .error fault => .error fault
      else if c.toNat < 0x20 then .error (.slip .controlCharacter)
      else afterString 0 rest

/-- Pass over a string after its opening quote. -/
def ignoreString : Reader Unit := do
  set (← afterString 0 (← get))

/-! ## Numbers -/

/-- A number as it is read. -/
inductive Number where
  | natural (n : Nat)
  | negative (n : Nat)
  | floating (x : Binary64)
  deriving DecidableEq, Repr

/-- A number as something found in the place of something else. -/
def Number.found : Number → Found
  | natural n => .natural n
  | negative n => .negative n
  | floating x => .floating x

open Sample (isDigit)

/-- The digits at the front of the text. -/
def digits : Reader (List Nat) := do
  let text ← get
  set (text.dropWhile isDigit)
  return (text.takeWhile isDigit).map (fun c => c.toNat - 48)

/-- Append digits to a significand as long as it stays below `bound`, and count the digits that
are left. -/
def absorb (bound significand : Nat) : List Nat → Nat × Nat
  | [] => (significand, 0)
  | d :: rest =>
    if bound ≤ significand * 10 + d then (significand, rest.length + 1)
    else absorb bound (significand * 10 + d) rest

/-- Whole numbers are below this bound. -/
def wholeBound : Nat := 0x10000000000000000

/-- Exponents are below this bound. -/
def exponentBound : Nat := 0x80000000

/-- A sign put in front of a magnitude. -/
def signed (positive : Bool) (x : Binary64) : Binary64 :=
  if positive then x else x.neg

/-- A double divided by powers of ten of at most 308 at a time, `steps` of them at most. -/
def scaleDown (x : Binary64) (power : Nat) : Nat → Option Binary64
  | 0 => some x
  | steps + 1 =>
    if x.mantissa = 0 then some x
    else
      let part := min power 308
      match (Binary64.ofNat? (Nat.pow 10 part)).bind (fun y => x.div y) with
      | none => none
      | some y => if power ≤ 308 then some y else scaleDown y (power - 308) steps

/-- The double read for `significand * 10 ^ exponent`: significand and power of ten are rounded
before they are multiplied. -/
def scaled (significand : Nat) (exponent : Int) : Option Binary64 :=
  match Binary64.ofNat? significand with
  | none => none
  | some x =>
    if exponent < 0 then scaleDown x exponent.natAbs (exponent.natAbs / 308 + 1)
    else if x.mantissa = 0 then some x
    else if 308 < exponent then none
    else (Binary64.ofNat? (Nat.pow 10 exponent.natAbs)).bind (fun y => x.mul y)

/-- The number `± significand * 10 ^ exponent` as a double. -/
def floating (positive : Bool) (significand : Nat) (exponent : Int) : Reader Number :=
  match scaled significand exponent with
  | some x => return .floating (signed positive x)
  | none => failSlip .numberOutOfRange

/-- Read an exponent after its letter. -/
def exponentPart (positive : Bool) (significand : Nat) (exponent : Int) : Reader Number := do
  let up ← match ← get with
    | '+' :: rest => do set rest; pure true
    | '-' :: rest => do set rest; pure false
    | _ => pure true
  match ← digits with
  | [] => if (← get).isEmpty then failEnd .value else failSlip .invalidNumber
  | ds =>
    match absorb exponentBound 0 ds with
    | (n, 0) => floating positive significand (if up then exponent + n else exponent - n)
    | _ =>
      if significand ≠ 0 ∧ up then failSlip .numberOutOfRange
      else return .floating (signed positive .zero)

/-- Read decimal places after the point. -/
def decimalPart (positive : Bool) (significand : Nat) (exponent : Int) : Reader Number := do
  match ← digits with
  | [] => if (← get).isEmpty then failEnd .value else failSlip .invalidNumber
  | ds =>
    let (significand, left) := absorb wholeBound significand ds
    let exponent := exponent - ((ds.length - left : Nat) : Int)
    match ← get with
    | 'e' :: rest => do set rest; exponentPart positive significand exponent
    | 'E' :: rest => do set rest; exponentPart positive significand exponent
    | _ => floating positive significand exponent

/-- A whole number that is not too long. -/
def whole (positive : Bool) (n : Nat) : Number :=
  if positive then .natural n
  else if 0 < n ∧ n ≤ 0x8000000000000000 then .negative n
  else .floating ((Binary64.ofNat? n).getD .zero).neg

/-- Read what follows the digits of a whole number, of which `left` did not fit. -/
def afterWhole (positive : Bool) (significand left : Nat) : Reader Number := do
  match ← get with
  | '.' :: rest => do set rest; decimalPart positive significand left
  | 'e' :: rest => do set rest; exponentPart positive significand left
  | 'E' :: rest => do set rest; exponentPart positive significand left
  | _ =>
    if left = 0 then return whole positive significand
    else floating positive significand left

/-- Read a number after its sign. -/
def number (positive : Bool) : Reader Number := do
  match ← digits with
  | [] => if (← get).isEmpty then failEnd .value else failSlip .invalidNumber
  | [0] => afterWhole positive 0 0
  | 0 :: _ => failSlip .invalidNumber
  | ds =>
    let (significand, left) := absorb wholeBound 0 ds
    afterWhole positive significand left

/-- Pass over an exponent after its letter. -/
def ignoreExponent : Reader Unit := do
  match ← get with
  | '+' :: rest => set rest
  | '-' :: rest => set rest
  | _ => pure ()
  if (← digits).isEmpty then failSlip .invalidNumber

/-- Pass over an exponent, if there is one. -/
def ignoreOptionalExponent : Reader Unit := do
  match ← get with
  | 'e' :: rest => do set rest; ignoreExponent
  | 'E' :: rest => do set rest; ignoreExponent
  | _ => pure ()

/-- Pass over a number after its sign. -/
def ignoreNumber : Reader Unit := do
  match ← digits with
  | [] => failSlip .invalidNumber
  | 0 :: _ :: _ => failSlip .invalidNumber
  | _ =>
    match ← get with
    | '.' :: rest => do
      set rest
      if (← digits).isEmpty then failSlip .invalidNumber
      ignoreOptionalExponent
    | _ => ignoreOptionalExponent

/-! ## Lists, objects, and values of no interest -/

/-- Whether a list goes on; `first` before its first item. -/
def moreItems (first : Bool) : Reader Bool := do
  match ← peek with
  | none => failEnd .list
  | some ']' => return false
  | some c =>
    if first then return true
    else if c = ',' then do
      skip
      match ← peek with
      | none => failEnd .value
      | some ']' => failSlip .trailingComma
      | some _ => return true
    else failSlip .expectedListCommaOrEnd

/-- Whether an object goes on with a key; `first` before its first field. -/
def moreFields (first : Bool) : Reader Bool := do
  match ← peek with
  | none => failEnd .object
  | some '\x7d' => return false
  | some c =>
    if first then
      if c = '"' then return true else failSlip .keyMustBeString
    else if c = ',' then do
      skip
      match ← peek with
      | none => failEnd .value
      | some '"' => return true
      | some '\x7d' => failSlip .trailingComma
      | some _ => failSlip .keyMustBeString
    else failSlip .expectedObjectCommaOrEnd

/-- Read the colon after a key. -/
def colon : Reader Unit := do
  match ← peek with
  | none => failEnd .object
  | some ':' => skip
  | some _ => failSlip .expectedColon

/-- Read the end of a list whose items are all read. -/
def endList : Reader Unit := do
  match ← peek with
  | none => failEnd .list
  | some ']' => skip
  | some ',' => do
    skip
    match ← peek with
    | some ']' => failSlip .trailingComma
    | _ => failSlip .trailingCharacters
  | some _ => failSlip .trailingCharacters

/-- Read the end of an object whose fields are all read. -/
def endObject : Reader Unit := do
  match ← peek with
  | none => failEnd .object
  | some '\x7d' => skip
  | some ',' => failSlip .trailingComma
  | some _ => failSlip .trailingCharacters

/-- What encloses a value. -/
inductive Bracket where
  | list
  | object
  deriving DecidableEq, Repr

/-- Pass over the head of a value: all of it, or the bracket that opens it. -/
def ignoreHead : Reader (Option Bracket) := do
  match ← peek with
  | none => failEnd .value
  | some 'n' => do skip; letters ['u', 'l', 'l']; return none
  | some 't' => do skip; letters ['r', 'u', 'e']; return none
  | some 'f' => do skip; letters ['a', 'l', 's', 'e']; return none
  | some '-' => do skip; ignoreNumber; return none
  | some '"' => do skip; ignoreString; return none
  | some '[' => do skip; return some .list
  | some '\x7b' => do skip; return some .object
  | some c =>
    if isDigit c then do ignoreNumber; return none
    else failSlip .expectedValue

/-- Pass over the ends of brackets, and a comma if there was a value before; the brackets that
stay open are the answer. -/
def ignoreEnds (afterValue : Bool) : List Bracket → Reader (List Bracket)
  | [] => return []
  | bracket :: outer => do
    match ← peek with
    | none => failEnd (if bracket = .list then .list else .object)
    | some c =>
      if afterValue ∧ c = ',' then do
        skip
        return bracket :: outer
      else if (bracket = .list ∧ c = ']') ∨ (bracket = .object ∧ c = '\x7d') then do
        skip
        ignoreEnds true outer
      else if afterValue then
        failSlip (if bracket = .list then .expectedListCommaOrEnd else .expectedObjectCommaOrEnd)
      else return bracket :: outer

/-- Pass over a key and its colon. -/
def ignoreKey : Reader Unit := do
  match ← peek with
  | none => failEnd .object
  | some '"' => do
    skip
    ignoreString
    colon
  | some _ => failSlip .keyMustBeString

/-- Pass over a value inside brackets, taking at most `fuel` steps. -/
def ignoreFrom (brackets : List Bracket) : Nat → Reader Unit
  | 0 => return ()
  | fuel + 1 => do
    let opened ← ignoreHead
    match ← ignoreEnds opened.isNone (opened.toList ++ brackets) with
    | [] => return ()
    | bracket :: outer => do
      if bracket = .object then ignoreKey
      ignoreFrom (bracket :: outer) fuel

/-- Pass over a value; every step takes at least one character. -/
def ignoreValue : Reader Unit := do
  ignoreFrom [] (← partsBound)

end Reader

end PubSubTrials.Json
