import PubSubTrials.Decimal.Binary64
import PubSubTrials.Text.Octets

/-!
# Quantities

Numbers of 64-bit floating point with those beyond all finite ones and those that are no number:
how they are read from text, how they are calculated with, and how they read in a given number of
places. Finite results are rounded to the nearest double, and digits to the nearest decimal, in
both cases a tie going to the even neighbour.
-/

namespace PubSubTrials.Decimal

/-- A number of 64-bit floating point. -/
inductive Quantity where
  | finite (value : Binary64)
  | infinite (negative : Bool)
  | undefined (negative : Bool)
  deriving DecidableEq, Repr, Inhabited

namespace Quantity

/-- Zero. -/
def zero : Quantity := .finite .zero

/-- A magnitude with a sign; without a magnitude it is beyond all finite ones. -/
def signed (negative : Bool) : Option Binary64 → Quantity
  | some x => .finite { x with negative }
  | none => .infinite negative

/-- The quantity of a whole number. -/
def ofInt (n : Int) : Quantity := signed (n < 0) (Binary64.ofNat? n.natAbs)

/-- Whether a quantity has a minus sign. -/
def isNegative : Quantity → Bool
  | finite x => x.negative
  | infinite negative => negative
  | undefined negative => negative

/-- The quantity of the opposite sign. -/
def neg : Quantity → Quantity
  | finite x => .finite x.neg
  | infinite negative => .infinite !negative
  | undefined negative => .undefined !negative

/-- Whether a quantity is zero. -/
def isZero : Quantity → Bool
  | finite x => x.mantissa = 0
  | _ => false

/-- The number that `num / den` is near to, where `num` has a sign. -/
def ofSigned (num : Int) (den : Nat) : Quantity :=
  signed (num < 0) (Binary64.ofRatio num.natAbs den)

/-- The numerator of a finite double, with its sign. -/
def numeratorOf (x : Binary64) : Int :=
  if x.negative then -(x.numerator : Int) else x.numerator

/-- The sum of two quantities. -/
def add : Quantity → Quantity → Quantity
  | finite x, finite y =>
    ofSigned (numeratorOf x * y.denominator + numeratorOf y * x.denominator)
      (x.denominator * y.denominator)
  | infinite a, infinite b => if a = b then .infinite a else .undefined true
  | undefined a, _ => .undefined a
  | _, undefined b => .undefined b
  | infinite a, _ => .infinite a
  | _, infinite b => .infinite b

/-- The difference of two quantities. -/
def sub (a b : Quantity) : Quantity := a.add b.neg

/-- The product of two quantities. -/
def mul (a b : Quantity) : Quantity :=
  let negative := a.isNegative != b.isNegative
  match a, b with
  | finite x, finite y => signed negative (x.mul y)
  | undefined a, _ => .undefined a
  | _, undefined b => .undefined b
  | a, b => if a.isZero ∨ b.isZero then .undefined true else .infinite negative

/-- The quotient of two quantities. -/
def div (a b : Quantity) : Quantity :=
  let negative := a.isNegative != b.isNegative
  match a, b with
  | undefined a, _ => .undefined a
  | _, undefined b => .undefined b
  | infinite _, infinite _ => .undefined true
  | infinite _, finite _ => .infinite negative
  | finite _, infinite _ => signed negative (some .zero)
  | finite x, finite y =>
    if y.mantissa = 0 then if x.mantissa = 0 then .undefined true else .infinite negative
    else signed negative (x.div y)

/-- The whole number towards zero from a finite quantity. -/
def truncated : Quantity → Int
  | finite x =>
    let n : Int := (x.numerator / x.denominator : Nat)
    if x.negative then -n else n
  | _ => 0

/-- Whether a finite quantity is a whole number. -/
def isWhole : Quantity → Bool
  | finite x => x.numerator % x.denominator = 0
  | _ => false

/-- What is left of a quantity when another one was taken from it as often as possible. -/
def remainder (a b : Quantity) : Quantity :=
  match a, b with
  | finite x, finite y =>
    if y.mantissa = 0 then .undefined true
    else
      let num := x.numerator * y.denominator % (y.numerator * x.denominator)
      signed x.negative (Binary64.ofRatio num (x.denominator * y.denominator))
  | finite x, infinite _ => .finite x
  | _, _ => .undefined true

/-- Whether a quantity is less than another one. -/
def less : Quantity → Quantity → Bool
  | finite x, finite y => numeratorOf x * y.denominator < numeratorOf y * x.denominator
  | infinite a, infinite b => a && !b
  | infinite a, finite _ => a
  | finite _, infinite b => !b
  | _, _ => false

/-- Whether two quantities are equal. -/
def equal : Quantity → Quantity → Bool
  | finite x, finite y => numeratorOf x * y.denominator = numeratorOf y * x.denominator
  | infinite a, infinite b => a = b
  | _, _ => false

/-! ## Reading -/

/-- Exponents beyond this one are beyond all doubles. -/
def farthest : Nat := 5000

/-- The number `digits * base ^ exponent`; the flag tells that it is beyond all doubles. -/
def ofScaled (negative : Bool) (base digits : Nat) (exponent : Int) : Quantity × Bool :=
  if digits = 0 then (signed negative (some .zero), false)
  else if exponent > farthest then (.infinite negative, true)
  else if exponent < -(farthest : Int) - Nat.log2 digits then
    (signed negative (some .zero), true)
  else
    let power := Nat.pow base exponent.natAbs
    let found :=
      if exponent < 0 then Binary64.ofRatio digits power else Binary64.ofRatio (digits * power) 1
    (signed negative found, found.isNone)

/-- The value of digits to a base of at most sixteen. -/
def digitsValue (base : Nat) (digits : List Char) : Nat :=
  digits.foldl (fun n c =>
    n * base + (if c.isDigit then c.toNat - '0'.toNat else c.toLower.toNat - 'a'.toNat + 10)) 0

/-- An exponent after one of its letters, and what comes after it. -/
def exponentFrom (letters : List Char) (text : List Char) : Int × List Char :=
  match text with
  | e :: rest =>
    if letters.contains e then
      let (negative, digits) := match rest with
        | '-' :: more => (true, more)
        | '+' :: more => (false, more)
        | more => (false, more)
      let taken := digits.takeWhile Char.isDigit
      if taken.isEmpty then (0, text)
      else
        let n : Int := min (digitsValue 10 taken) (10 * farthest)
        (if negative then -n else n, digits.drop taken.length)
    else (0, text)
  | [] => (0, [])

/-- Whether a character is a digit to base sixteen. -/
def isHexDigit (c : Char) : Bool := c.isDigit || ('a' ≤ c.toLower && c.toLower ≤ 'f')

/-- Digits before and after a point, and what comes after them. -/
def pointed (isDigit : Char → Bool) (text : List Char) : List Char × List Char × List Char :=
  let whole := text.takeWhile isDigit
  match text.drop whole.length with
  | '.' :: rest =>
    let fraction := rest.takeWhile isDigit
    if whole.isEmpty ∧ fraction.isEmpty then ([], [], text)
    else (whole, fraction, rest.drop fraction.length)
  | rest => (whole, [], rest)

/-- What is read from a text. -/
structure Found where
  value : Quantity
  rest : List Char
  /-- Whether what was read is beyond all doubles. -/
  isBeyond : Bool
  deriving Repr

/-- Whether a text starts with a word in small letters, whatever its letters. -/
def startsWith (word : String) (text : List Char) : Bool :=
  (text.take word.length).map Char.toLower = word.toList

/-- The quantity at the start of a text without blanks and sign before it. -/
def magnitude? (negative : Bool) (text : List Char) : Option Found :=
  if startsWith "infinity" text then some ⟨.infinite negative, text.drop 8, false⟩
  else if startsWith "inf" text then some ⟨.infinite negative, text.drop 3, false⟩
  else if startsWith "nan" text then some ⟨.undefined negative, text.drop 3, false⟩
  else
    let decimal : Option Found :=
      let (whole, fraction, rest) := pointed Char.isDigit text
      if whole.isEmpty ∧ fraction.isEmpty then none
      else
        let (exponent, rest) := exponentFrom ['e', 'E'] rest
        let (value, isBeyond) :=
          ofScaled negative 10 (digitsValue 10 (whole ++ fraction)) (exponent - fraction.length)
        some ⟨value, rest, isBeyond⟩
    if startsWith "0x" text then
      let (whole, fraction, rest) := pointed isHexDigit (text.drop 2)
      if whole.isEmpty ∧ fraction.isEmpty then decimal
      else
        let (exponent, rest) := exponentFrom ['p', 'P'] rest
        let (value, isBeyond) :=
          ofScaled negative 2 (digitsValue 16 (whole ++ fraction))
            (exponent - 4 * fraction.length)
        some ⟨value, rest, isBeyond⟩
    else decimal

/-- The quantity at the start of a text, perhaps with a sign. -/
def ofText? (text : List Char) : Option Found :=
  match text.dropWhile Octets.isSpace with
  | '-' :: rest => magnitude? true rest
  | '+' :: rest => magnitude? false rest
  | rest => magnitude? false rest

/-! ## Writing -/

/-- The digits of a number, at least so many. -/
def digitsOf (least n : Nat) : List Char :=
  let digits := Nat.toDigits 10 n
  List.replicate (least - digits.length) '0' ++ digits

/-- The magnitude of a double with a number of places after the point. -/
def fixed (x : Binary64) (places : Nat) (point : Bool) : List Char :=
  let scaled := roundDiv (x.numerator * Nat.pow 10 places) x.denominator
  let digits := digitsOf (places + 1) scaled
  let whole := digits.take (digits.length - places)
  if places = 0 then if point then whole ++ ['.'] else whole
  else whole ++ '.' :: digits.drop (digits.length - places)

/-- The magnitude of a double in units of a power of ten, rounded. -/
def inTens (x : Binary64) (exponent : Int) : Nat :=
  if exponent < 0 then roundDiv (x.numerator * Nat.pow 10 exponent.natAbs) x.denominator
  else roundDiv x.numerator (x.denominator * Nat.pow 10 exponent.natAbs)

/-- The largest power of ten that is not above the magnitude of a double, looked for downwards in
at most `fuel` steps. -/
def orderFrom (x : Binary64) (exponent : Int) : Nat → Int
  | 0 => exponent
  | fuel + 1 =>
    let reached :=
      if exponent < 0 then x.denominator ≤ x.numerator * Nat.pow 10 exponent.natAbs
      else x.denominator * Nat.pow 10 exponent.natAbs ≤ x.numerator
    if reached then exponent else orderFrom x (exponent - 1) fuel

/-- The order of magnitude of a double. -/
def order (x : Binary64) : Int :=
  if x.mantissa = 0 then 0
  else
    let bits : Int := (x.numerator.log2 : Int) - (x.denominator.log2 : Int)
    orderFrom x (bits * 30103 / 100000 + 2) 8

/-- The significant digits of a double and its order of magnitude after rounding to them. -/
def significant (x : Binary64) (count : Nat) : List Char × Int :=
  let order := order x
  let n := inTens x (order - (count - 1 : Nat))
  let digits := digitsOf count n
  if count < digits.length then (digits.take count, order + 1) else (digits, order)

/-- An exponent in at least two digits. -/
def exponentText (letter : Char) (exponent : Int) : List Char :=
  letter :: (if exponent < 0 then '-' else '+') :: digitsOf 2 exponent.natAbs

/-- The magnitude of a double with one digit before the point. -/
def scientific (x : Binary64) (places : Nat) (point : Bool) : List Char :=
  let (digits, exponent) := significant x (places + 1)
  let fraction := digits.drop 1
  digits.take 1 ++ (if fraction.isEmpty ∧ !point then [] else '.' :: fraction) ++
    exponentText 'e' exponent

/-- Digits after a point without zeros at their end, and without the point if none are left. -/
def trimmed (text : List Char) : List Char :=
  if text.contains '.' then
    match (text.reverse.dropWhile (· = '0')) with
    | '.' :: rest => rest.reverse
    | rest => rest.reverse
  else text

/-- The magnitude of a double in so many significant digits, with an exponent if it is very small
or has more digits. -/
def general (x : Binary64) (precision : Nat) (keepsZeros : Bool) : List Char :=
  let count := max 1 precision
  let (digits, exponent) := significant x count
  if exponent < -4 ∨ (count : Int) ≤ exponent then
    let fraction := '.' :: digits.drop 1
    digits.take 1 ++ (if keepsZeros then fraction else trimmed fraction) ++
      exponentText 'e' exponent
  else
    let text := fixed x (count - 1 - exponent).toNat keepsZeros
    if keepsZeros then text else trimmed text

/-- The magnitude of a double in base sixteen with a power of two. -/
def hexadecimal (x : Binary64) : List Char :=
  if x.mantissa = 0 then "0x0p+0".toList
  else
    let bits := x.mantissa.log2
    let exponent : Int := x.exponent + bits
    let fraction := (x.mantissa - Nat.pow 2 bits) * Nat.pow 2 (52 - bits)
    let digits := Nat.toDigits 16 fraction
    let digits := List.replicate (13 - digits.length) '0' ++ digits
    let digits := (digits.reverse.dropWhile (· = '0')).reverse
    ['0', 'x', '1'] ++ (if digits.isEmpty then [] else '.' :: digits) ++
      ['p', if exponent < 0 then '-' else '+'] ++ Nat.toDigits 10 exponent.natAbs

/-- The magnitude of a quantity as a directive of a given letter shows it. -/
def magnitudeText (letter : Char) (precision : Option Nat) (alternative : Bool) :
    Quantity → List Char
  | infinite _ => "inf".toList
  | undefined _ => "nan".toList
  | finite x =>
    match letter.toLower with
    | 'f' => fixed x (precision.getD 6) alternative
    | 'e' => scientific x (precision.getD 6) alternative
    | 'a' => hexadecimal x
    | _ => general x (precision.getD 6) alternative

/-- Whether a quantity is a number. -/
def isFinite : Quantity → Bool
  | finite _ => true
  | _ => false

end Quantity

end PubSubTrials.Decimal
