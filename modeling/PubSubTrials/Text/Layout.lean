import PubSubTrials.Decimal.Quantity
import PubSubTrials.Text.Octets

/-!
# Layouts of fields

How a value is shown by a directive of a format: on which side it is padded and to what width,
how many digits it has, and how its sign and base are marked.
-/

namespace PubSubTrials

open Decimal (Quantity)

/-- How a directive shows a value. -/
structure Layout where
  left : Bool
  zeros : Bool
  plus : Bool
  blank : Bool
  alternative : Bool
  width : Nat
  precision : Option Nat
  deriving DecidableEq, Repr, Inhabited

namespace Layout

/-- A layout that adds nothing. -/
def plain : Layout := ⟨false, false, false, false, false, 0, none⟩

/-- Text brought to the width of a layout. -/
def pad (layout : Layout) (text : Octets) : Octets :=
  let fill := List.replicate (layout.width - text.length) ' '
  if layout.left then text ++ fill else fill ++ text

/-- Text of which at most as much is shown as the precision says. -/
def text (layout : Layout) (text : Octets) : Octets :=
  layout.pad (match layout.precision with
    | some n => text.take n
    | none => text)

/-- The sign of a number. -/
def sign (layout : Layout) (negative : Bool) : Octets :=
  if negative then ['-'] else if layout.plus then ['+'] else if layout.blank then [' '] else []

/-- A number with what stands before its digits, filled up with zeros if the layout says so. -/
def number (layout : Layout) (before digits : Octets) (takesZeros : Bool) : Octets :=
  let least :=
    if takesZeros ∧ layout.zeros ∧ !layout.left then layout.width - before.length else 0
  layout.pad (before ++ List.replicate (least - digits.length) '0' ++ digits)

/-- Digits of a whole number, as many as the precision asks for. -/
def digits (layout : Layout) (base n : Nat) : Octets :=
  match layout.precision with
  | some 0 => if n = 0 then [] else Nat.toDigits base n
  | some least =>
    let digits := Nat.toDigits base n
    List.replicate (least - digits.length) '0' ++ digits
  | none => Nat.toDigits base n

/-- A whole number with a sign. -/
def signed (layout : Layout) (n : Int) : Octets :=
  layout.number (layout.sign (n < 0)) (layout.digits 10 n.natAbs) layout.precision.isNone

/-- A whole number without a sign, by the letter of its directive. -/
def unsigned (layout : Layout) (letter : Char) (n : Nat) : Octets :=
  match letter with
  | 'o' =>
    let digits := layout.digits 8 n
    let mark : Octets := if layout.alternative ∧ digits.head? ≠ some '0' then ['0'] else []
    layout.number [] (mark ++ digits) layout.precision.isNone
  | 'x' =>
    let mark : Octets := if layout.alternative ∧ n ≠ 0 then ['0', 'x'] else []
    layout.number mark (layout.digits 16 n) layout.precision.isNone
  | 'X' =>
    let mark : Octets := if layout.alternative ∧ n ≠ 0 then ['0', 'X'] else []
    layout.number mark ((layout.digits 16 n).map Char.toUpper) layout.precision.isNone
  | _ => layout.number [] (layout.digits 10 n) layout.precision.isNone

/-- A quantity, by the letter of its directive. -/
def quantity (layout : Layout) (letter : Char) (value : Quantity) : Octets :=
  let shown := value.magnitudeText letter layout.precision layout.alternative
  let shown := if letter.isUpper then shown.map Char.toUpper else shown
  let (mark, digits) : Octets × Octets :=
    if letter.toLower = 'a' ∧ value.isFinite then (shown.take 2, shown.drop 2) else ([], shown)
  layout.number (layout.sign value.isNegative ++ mark) digits value.isFinite

/-- The flags at the start of a directive, and what comes after them. -/
def flags (layout : Layout) : Octets → Layout × Octets
  | '-' :: rest => flags { layout with left := true } rest
  | '0' :: rest => flags { layout with zeros := true } rest
  | '+' :: rest => flags { layout with plus := true } rest
  | ' ' :: rest => flags { layout with blank := true } rest
  | '#' :: rest => flags { layout with alternative := true } rest
  | rest => (layout, rest)

end Layout

end PubSubTrials
