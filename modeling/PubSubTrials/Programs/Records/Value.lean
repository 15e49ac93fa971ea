import PubSubTrials.Text.Format

/-!
# Values of record scripts

A value is a number or a text; what was read from records is a text that counts as a number if it
looks like one. A variable that was never set is empty as a text and zero as a number.
-/

namespace PubSubTrials.Records

open Decimal (Quantity)

/-- A value. -/
inductive Value where
  | number (quantity : Quantity)
  | text (octets : Octets)
  /-- What was read. -/
  | input (octets : Octets)
  | unset
  deriving Inhabited, Repr

/-- Whether a text looks like a decimal number with blanks around it. -/
def looksNumeric (octets : Octets) : Bool :=
  let inner := octets.dropWhile Octets.isSpace
  let unsigned := match inner with
    | '-' :: rest => rest
    | '+' :: rest => rest
    | rest => rest
  let (whole, fraction, rest) := Quantity.pointed Char.isDigit unsigned
  if whole.isEmpty ∧ fraction.isEmpty then false
  else (Quantity.exponentFrom ['e', 'E'] rest).2.all Octets.isSpace

/-- The number at the start of a text, zero if there is none. -/
def numberAtStart (octets : Octets) : Quantity :=
  match Quantity.ofText? octets with
  | some found => found.value
  | none => Quantity.zero

/-- Whole numbers from this one on are shown like others. -/
def wholeLimit : Int := 18446744073709551616

/-- The whole number of a quantity that is shown without a point. -/
def shownWhole? (quantity : Quantity) : Option Int :=
  if quantity.isFinite ∧ quantity.isWhole then
    let n := quantity.truncated
    if n < wholeLimit ∧ -(wholeLimit / 2) ≤ n then some n else none
  else none

/-! ## Formats -/

/-- A quantity as a whole number of eight octets. -/
def wholeOf (quantity : Quantity) : Int :=
  match quantity with
  | .finite _ => max (-(wholeLimit / 2 - 1)) (min (wholeLimit - 1) quantity.truncated)
  | .infinite true | .undefined _ => -(wholeLimit / 2)
  | .infinite false => wholeLimit - 1

namespace Value

/-- A value as a number. -/
def quantity : Value → Quantity
  | number n => n
  | text word | input word => numberAtStart word
  | unset => Quantity.zero

/-- Whether a value counts as a number when it is compared. -/
def isNumeric : Value → Bool
  | number _ | unset => true
  | text _ => false
  | input word => looksNumeric word

/-- A whole number as a value. -/
def ofInt (n : Int) : Value := number (Quantity.ofInt n)

/-- A natural number as a value. -/
def ofNat (n : Nat) : Value := ofInt n

/-- One for true and zero for false. -/
def ofBool (b : Bool) : Value := ofNat (if b then 1 else 0)

end Value

/-- What a format could not show. -/
inductive FormatFault where
  /-- There are fewer values than directives. -/
  | missing
  /-- A directive, by its number, does not exist. -/
  | improper (number : Nat)

/-- Text shown by a format, and what was wrong then. -/
abbrev Formatted := Octets × Option FormatFault

/-- A value as a text; `form` tells how numbers are shown that are not whole. -/
def quantityText (form : Octets) (quantity : Quantity) : Octets :=
  match shownWhole? quantity with
  | some n => Octets.ofInt n
  | none =>
    match form with
    | '%' :: rest =>
      let (layout, rest) := Layout.plain.flags rest
      let width := rest.takeWhile Char.isDigit
      let rest := rest.drop width.length
      let (precision, rest) := match rest with
        | '.' :: more =>
          let digits := more.takeWhile Char.isDigit
          (some (Quantity.digitsValue 10 digits), more.drop digits.length)
        | more => (none, more)
      match rest with
      | letter :: after =>
        let layout := { layout with width := Quantity.digitsValue 10 width, precision }
        if letter = 'd' ∨ letter = 'i' then layout.signed (wholeOf quantity) ++ after
        else layout.quantity letter quantity ++ after
      | [] => []
    | _ => form

/-- A value as a text. -/
def Value.toText (form : Octets) : Value → Octets
  | number n => quantityText form n
  | text word | input word => word
  | unset => []

/-- Whether a value counts as true. -/
def Value.isTrue : Value → Bool
  | number n => !n.isZero
  | text word => !word.isEmpty
  | input word => if looksNumeric word then !(numberAtStart word).isZero else !word.isEmpty
  | unset => false

/-- The text of a character for a value: a number is its code. -/
def charOf (value : Value) : Octets :=
  match value with
  | .number n => [Char.ofNat ((wholeOf n) % 256).toNat]
  | .input word =>
    if looksNumeric word then [Char.ofNat ((wholeOf (numberAtStart word)) % 256).toNat]
    else [word.head?.getD '\x00']
  | .text word => [word.head?.getD '\x00']
  | .unset => ['\x00']

/-- A count in digits or among the values, with what comes after it. -/
def countOf (rest : Octets) (values : List Value) : Option Int × Octets × List Value :=
  match rest, values with
  | '*' :: rest, value :: values => (some (wholeOf value.quantity), rest, values)
  | '*' :: rest, [] => (some 0, rest, [])
  | rest, values =>
    let digits := rest.takeWhile Char.isDigit
    (if digits.isEmpty then none else some (Quantity.digitsValue 10 digits),
      rest.drop digits.length, values)

/-- Show values by a format; `number` counts the directives. -/
def formatted (form : Octets) : Nat → Octets → List Value → Nat → Formatted
  | 0, _, _, _ => ([], none)
  | fuel + 1, text, values, number =>
    match text with
    | [] => ([], none)
    | '%' :: '%' :: rest =>
      let (shown, fault) := formatted form fuel rest values number
      ('%' :: shown, fault)
    | '%' :: rest =>
      let (layout, rest) := Layout.plain.flags rest
      let (width, rest, values) := countOf rest values
      let layout := match width with
        | some n => { layout with width := n.natAbs, left := layout.left || n < 0 }
        | none => layout
      let (precision, rest, values) := match rest with
        | '.' :: rest =>
          let (count, rest, values) := countOf rest values
          (some (count.getD 0).toNat, rest, values)
        | rest => (none, rest, values)
      let layout := { layout with precision }
      let rest := rest.dropWhile (fun c => c = 'l' || c = 'h')
      match rest, values with
      | [], _ => ([], some .missing)
      | letter :: rest, values =>
        if !("diouxXeEfFgGaAcs".toList.contains letter) then ([], some (.improper (number + 1)))
        else
          match values with
          | [] => ([], some .missing)
          | value :: values =>
            let piece : Octets :=
              match letter with
              | 'c' => layout.text (charOf value)
              | 's' => layout.text (value.toText form)
              | 'd' | 'i' => layout.signed (wholeOf value.quantity)
              | 'o' | 'u' | 'x' | 'X' =>
                layout.unsigned letter ((wholeOf value.quantity) % wholeLimit).toNat
              | letter => layout.quantity letter value.quantity
            let (shown, fault) := formatted form fuel rest values (number + 1)
            (piece ++ shown, fault)
    | c :: rest =>
      let (shown, fault) := formatted form fuel rest values number
      (c :: shown, fault)

/-- Show values by a format. -/
def format (form text : Octets) (values : List Value) : Formatted :=
  formatted form (text.length + 1) text values 0

/-! ## Comparisons -/

/-- Whether a value is before another one, and whether they are equal. -/
def compareValues (form : Octets) (a b : Value) : Bool × Bool :=
  if a.isNumeric ∧ b.isNumeric then
    (a.quantity.less b.quantity, a.quantity.equal b.quantity)
  else
    let order := compare (String.ofList (a.toText form)) (String.ofList (b.toText form))
    (order = .lt, order = .eq)

end PubSubTrials.Records
