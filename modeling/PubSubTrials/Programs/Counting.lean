import PubSubTrials.Programs.Options
import PubSubTrials.Text.Format

/-!
# The program that counts

Numbers from a first to a last one are written in exact decimals, with as many places as the first
number and the step have.
-/

namespace PubSubTrials.Programs

open Host (Course)
open Decimal (Quantity)

namespace Sequence

/-- A number among the operands. -/
structure Operand where
  /-- The digits of the number as a whole number. -/
  digits : Int
  /-- The number is its digits times this power of ten. -/
  exponent : Int
  isInfinite : Bool
  /-- Number of characters that it takes. -/
  width : Int
  /-- Number of its places; none if the text does not tell. -/
  places : Option Nat

/-- The number one. -/
def one : Operand := ⟨1, 0, false, 1, some 0⟩

/-- The number that a text stands for, with the space that it takes. -/
def operand? (source : Octets) : Option Operand :=
  let text := source.dropWhile (fun c => Octets.isSpace c || c = '+')
  match Quantity.ofText? source with
  | some ⟨value, [], _⟩ =>
    let negative := text.head? = some '-'
    let magnitude := if negative then text.drop 1 else text
    if !value.isFinite ∧ !(magnitude.head?.any Char.isDigit) then
      some ⟨if negative then -1 else 1, 0, true, 0, some 0⟩
    else if text.any (fun c => c = 'x' || c = 'X') then
      let n : Int := value.truncated
      some ⟨n, 0, false, 0, if text.any (fun c => c = '.' || c = 'p') then none else some 0⟩
    else
      let (whole, fraction, rest) := Quantity.pointed Char.isDigit magnitude
      let (exponent, _) := Quantity.exponentFrom ['e', 'E'] rest
      let n : Int := Quantity.digitsValue 10 (whole ++ fraction)
      let hasPoint := text.contains '.'
      let width : Int := text.length - rest.length +
        (if !hasPoint then 0 else if fraction.isEmpty then -1 else if whole.isEmpty then 1 else 0)
      let size := exponent.natAbs
      let places := if exponent < 0 then fraction.length + size else fraction.length - size
      let width :=
        if rest.isEmpty then width
        else if exponent < 0 then
          width + size + (if !hasPoint ∨ fraction.isEmpty then 1 else 0)
        else
          width + (size - fraction.length : Nat) -
            (if hasPoint ∧ places = 0 ∧ !fraction.isEmpty then 1 else 0)
      some ⟨if negative then -n else n, exponent - fraction.length, false, width, some places⟩
  | _ => none

/-- Whether a text means what is not a number. -/
def isUndefined (text : Octets) : Bool :=
  match Quantity.ofText? text with
  | some ⟨.undefined _, [], _⟩ => true
  | _ => false

/-- A number in units of a power of ten that is not above its own. -/
def Operand.inUnits (operand : Operand) (exponent : Int) : Int :=
  operand.digits * (Nat.pow 10 (operand.exponent - exponent).toNat : Nat)

/-- How numbers are written. -/
inductive Style where
  | places (width places : Nat)
  | shortest
  | form (before : Octets) (layout : Layout) (letter : Char) (after : Octets)

/-- How numbers are written if nothing else was asked for. -/
def styleOf (equalWidth : Bool) (first step last : Operand) : Style :=
  match first.places, step.places, last.places with
  | some a, some b, some c =>
    let places := max a b
    if equalWidth then
      let firstWidth := first.width + (places - a : Nat) + (if a = 0 ∧ places ≠ 0 then 1 else 0)
      let lastWidth := last.width + ((places : Int) - c) +
        (if c ≠ 0 ∧ places = 0 then -1 else if c = 0 ∧ places ≠ 0 then 1 else 0)
      .places (max firstWidth lastWidth).toNat places
    else .places 0 places
  | _, _, _ => .shortest

/-- A number of units of a power of ten as text. -/
def Style.render (style : Style) (units : Int) (exponent : Int) : Octets :=
  let quantity : Quantity :=
    if exponent < 0 then .ofSigned units (Nat.pow 10 exponent.natAbs)
    else .ofSigned (units * (Nat.pow 10 exponent.natAbs : Nat)) 1
  match style with
  | .places width count =>
    let scaled :=
      let shift := exponent + count
      if shift < 0 then Decimal.roundDiv units.natAbs (Nat.pow 10 shift.natAbs)
      else units.natAbs * Nat.pow 10 shift.toNat
    let digits := Quantity.digitsOf (count + 1) scaled
    let whole := digits.take (digits.length - count)
    let text := if count = 0 then whole
      else whole ++ '.' :: digits.drop (digits.length - count)
    Layout.number { Layout.plain with zeros := true, width } (if units < 0 then ['-'] else [])
      text true
  | .shortest => Layout.plain.quantity 'g' quantity
  | .form before layout letter after => before ++ layout.quantity letter quantity ++ after

/-- The text of a format up to its first directive, percent signs that stand for themselves put
once, and the rest from the directive on. -/
def upToDirective : Octets → Octets × Octets
  | '%' :: '%' :: rest =>
    let (before, rest) := upToDirective rest
    ('%' :: before, rest)
  | '%' :: rest => ([], '%' :: rest)
  | c :: rest =>
    let (before, rest) := upToDirective rest
    (c :: before, rest)
  | [] => ([], [])

/-- The style of a format. -/
def formOf (format : Octets) : Running Style := do
  let complain (message : String) : Running Style :=
    Running.fail ("format ".toList ++ Running.quoted format ++ message.toList) 1
  match upToDirective format with
  | (_, []) => complain " has no % directive"
  | (before, _ :: text) =>
    let (layout, rest) := Layout.plain.flags text
    let width := rest.takeWhile Char.isDigit
    let rest := rest.drop width.length
    let (precision, rest) := match rest with
      | '.' :: rest =>
        let digits := rest.takeWhile Char.isDigit
        (some (Quantity.digitsValue 10 digits), rest.drop digits.length)
      | rest => (none, rest)
    let rest := if rest.head? = some 'L' then rest.drop 1 else rest
    match rest with
    | [] => complain " ends in %"
    | letter :: rest =>
      if "efgaEFGA".toList.contains letter then
        match upToDirective rest with
        | (after, []) =>
          return .form before { layout with width := Quantity.digitsValue 10 width, precision }
            letter after
        | _ => complain " has too many % directives"
      else complain (" has unknown %" ++ letter.toString ++ " directive")

/-- Write numbers up to the last one; `fuel` bounds how many. -/
def countFrom (render : Int → Octets) (step : Int) (last : Option Int) (separator : Octets) :
    Nat → Int → Running Unit
  | 0, _ => return ()
  | fuel + 1, units => do
    Running.put (render units)
    let next := units + step
    let isPast := last.any (fun last => if step < 0 then next < last else last < next)
    if isPast then Running.put [Octets.lineEnd]
    else
      Running.put separator
      if (← get).trouble.isNone then countFrom render step last separator fuel next

end Sequence

open Sequence in
/-- Count from a number to another one. -/
def seq (arguments : List Octets) : Running Unit := do
  let isNumber (word : Octets) : Bool :=
    match word with
    | '-' :: c :: _ => c = '.' || c.isDigit
    | _ => false
  let table : OptionTable :=
    ⟨"f:s:w", [("equal-width", .never, 'w'), ("format", .always, 'f'),
      ("separator", .always, 's')], false⟩
  let (options, numbers) := arguments.span (fun word => !isNumber word)
  let chosen ← table.read (if numbers.isEmpty then options else options ++ ["--".toList]) 1
  let operands := chosen.operands.filter (· ≠ "--".toList) ++ numbers
  let read (text : Octets) : Running Operand := do
    if isUndefined text then
      Running.failUsage ("invalid 'not-a-number' argument: ".toList ++ Running.quoted text) 1
    else
      match operand? text with
      | some operand => return operand
      | none =>
        Running.failUsage ("invalid floating point argument: ".toList ++ Running.quoted text) 1
  let (first, step, last) ←
    match operands with
    | [] => Running.failUsage "missing operand".toList 1
    | [last] => pure (one, one, ← read last)
    | [first, last] => pure (← read first, one, ← read last)
    | [first, step, last] => pure (← read first, ← read step, ← read last)
    | _ :: _ :: _ :: excess :: _ =>
      Running.failUsage ("extra operand ".toList ++ Running.quoted excess) 1
  if step.digits = 0 then
    Running.failUsage ("invalid Zero increment value: ".toList ++
      Running.quoted (operands.getD 1 [])) 1
  let form ← match chosen.value? 'f' with
    | some format => do pure (some (← formOf format))
    | none => pure none
  if form.isSome ∧ chosen.has 'w' then
    Running.failUsage
      "format string may not be specified when printing equal width strings".toList 1
  let style := form.getD (styleOf (chosen.has 'w') first step last)
  let exponent := min 0 (min first.exponent (min step.exponent last.exponent))
  let units (operand : Operand) : Int := operand.inUnits exponent
  let isEmpty : Bool :=
    if last.isInfinite then decide (step.digits < 0) != decide (last.digits < 0)
    else if step.digits < 0 then units first < units last
    else units last < units first
  if !isEmpty then
    let separator := (chosen.value? 's').getD [Octets.lineEnd]
    let render (n : Int) : Octets :=
      if first.isInfinite then (if first.digits < 0 then "-inf".toList else "inf".toList)
      else style.render n exponent
    countFrom render (units step) (if last.isInfinite then none else some (units last))
      separator Course.manyTimes (units first)

/-- Programs that count. -/
def aboutNumbers : List Program := [.plain "seq" seq]

end PubSubTrials.Programs
