import PubSubTrials.Decimal.Binary64

/-!
# Shortest decimals

Of all decimals that read back as a given double, the one with the fewest digits, among those
the nearest to it, and of two equally near ones the even one. Decimals with a given number of digits
lie on a grid; if any point of the grid reads back, one of the two neighbours of the double does.
-/

namespace PubSubTrials.Decimal

/-- The decimal `digits * 10 ^ exponent`. -/
structure Scientific where
  digits : Nat
  exponent : Int
  deriving DecidableEq, Repr

namespace Scientific

/-- The numerator of a decimal. -/
def numerator (d : Scientific) : Nat :=
  if d.exponent < 0 then d.digits else d.digits * Nat.pow 10 d.exponent.natAbs

/-- The denominator of a decimal. -/
def denominator (d : Scientific) : Nat :=
  if d.exponent < 0 then Nat.pow 10 d.exponent.natAbs else 1

/-- Whether a decimal reads back as the magnitude of a double. -/
def readsAs (d : Scientific) (x : Binary64) : Bool :=
  match Binary64.ofRatio d.numerator d.denominator with
  | some y => y.mantissa == x.mantissa && y.exponent == x.exponent
  | none => false

end Scientific

namespace Binary64

/-- The grid point at or below the magnitude of a double. -/
def below (x : Binary64) (exponent : Int) : Scientific :=
  if exponent < 0 then ⟨x.numerator * Nat.pow 10 exponent.natAbs / x.denominator, exponent⟩
  else ⟨x.numerator / (x.denominator * Nat.pow 10 exponent.natAbs), exponent⟩

/-- Whether the grid point below a double is to be preferred to the one above it: it is nearer,
or as near and even. -/
def prefersBelow (x : Binary64) (d : Scientific) : Bool :=
  let (num, den) :=
    if d.exponent < 0 then (x.numerator * Nat.pow 10 d.exponent.natAbs, x.denominator)
    else (x.numerator, x.denominator * Nat.pow 10 d.exponent.natAbs)
  let twice := 2 * (num - d.digits * den)
  twice < den || (twice == den && d.digits % 2 == 0)

/-- The neighbour of a double on a grid that reads back; if both do, the nearer one, and of two
equally near ones the even one. -/
def onGrid? (x : Binary64) (exponent : Int) : Option Scientific :=
  let low := x.below exponent
  let high : Scientific := { low with digits := low.digits + 1 }
  match low.readsAs x, high.readsAs x with
  | true, true => some (if x.prefersBelow low then low else high)
  | true, false => some low
  | false, true => some high
  | false, false => none

/-- Look for a decimal on `grids` ever finer grids. -/
def search (x : Binary64) (exponent : Int) : Nat → Scientific
  | 0 => x.below exponent
  | grids + 1 =>
    match x.onGrid? exponent with
    | some d => d
    | none => search x (exponent - 1) grids

/-- A power of ten above the magnitude of a double. -/
def magnitude (x : Binary64) : Int :=
  let whole := x.numerator / x.denominator
  if whole = 0 then
    -(((x.denominator / x.numerator).log2 * 3 / 10 : Nat) : Int) + 1
  else ((Nat.toDigits 10 whole).length : Int)

/-- The shortest decimal of a double that is not zero. -/
def shortest (x : Binary64) : Scientific :=
  search x x.magnitude 400

/-- Digits of a natural number. -/
def digitsOf (n : Nat) : String := toString n

/-- Zeros. -/
def zeros (n : Nat) : String := String.ofList (List.replicate n '0')

/-- The text of a positive decimal: positional up to sixteen places before the point and five
after it, with a signed exponent beyond that; a whole number ends in `.0`. -/
def renderScientific (d : Scientific) : String :=
  let digits := digitsOf d.digits
  let count := digits.length
  let point : Int := d.exponent + count
  if 0 ≤ d.exponent ∧ point ≤ 16 then digits ++ zeros d.exponent.natAbs ++ ".0"
  else if 0 < point ∧ point ≤ 16 then
    String.ofList (digits.toList.take point.natAbs) ++ "." ++
      String.ofList (digits.toList.drop point.natAbs)
  else if -5 < point ∧ point ≤ 0 then "0." ++ zeros point.natAbs ++ digits
  else
    let exponent := (if 0 < point then "e+" else "e") ++ toString (point - 1)
    if count = 1 then digits ++ exponent
    else String.ofList (digits.toList.take 1) ++ "." ++ String.ofList (digits.toList.drop 1) ++
      exponent

/-- A decimal without zeros at the end of its digits, of which it has at most `n`. -/
def trim (d : Scientific) : Nat → Scientific
  | 0 => d
  | n + 1 =>
    if d.digits ≠ 0 ∧ d.digits % 10 = 0 then trim ⟨d.digits / 10, d.exponent + 1⟩ n else d

/-- The text of a double. -/
def render (x : Binary64) : String :=
  let magnitude :=
    if x.mantissa = 0 then "0.0" else renderScientific (trim x.shortest 400)
  if x.negative then "-" ++ magnitude else magnitude

end Binary64

end PubSubTrials.Decimal
