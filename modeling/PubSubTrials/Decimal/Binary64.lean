/-!
# Numbers of 64-bit floating point

A finite double is a sign, a mantissa below `2 ^ 53` and a power of two; results of arithmetic
are rounded to the nearest one, a tie going to the even mantissa. All of it is exact arithmetic
on natural numbers.
-/

namespace PubSubTrials.Decimal

/-- A finite double, `± mantissa * 2 ^ exponent`. -/
structure Binary64 where
  negative : Bool
  mantissa : Nat
  exponent : Int
  deriving DecidableEq, Repr, Inhabited

/-- A quotient rounded to the nearest whole number, a tie to the even one. -/
def roundDiv (num den : Nat) : Nat :=
  let q := num / den
  let twice := 2 * (num % den)
  if den < twice ∨ (twice = den ∧ q % 2 = 1) then q + 1 else q

namespace Binary64

/-- Zero. -/
def zero : Binary64 := ⟨false, 0, -1074⟩

/-- `num / den` in units of `2 ^ exponent`, rounded. -/
def inUnits (num den : Nat) (exponent : Int) : Nat :=
  if exponent < 0 then roundDiv (num * Nat.pow 2 exponent.natAbs) den
  else roundDiv num (den * Nat.pow 2 exponent.natAbs)

/-- Whether `num / den` is less than `2 ^ (exponent + 53)`. -/
def fits (num den : Nat) (exponent : Int) : Bool :=
  let top := exponent + 53
  if top < 0 then num * Nat.pow 2 top.natAbs < den else num < den * Nat.pow 2 top.natAbs

/-- The double nearest to `num / den`; none if that is beyond all of them. -/
def ofRatio (num den : Nat) : Option Binary64 :=
  if num = 0 then some zero
  else
    let guess : Int := (num.log2 : Int) - (den.log2 : Int) - 53
    let exponent := if fits num den guess then guess else guess + 1
    let exponent := if exponent < -1074 then -1074 else exponent
    let mantissa := inUnits num den exponent
    let rounded : Binary64 :=
      if mantissa = 0x20000000000000 then ⟨false, 0x10000000000000, exponent + 1⟩
      else ⟨false, mantissa, exponent⟩
    if rounded.exponent > 971 then none else some rounded

/-- The double nearest to a natural number; none if that is beyond all of them. -/
def ofNat? (n : Nat) : Option Binary64 := ofRatio n 1

/-- The numerator of a double's magnitude. -/
def numerator (x : Binary64) : Nat :=
  if x.exponent < 0 then x.mantissa else x.mantissa * Nat.pow 2 x.exponent.natAbs

/-- The denominator of a double's magnitude. -/
def denominator (x : Binary64) : Nat :=
  if x.exponent < 0 then Nat.pow 2 x.exponent.natAbs else 1

/-- The product of two magnitudes. -/
def mul (x y : Binary64) : Option Binary64 :=
  ofRatio (x.numerator * y.numerator) (x.denominator * y.denominator)

/-- The quotient of two magnitudes, the second of which is not zero. -/
def div (x y : Binary64) : Option Binary64 :=
  ofRatio (x.numerator * y.denominator) (x.denominator * y.numerator)

/-- The sum of two magnitudes. -/
def add (x y : Binary64) : Option Binary64 :=
  ofRatio (x.numerator * y.denominator + y.numerator * x.denominator)
    (x.denominator * y.denominator)

/-- The double of the opposite sign. -/
def neg (x : Binary64) : Binary64 :=
  { x with negative := !x.negative }

/-- The magnitude in tenths, rounded, and printed with one decimal place. -/
def renderTenths (x : Binary64) : String :=
  let tenths := roundDiv (x.numerator * 10) x.denominator
  toString (tenths / 10) ++ "." ++ toString (tenths % 10)

end Binary64

end PubSubTrials.Decimal
