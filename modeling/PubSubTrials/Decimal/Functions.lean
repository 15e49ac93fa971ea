import PubSubTrials.Decimal.Quantity

/-!
# Functions of quantities

Roots, powers, logarithms and angles are those of 64-bit floating point.
-/

namespace PubSubTrials.Decimal.Quantity

/-- A quantity as a number of the machine. -/
def toFloat : Quantity → Float
  | finite x =>
    let magnitude := (Float.ofNat x.mantissa).scaleB x.exponent
    if x.negative then -magnitude else magnitude
  | infinite negative => if negative then -1.0 / 0.0 else 1.0 / 0.0
  | undefined _ => 0.0 / 0.0

/-- A number of the machine as a quantity. -/
def ofFloat (f : Float) : Quantity :=
  if f.isNaN then undefined true
  else
    let bits := f.toBits.toNat
    let negative : Bool := 0x8000000000000000 ≤ bits
    let exponent := bits / 0x10000000000000 % 2048
    let fraction := bits % 0x10000000000000
    if exponent = 2047 then infinite negative
    else if exponent = 0 then finite ⟨negative, fraction, -1074⟩
    else finite ⟨negative, fraction + 0x10000000000000, (exponent : Int) - 1075⟩

/-- A function of one number. -/
def apply (f : Float → Float) (x : Quantity) : Quantity := ofFloat (f x.toFloat)

/-- A power. -/
def power (base exponent : Quantity) : Quantity :=
  ofFloat (Float.pow base.toFloat exponent.toFloat)

/-- The angle of a point, by its height and its distance to the right. -/
def angle (y x : Quantity) : Quantity := ofFloat (Float.atan2 y.toFloat x.toFloat)

end PubSubTrials.Decimal.Quantity
