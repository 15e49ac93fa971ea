/-!
# Durations

Spans of time in whole nanoseconds, up to 64 bits of seconds. Scaling stays at the longest
duration; a sum that goes beyond it has no value.
-/

namespace PubSubTrials

/-- A span of time. -/
structure Duration where
  nanoseconds : Nat
  deriving DecidableEq, Repr, Inhabited

namespace Duration

/-- Nanoseconds of a second. -/
def perSecond : Nat := 1000000000

/-- Nanoseconds of a millisecond. -/
def perMilli : Nat := 1000000

/-- Nanoseconds of a microsecond. -/
def perMicro : Nat := 1000

/-- The longest duration. -/
def longest : Duration := ⟨0x10000000000000000 * perSecond - 1⟩

/-- No time at all. -/
def zero : Duration := ⟨0⟩

/-- Whole seconds. -/
def ofSeconds (n : Nat) : Duration := ⟨n * perSecond⟩

/-- Whole milliseconds. -/
def ofMillis (n : Nat) : Duration := ⟨n * perMilli⟩

/-- Whole seconds of a duration. -/
def seconds (d : Duration) : Nat := d.nanoseconds / perSecond

/-- Nanoseconds beyond the whole seconds. -/
def subsecond (d : Duration) : Nat := d.nanoseconds % perSecond

/-- Whole milliseconds of a duration. -/
def millis (d : Duration) : Nat := d.nanoseconds / perMilli

/-- The duration that is two others together. -/
def add (a b : Duration) : Duration := ⟨a.nanoseconds + b.nanoseconds⟩

/-- The longer of two durations. -/
def longer (a b : Duration) : Duration := ⟨max a.nanoseconds b.nanoseconds⟩

/-- Whether a time has come at another one. -/
def hasCome (time now : Duration) : Bool := time.nanoseconds ≤ now.nanoseconds

/-- A duration scaled by `factor`, at most the longest one. -/
def scale (d : Duration) (factor : Nat) : Duration :=
  ⟨min (d.nanoseconds * factor) longest.nanoseconds⟩

/-- The sum of two durations, if there is such a duration. -/
def add? (a b : Duration) : Option Duration :=
  let n := a.nanoseconds + b.nanoseconds
  if n ≤ longest.nanoseconds then some ⟨n⟩ else none

/-- The sum of many durations, if every sum on the way exists. -/
def sum? (durations : List Duration) : Option Duration :=
  durations.foldlM add? zero

/-- A number below `10 ^ width` in exactly `width` digits. -/
def fixedDigits (width n : Nat) : List Char :=
  let digits := Nat.toDigits 10 n
  List.replicate (width - digits.length) '0' ++ digits

/-- A fraction's digits without the zeros at their end. -/
def trimZeros (digits : List Char) : List Char :=
  (digits.reverse.dropWhile (· = '0')).reverse

/-- A count of `unit`s with as many of its `places` decimal places as needed. -/
def renderIn (unit : String) (places whole fraction : Nat) : String :=
  match trimZeros (fixedDigits places fraction) with
  | [] => toString whole ++ unit
  | digits => toString whole ++ "." ++ String.ofList digits ++ unit

/-- A duration in the largest unit of which it holds at least one. -/
def render (d : Duration) : String :=
  let n := d.nanoseconds
  if perSecond ≤ n then renderIn "s" 9 (n / perSecond) (n % perSecond)
  else if perMilli ≤ n then renderIn "ms" 6 (n / perMilli) (n % perMilli)
  else if perMicro ≤ n then renderIn "µs" 3 (n / perMicro) (n % perMicro)
  else toString n ++ "ns"

/-- A duration as seconds with all nine decimal places. -/
def renderSeconds (d : Duration) : String :=
  toString d.seconds ++ "." ++ String.ofList (fixedDigits 9 d.subsecond)

end Duration

end PubSubTrials
