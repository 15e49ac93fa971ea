import PubSubTrials.Duration

/-!
# Timestamps

A moment in seconds since the start of 1970, and its date and time of day in universal time. A
year that does not fit into four digits is written with its sign.
-/

namespace PubSubTrials

/-- A moment, in seconds since the start of 1970. -/
structure Timestamp where
  seconds : Int
  deriving DecidableEq, Repr, Inhabited

namespace Timestamp

/-- The first moment that has a date. -/
def earliest : Int := -8334601228800

/-- The last moment that has a date. -/
def latest : Int := 8210266876799

/-- A moment, or the start of 1970 when it has no date. -/
def ofSeconds (seconds : Int) : Timestamp :=
  if earliest ≤ seconds ∧ seconds ≤ latest then ⟨seconds⟩ else ⟨0⟩

/-- A day of the calendar. -/
structure Date where
  year : Int
  month : Nat
  day : Nat
  deriving DecidableEq, Repr

/-- The date of a day counted from the start of 1970. Years are counted from March, so that a
leap day ends one, in eras of 400 years. -/
def dateOfDay (day : Int) : Date :=
  let shifted := day + 719468
  let era := Int.fdiv shifted 146097
  let dayOfEra := (Int.fmod shifted 146097).toNat
  let yearOfEra :=
    (dayOfEra - dayOfEra / 1460 + dayOfEra / 36524 - dayOfEra / 146096) / 365
  let dayOfYear := dayOfEra - (365 * yearOfEra + yearOfEra / 4 - yearOfEra / 100)
  let monthFromMarch := (5 * dayOfYear + 2) / 153
  let month := if monthFromMarch < 10 then monthFromMarch + 3 else monthFromMarch - 9
  let year := (yearOfEra : Int) + era * 400 + (if month ≤ 2 then 1 else 0)
  ⟨year, month, dayOfYear - (153 * monthFromMarch + 2) / 5 + 1⟩

/-- A number in at least `width` digits. -/
def padded (width n : Nat) : String :=
  String.ofList (Duration.fixedDigits width n)

/-- A year, with a sign unless it has four digits. -/
def renderYear (year : Int) : String :=
  if 0 ≤ year ∧ year ≤ 9999 then padded 4 year.toNat
  else (if year < 0 then "-" else "+") ++ padded 4 year.natAbs

/-- Date and time of day in universal time. -/
def render (moment : Timestamp) : String :=
  let date := dateOfDay (Int.fdiv moment.seconds 86400)
  let time := (Int.fmod moment.seconds 86400).toNat
  renderYear date.year ++ "-" ++ padded 2 date.month ++ "-" ++ padded 2 date.day ++ "T" ++
    padded 2 (time / 3600) ++ ":" ++ padded 2 (time / 60 % 60) ++ ":" ++ padded 2 (time % 60) ++
    "+00:00"

end Timestamp

end PubSubTrials
