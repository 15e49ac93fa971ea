import PubSubTrials.Programs.Options
import PubSubTrials.Text.Layout
import PubSubTrials.Timestamp

/-!
# Programs that tell facts

Programs that tell the time in universal time, and facts about the system.
-/

namespace PubSubTrials.Programs

open Host (Course)

namespace Calendar

/-- The moment at which the clock of a host starts. -/
def clockStart : Int := 1750000000

/-- The number of a day of the calendar, counted from the start of 1970. -/
def dayOf (year : Int) (month day : Nat) : Int :=
  let year := if month ≤ 2 then year - 1 else year
  let era := Int.fdiv year 400
  let yearOfEra := (year - era * 400).toNat
  let shifted := if 2 < month then month - 3 else month + 9
  let dayOfYear := (153 * shifted + 2) / 5 + day - 1
  era * 146097 + (yearOfEra * 365 + yearOfEra / 4 - yearOfEra / 100 + dayOfYear : Nat) - 719468

/-- The names of days, Sunday first. -/
def days : List String :=
  ["Sunday", "Monday", "Tuesday", "Wednesday", "Thursday", "Friday", "Saturday"]

/-- The names of months. -/
def months : List String :=
  ["January", "February", "March", "April", "May", "June", "July", "August", "September",
    "October", "November", "December"]

/-- The date that digits in three groups stand for. -/
def dateOf? (text : Octets) : Option Int :=
  match Octets.splitOn '-' text with
  | [year, month, day] =>
    match (String.ofList year).toNat?, (String.ofList month).toNat?,
        (String.ofList day).toNat? with
    | some year, some month, some day =>
      if 1 ≤ month ∧ month ≤ 12 ∧ 1 ≤ day ∧ day ≤ 31 then some (dayOf year month day) else none
    | _, _, _ => none
  | _ => none

/-- The time of day that digits stand for, in seconds. -/
def timeOf? (text : Octets) : Option Nat :=
  match (Octets.splitOn ':' text).map (fun part => (String.ofList part).toNat?) with
  | [some hour, some minute] =>
    if hour < 24 ∧ minute < 60 then some (3600 * hour + 60 * minute) else none
  | [some hour, some minute, some second] =>
    if hour < 24 ∧ minute < 60 ∧ second ≤ 60 then some (3600 * hour + 60 * minute + second)
    else none
  | _ => none

/-- The moment that a text stands for. -/
def moment? (now : Int) (text : Octets) : Option Int :=
  match text with
  | '@' :: digits => (String.ofList digits).toInt?
  | text =>
    let spaced := text.map (fun c => if c = 'T' then ' ' else c)
    let words := (Octets.splitOn ' ' spaced).filter (!·.isEmpty)
    let words := words.filter (fun word => !(["UTC", "Z", "GMT", "U", "C"].any (·.toList = word)))
    match words with
    | [] | [['n', 'o', 'w']] => some now
    | [word] =>
      match String.ofList word with
      | "today" => some now
      | "tomorrow" => some (now + 86400)
      | "yesterday" => some (now - 86400)
      | _ => (dateOf? word).map (· * 86400)
    | [date, time] =>
      match dateOf? date, timeOf? time with
      | some day, some seconds => some (day * 86400 + seconds)
      | _, _ => none
    | _ => none

/-- A number filled up to a width; a flag says with what. -/
def field (flag : Option Char) (fill : Char) (width n : Nat) : Octets :=
  let digits := Octets.ofNat n
  let fill := match flag with
    | some '_' => ' '
    | some '0' => '0'
    | _ => fill
  if flag = some '-' then digits else List.replicate (width - digits.length) fill ++ digits

/-- The week of a year whose weeks start with a given day of the week. -/
def week (dayOfYear dayOfWeek first : Nat) : Nat :=
  (dayOfYear + 7 - (dayOfWeek + 7 - first) % 7) / 7

/-- What a letter of a format shows of a moment. -/
def shown (show_ : Octets → Octets) (seconds : Int) (nanos : Nat) (flag : Option Char) (c : Char) :
    Option Octets :=
  let day := Int.fdiv seconds 86400
  let time := (Int.fmod seconds 86400).toNat
  let date := Timestamp.dateOfDay day
  let hour := time / 3600
  let minute := time / 60 % 60
  let second := time % 60
  let dayOfWeek := (Int.fmod (day + 4) 7).toNat
  let dayOfYear := (day - dayOf date.year 1 1).toNat
  let name (names : List String) (i : Nat) : Octets := (names.getD i "").toList
  let two (n : Nat) : Option Octets := some (field flag '0' 2 n)
  match c with
  | 'a' => some ((name days dayOfWeek).take 3)
  | 'A' => some (name days dayOfWeek)
  | 'b' | 'h' => some ((name months (date.month - 1)).take 3)
  | 'B' => some (name months (date.month - 1))
  | 'c' => some (show_ "%a %b %e %H:%M:%S %Y".toList)
  | 'C' => two (date.year.toNat / 100)
  | 'd' => two date.day
  | 'D' | 'x' => some (show_ "%m/%d/%y".toList)
  | 'e' => some (field flag ' ' 2 date.day)
  | 'F' => some (show_ "%Y-%m-%d".toList)
  | 'H' => two hour
  | 'I' => two ((hour + 11) % 12 + 1)
  | 'j' => some (field flag '0' 3 (dayOfYear + 1))
  | 'k' => some (field flag ' ' 2 hour)
  | 'l' => some (field flag ' ' 2 ((hour + 11) % 12 + 1))
  | 'm' => two date.month
  | 'M' => two minute
  | 'n' => some ['\n']
  | 'N' => some (field flag '0' 9 nanos)
  | 'p' => some (if hour < 12 then "AM".toList else "PM".toList)
  | 'P' => some (if hour < 12 then "am".toList else "pm".toList)
  | 'q' => some (Octets.ofNat ((date.month + 2) / 3))
  | 'r' => some (show_ "%I:%M:%S %p".toList)
  | 'R' => some (show_ "%H:%M".toList)
  | 's' => some (Octets.ofInt seconds)
  | 'S' => two second
  | 't' => some ['\t']
  | 'T' | 'X' => some (show_ "%H:%M:%S".toList)
  | 'u' => some (Octets.ofNat (if dayOfWeek = 0 then 7 else dayOfWeek))
  | 'U' => two (week dayOfYear dayOfWeek 0)
  | 'w' => some (Octets.ofNat dayOfWeek)
  | 'W' => two (week dayOfYear dayOfWeek 1)
  | 'y' => two (date.year.toNat % 100)
  | 'Y' => some (field flag '0' 4 date.year.toNat)
  | 'z' => some "+0000".toList
  | 'Z' => some "UTC".toList
  | '%' => some ['%']
  | _ => none

/-- A moment by a format; `depth` bounds how often letters stand for formats. -/
def render (seconds : Int) (nanos : Nat) : Nat → Octets → Octets
  | 0, _ => []
  | depth + 1, format =>
    let rec go : Octets → Octets
      | '%' :: ':' :: 'z' :: rest => "+00:00".toList ++ go rest
      | '%' :: '3' :: 'N' :: rest => field none '0' 3 (nanos / 1000000) ++ go rest
      | '%' :: c :: d :: rest =>
        if ['-', '_', '0', '^', '#'].contains c then
          match shown (render seconds nanos depth) seconds nanos (some c) d with
          | some text => (if c = '^' then text.map Char.toUpper else text) ++ go rest
          | none => '%' :: c :: go (d :: rest)
        else
          match shown (render seconds nanos depth) seconds nanos none c with
          | some text => text ++ go (d :: rest)
          | none => '%' :: c :: go (d :: rest)
      | '%' :: c :: rest =>
        ((shown (render seconds nanos depth) seconds nanos none c).getD ['%', c]) ++ go rest
      | c :: rest => c :: go rest
      | [] => []
    go format

end Calendar

/-- Tell the time. -/
def date (arguments : List Octets) : Running Unit := do
  let table : OptionTable :=
    ⟨"d:f:I::r:Rs:u", [("date", .always, 'd'), ("iso-8601", .perhaps, 'I'),
      ("reference", .always, 'r'), ("rfc-email", .never, 'R'), ("set", .always, 's'),
      ("utc", .never, 'u'), ("universal", .never, 'u')], true⟩
  let chosen ← table.read arguments 1
  let clock ← Running.ask Course.now
  let now : Int := Calendar.clockStart + clock.nanoseconds / 1000000000
  let invalid {α : Type} (text : Octets) : Running α :=
    Running.fail ("invalid date ".toList ++ Running.quoted text) 1
  let (seconds, nanos) ← match chosen.value? 'd' with
    | some text =>
      match Calendar.moment? now text with
      | some seconds => pure (seconds, 0)
      | none => invalid text
    | none => pure (now, clock.nanoseconds % 1000000000)
  let format ← match chosen.operands with
    | ('+' :: format) :: [] => pure format
    | [] =>
      if chosen.has 'R' then pure "%a, %d %b %Y %H:%M:%S %z".toList
      else if chosen.has 'I' then
        let precision := (chosen.value? 'I').getD "date".toList
        pure (if precision.head? = some 'd' then "%F"
          else if precision.head? = some 'h' then "%FT%H%:z"
          else if precision.head? = some 'm' then "%FT%H:%M%:z"
          else "%FT%T%:z").toList
      else pure "%a %b %e %T %Z %Y".toList
    | [text] => invalid text
    | _ :: excess :: _ =>
      Running.failUsage ("extra operand ".toList ++ Running.quoted excess) 1
  Running.putLine (Calendar.render seconds nanos 3 format)

/-- Tell facts about the system. -/
def uname (arguments : List Octets) : Running Unit := do
  let table : OptionTable :=
    ⟨"asnrvmpio", [("all", .never, 'a'), ("kernel-name", .never, 's'), ("machine", .never, 'm'),
      ("nodename", .never, 'n'), ("operating-system", .never, 'o')], true⟩
  let chosen ← table.read arguments 1
  match chosen.operands with
  | excess :: _ => Running.failUsage ("extra operand ".toList ++ Running.quoted excess) 1
  | [] =>
    let facts : List (Char × String) :=
      [('s', "Linux"), ('n', "localhost"), ('r', "6.1.0"), ('v', "#1 SMP"), ('m', "x86_64"),
        ('o', "GNU/Linux")]
    let wanted := facts.filter (fun entry => chosen.has 'a' || chosen.has entry.1)
    let wanted := if chosen.options.isEmpty then facts.take 1 else wanted
    Running.putLine (Octets.joined [' '] (wanted.map (fun entry => entry.2.toList)))

/-- Tell which terminal the input is. -/
def tty (arguments : List Octets) : Running Unit := do
  let table : OptionTable := ⟨"s", [("quiet", .never, 's'), ("silent", .never, 's')], true⟩
  let chosen ← table.read arguments 2
  match chosen.operands with
  | excess :: _ => Running.failUsage ("extra operand ".toList ++ Running.quoted excess) 2
  | [] =>
    if ← Running.ask (Course.isTerminal 0) then
      if !chosen.has 's' then Running.putLine "/dev/pts/0".toList
    else
      if !chosen.has 's' then Running.putLine "not a tty".toList
      Running.setStatus 1

/-- Programs that tell facts. -/
def telling : List Program :=
  [.plain "date" date, .plain "uname" uname, .plain "tty" tty]

end PubSubTrials.Programs
