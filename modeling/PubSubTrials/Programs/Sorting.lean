import PubSubTrials.Decimal.Quantity
import PubSubTrials.Programs.Lines

/-!
# Programs that put lines in order

Lines are compared by keys, each of them a part of the line that is read as a text or as a number;
lines with equal keys are compared as a whole. Other programs take or drop repeated lines and
compare the lines of two inputs in order.
-/

namespace PubSubTrials.Programs

open Decimal (Quantity)

/-! ## Keys -/

/-- How parts of lines are compared. -/
structure Manner where
  letters : List Char
  deriving DecidableEq, Repr

namespace Manner

/-- Whether something holds of a comparison. -/
def has (manner : Manner) (letter : Char) : Bool := manner.letters.contains letter

/-- A number in a text: whether it is negative, its whole digits and its others. -/
def numberOf (text : Octets) : Bool × Octets × Octets :=
  let bare := text.dropWhile Octets.isSpace
  let (negative, bare) := match bare with
    | '-' :: rest => (true, rest)
    | rest => (false, rest)
  let whole := bare.takeWhile Char.isDigit
  let fraction := match bare.drop whole.length with
    | '.' :: rest => rest.takeWhile Char.isDigit
    | _ => []
  let whole := whole.dropWhile (· = '0')
  let fraction := (fraction.reverse.dropWhile (· = '0')).reverse
  (negative && !(whole.isEmpty && fraction.isEmpty), whole, fraction)

/-- The order of two texts by their characters. -/
def order : Octets → Octets → Ordering
  | [], [] => .eq
  | [], _ :: _ => .lt
  | _ :: _, [] => .gt
  | a :: as, b :: bs => (compare a.toNat b.toNat).then (order as bs)

/-- The order of two numbers in texts. -/
def numericOrder (a b : Octets) : Ordering :=
  let (negativeA, wholeA, fractionA) := numberOf a
  let (negativeB, wholeB, fractionB) := numberOf b
  let magnitude :=
    ((compare wholeA.length wholeB.length).then (order wholeA wholeB)).then
      (order fractionA fractionB)
  match negativeA, negativeB with
  | true, false => .lt
  | false, true => .gt
  | false, false => magnitude
  | true, true => magnitude.swap

/-- The order of two quantities in texts; what is none comes first. -/
def quantityOrder (a b : Octets) : Ordering :=
  let bare (text : Octets) : Option Quantity :=
    (Quantity.ofText? (text.dropWhile Octets.isSpace)).map (fun found => found.value)
  match bare a, bare b with
  | none, none => .eq
  | none, some _ => .lt
  | some _, none => .gt
  | some x, some y => if x.less y then .lt else if y.less x then .gt else .eq

/-- The rank of the unit that follows a number. -/
def unitRank (text : Octets) : Nat :=
  let bare := (text.dropWhile Octets.isSpace).dropWhile (fun c =>
    c.isDigit || c = '.' || c = '-')
  match bare.head? with
  | some c => ("KMGTPEZY".toList.findIdx? (· = c.toUpper)).elim 0 (· + 1)
  | none => 0

/-- The rank of the month whose name starts a text. -/
def monthRank (text : Octets) : Nat :=
  let name := String.ofList (((text.dropWhile Octets.isSpace).take 3).map Char.toUpper)
  (["JAN", "FEB", "MAR", "APR", "MAY", "JUN", "JUL", "AUG", "SEP", "OCT", "NOV",
    "DEC"].findIdx? (· = name)).elim 0 (· + 1)

/-- The order of two texts in which rows of digits count as numbers. -/
def versionOrder : Nat → Octets → Octets → Ordering
  | 0, a, b => order a b
  | fuel + 1, a, b =>
    let textA := a.takeWhile (fun c => !c.isDigit)
    let textB := b.takeWhile (fun c => !c.isDigit)
    let digitsA := (a.drop textA.length).takeWhile Char.isDigit
    let digitsB := (b.drop textB.length).takeWhile Char.isDigit
    let first := (order textA textB).then (numericOrder digitsA digitsB)
    if first ≠ .eq ∨ (digitsA.isEmpty ∧ digitsB.isEmpty) then first
    else
      versionOrder fuel (a.drop (textA.length + digitsA.length))
        (b.drop (textB.length + digitsB.length))

/-- A text as far as it counts. -/
def counted (manner : Manner) (text : Octets) : Octets :=
  let text := if manner.has 'b' then text.dropWhile Octets.isSpace else text
  let text :=
    if manner.has 'd' then text.filter (fun c => c.isAlphanum || Octets.isBlank c)
    else if manner.has 'i' then text.filter (fun c => 32 ≤ c.toNat && c.toNat < 127)
    else text
  if manner.has 'f' then text.map Char.toUpper else text

/-- The order of two texts. -/
def compareTexts (manner : Manner) (a b : Octets) : Ordering :=
  let result :=
    if manner.has 'n' then numericOrder a b
    else if manner.has 'g' then quantityOrder a b
    else if manner.has 'h' then (compare (unitRank a) (unitRank b)).then (numericOrder a b)
    else if manner.has 'M' then compare (monthRank a) (monthRank b)
    else
      let a := manner.counted a
      let b := manner.counted b
      if manner.has 'V' then versionOrder (a.length + b.length + 1) a b else order a b
  if manner.has 'r' then result.swap else result

end Manner

/-- A place in a line: a field and a character in it. -/
structure Place where
  field : Nat
  character : Nat
  skipsBlanks : Bool
  deriving Repr

/-- A part of lines by which they are compared. -/
structure SortKey where
  start : Place
  stop : Option Place
  manner : Manner
  deriving Repr

namespace SortKey

/-- Letters that say how keys are compared. -/
def letters : List Char := "bdfghiMnRrV".toList

/-- A place and letters from the start of a text. -/
def placeOf? (text : Octets) (usual : Nat) : Option (Place × List Char × Octets) :=
  let digits := text.takeWhile Char.isDigit
  let rest := text.drop digits.length
  let (inner, rest) := match rest with
    | '.' :: more =>
      let inner := more.takeWhile Char.isDigit
      (String.ofList inner |>.toNat?, more.drop inner.length)
    | rest => (some usual, rest)
  let found := rest.takeWhile letters.contains
  match (String.ofList digits).toNat?, inner with
  | some (n + 1), some character =>
    some (⟨n + 1, character, found.contains 'b'⟩, found, rest.drop found.length)
  | _, _ => none

/-- The key that a text stands for; `usual` holds if it has no letters of its own. -/
def ofText? (usual : Manner) (text : Octets) : Option SortKey := do
  let (start, first, rest) ← placeOf? text 1
  let manner (letters : List Char) : Manner :=
    if letters.isEmpty then usual else ⟨letters.filter (· ≠ 'b')⟩
  match rest with
  | [] =>
    return ⟨{ start with skipsBlanks := start.skipsBlanks || (first.isEmpty && usual.has 'b') },
      none, manner first⟩
  | ',' :: rest =>
    let (stop, second, rest) ← placeOf? rest 0
    if rest.isEmpty then
      return ⟨{ start with
        skipsBlanks := start.skipsBlanks || (first.isEmpty && second.isEmpty && usual.has 'b') },
        some stop, manner (first ++ second)⟩
    else none
  | _ => none

/-- Number of characters of a line before and of its fields. -/
def fieldEnds (separator : Option Char) : Nat → Octets → Nat → List (Nat × Nat)
  | 0, _, _ => []
  | fuel + 1, text, start =>
    match separator with
    | some c =>
      let field := text.takeWhile (· ≠ c)
      let stop := start + field.length
      match text.drop field.length with
      | _ :: rest => (start, stop) :: fieldEnds separator fuel rest (stop + 1)
      | [] => [(start, stop)]
    | none =>
      if text.isEmpty then []
      else
        let blanks := text.takeWhile Octets.isBlank
        let rest := text.drop blanks.length
        let word := rest.takeWhile (fun c => c ≠ ' ' && c ≠ '\t')
        let stop := start + blanks.length + word.length
        (start, stop) :: fieldEnds separator fuel (rest.drop word.length) stop

/-- Number of characters of a line before a place. -/
def offset (line : Octets) (fields : List (Nat × Nat)) (place : Place) (isStop : Bool) : Nat :=
  match fields[place.field - 1]? with
  | none => line.length
  | some (start, stop) =>
    if isStop ∧ place.character = 0 then stop
    else
      let blanks :=
        if place.skipsBlanks then
          ((line.drop start).takeWhile Octets.isBlank).length
        else 0
      min line.length
        (start + blanks + (if isStop then place.character else place.character - 1))

/-- The part of a line that is a key. -/
def part (key : SortKey) (separator : Option Char) (line : Octets) : Octets :=
  let fields := fieldEnds separator (line.length + 1) line 0
  let start := offset line fields key.start false
  let stop := match key.stop with
    | some place => offset line fields place true
    | none => line.length
  (line.take stop).drop start

end SortKey

/-- How lines are put in order. -/
structure Sorter where
  keys : List SortKey
  separator : Option Char
  manner : Manner
  isStable : Bool
  isUnique : Bool

namespace Sorter

/-- The order of two lines by their keys. -/
def keyOrder (sorter : Sorter) (a b : Octets) : Ordering :=
  if sorter.keys.isEmpty then sorter.manner.compareTexts a b
  else
    sorter.keys.foldl (fun result key =>
      result.then (key.manner.compareTexts (key.part sorter.separator a)
        (key.part sorter.separator b))) .eq

/-- The order of two lines. -/
def order (sorter : Sorter) (a b : Octets) : Ordering :=
  let result := sorter.keyOrder a b
  if sorter.isStable ∨ sorter.isUnique then result
  else
    let last := Manner.order a b
    result.then (if sorter.manner.has 'r' then last.swap else last)

/-- Lines without those whose keys are those of the line before. -/
def withoutRepeats (sorter : Sorter) : List Octets → List Octets
  | a :: b :: rest =>
    if sorter.keyOrder a b = .eq then withoutRepeats sorter (a :: rest)
    else a :: withoutRepeats sorter (b :: rest)
  | lines => lines
  termination_by lines => lines.length

/-- Lines in order. -/
def sorted (sorter : Sorter) (lines : List Octets) : List Octets :=
  let ordered := lines.mergeSort (fun a b => sorter.order a b != .gt)
  if sorter.isUnique then sorter.withoutRepeats ordered else ordered

/-- The first line that is not in order, with its number. -/
def disorder? (sorter : Sorter) : Nat → List Octets → Option (Nat × Octets)
  | n, a :: b :: rest =>
    let wrong := match sorter.order a b with
      | .gt => true
      | .eq => sorter.isUnique
      | .lt => false
    if wrong then some (n + 1, b) else disorder? sorter (n + 1) (b :: rest)
  | _, _ => none

end Sorter

/-- Put lines in order. -/
def sort (arguments : List Octets) : Running Unit := do
  let table : OptionTable :=
    ⟨"bcCdfghik:mMno:rRsS:t:T:uVz", [("ignore-leading-blanks", .never, 'b'),
      ("check", .perhaps, 'c'), ("dictionary-order", .never, 'd'), ("ignore-case", .never, 'f'),
      ("general-numeric-sort", .never, 'g'), ("human-numeric-sort", .never, 'h'),
      ("key", .always, 'k'), ("merge", .never, 'm'), ("month-sort", .never, 'M'),
      ("numeric-sort", .never, 'n'), ("output", .always, 'o'), ("reverse", .never, 'r'),
      ("stable", .never, 's'), ("field-separator", .always, 't'), ("unique", .never, 'u'),
      ("version-sort", .never, 'V'), ("zero-terminated", .never, 'z')], true⟩
  let chosen ← table.read arguments 2
  let usual : Manner := ⟨SortKey.letters.filter chosen.has⟩
  let keys ← (chosen.options.filter (fun entry => entry.1 = 'k')).mapM (fun (_, text) => do
    match SortKey.ofText? usual (text.getD []) with
    | some key => return key
    | none =>
      Running.fail ("invalid field specification ".toList ++ Running.quoted (text.getD [])) 2)
  let separator ← match chosen.value? 't' with
    | none => pure none
    | some [c] => pure (some c)
    | some ['\\', '0'] => pure (some '\x00')
    | some [] => Running.fail "empty tab".toList 2
    | some text => Running.fail ("multi-character tab ".toList ++ Running.quoted text) 2
  let sorter : Sorter := ⟨keys, separator, usual, chosen.has 's', chosen.has 'u'⟩
  let ending := if chosen.has 'z' then '\x00' else '\n'
  let refuse (name : Octets) (error : SystemError) : Running Unit := do
    let verb := if error = .isDirectory then "read failed: " else "cannot read: "
    Running.fail (verb.toList ++ name ++ [':', ' '] ++ error.reason.toList) 2
  let names := inputsOf chosen.operands
  let texts ← names.mapM (textOf · refuse)
  let lines := texts.flatMap (fun text => (linesOf ending text).map Line.text)
  if chosen.has 'c' ∨ chosen.has 'C' then
    match sorter.disorder? 1 lines with
    | none => return ()
    | some (number, line) =>
      if chosen.has 'C' then throw 1
      else
        Running.fail ((names.head?.getD []) ++ ':' :: Octets.ofNat number ++
          ": disorder: ".toList ++ line) 1
  else
    let output := (sorter.sorted lines).flatMap (· ++ [ending])
    match chosen.value? 'o' with
    | none => Running.put output
    | some path =>
      match ← Running.ask (Host.Course.openFile ⟨Octets.toText path⟩ .overwrite) with
      | .ok handle =>
        let descriptor ← Running.ask (Host.Course.keep handle)
        let _ ← Running.ask (Host.Course.write descriptor output)
        Running.ask (Host.Course.redirect descriptor none)
      | .error error =>
        Running.fail ("open failed: ".toList ++ path ++ [':', ' '] ++ error.reason.toList) 2

/-! ## Repeated lines -/

/-- Lines that count as the same, the last one first, with their number. -/
abbrev Group := Option (Octets × Nat)

/-- Keep one of several lines in a row that count as the same. -/
def uniq (arguments : List Octets) : Running Unit := do
  let table : OptionTable :=
    ⟨"cdDf:is:uw:z", [("count", .never, 'c'), ("repeated", .never, 'd'),
      ("skip-fields", .always, 'f'), ("ignore-case", .never, 'i'), ("skip-chars", .always, 's'),
      ("unique", .never, 'u'), ("check-chars", .always, 'w')], true⟩
  let chosen ← table.read arguments 1
  let number (letter : Char) : Running (Option Nat) := do
    match chosen.value? letter with
    | none => return none
    | some text =>
      match (String.ofList text).toNat? with
      | some n => return some n
      | none =>
        let what := if letter = 'f' then "fields to skip" else if letter = 's' then
          "bytes to skip" else "bytes to compare"
        Running.fail (text ++ ": invalid number of ".toList ++ what.toList) 1
  let fields := (← number 'f').getD 0
  let skipped := (← number 's').getD 0
  let width ← number 'w'
  let separator := if chosen.has 'z' then '\x00' else '\n'
  let withoutField (text : Octets) : Octets :=
    (text.dropWhile Octets.isSpace).dropWhile (fun c => !Octets.isSpace c)
  let key (text : Octets) : Octets :=
    let rest := (List.range fields).foldl (fun text _ => withoutField text) text
    let rest := rest.drop skipped
    let rest := match width with
      | some n => rest.take n
      | none => rest
    if chosen.has 'i' then rest.map Char.toLower else rest
  let finish (group : Group) : Running Unit := do
    match group with
    | none => return ()
    | some (text, count) =>
      let wanted := (count = 1 || !chosen.has 'u') && (1 < count || !chosen.has 'd')
      if wanted ∧ !chosen.has 'D' then
        let lead := if chosen.has 'c' then inColumn 7 count ++ [' '] else []
        Running.put (lead ++ text ++ [separator])
  match chosen.operands with
  | _ :: _ :: extra :: _ =>
    Running.failUsage ("extra operand ".toList ++ Running.quoted extra) 1
  | operands =>
    match operands[1]? with
    | some path =>
      match ← Running.ask (Host.Course.openFile ⟨Octets.toText path⟩ .overwrite) with
      | .ok handle => Running.ask (Host.Course.redirect 1 (some handle))
      | .error error => Running.fail (path ++ [':', ' '] ++ error.reason.toList) 1
    | none => pure ()
    let last ← foldInputs separator complainInput (fun (group : Group) line => do
      match group with
      | none => return .next (some (line.text, 1))
      | some (text, count) =>
        if key text = key line.text then
          if chosen.has 'D' then
            if count = 1 then Running.put (text ++ [separator])
            Running.put (line.text ++ [separator])
          return .next (some (text, count + 1))
        else
          finish group
          return .next (some (line.text, 1))) (inputsOf (operands.take 1)) none
    finish last

/-! ## Two inputs -/

/-- Lines of two inputs in order: those of the first one, of the second one, and of both. -/
def merged : Nat → List Octets → List Octets → List (Nat × Octets)
  | 0, _, _ => []
  | _ + 1, [], second => second.map (fun line => (2, line))
  | _ + 1, first, [] => first.map (fun line => (1, line))
  | fuel + 1, a :: as, b :: bs =>
    match Manner.order a b with
    | .eq => (3, a) :: merged fuel as bs
    | .lt => (1, a) :: merged fuel as (b :: bs)
    | .gt => (2, b) :: merged fuel (a :: as) bs

/-- Compare the lines of two inputs that are in order. -/
def comm (arguments : List Octets) : Running Unit := do
  let chosen ← OptionTable.read (.ofLetters "123") arguments 1
  match chosen.operands with
  | [first, second] =>
    let lines (name : Octets) : Running (List Octets) := do
      return (linesOf '\n' (← textOf name (fun name error =>
        Running.fail (name ++ [':', ' '] ++ error.reason.toList) 1))).map Line.text
    let first ← lines first
    let second ← lines second
    for (column, line) in merged (first.length + second.length + 1) first second do
      let letter := Char.ofNat ('0'.toNat + column)
      if !chosen.has letter then
        let before := ['1', '2'].filter (fun c => c < letter && !chosen.has c)
        Running.putLine (before.map (fun _ => '\t') ++ line)
  | [] => Running.failUsage "missing operand".toList 1
  | [only] => Running.failUsage ("missing operand after ".toList ++ Running.quoted only) 1
  | _ :: _ :: extra :: _ =>
    Running.failUsage ("extra operand ".toList ++ Running.quoted extra) 1

/-- Compare two inputs octet by octet. -/
def cmp (arguments : List Octets) : Running Unit := do
  let table : OptionTable := ⟨"bli:n:s", [("silent", .never, 's'), ("quiet", .never, 's')], true⟩
  let chosen ← table.read arguments 2
  match chosen.operands with
  | first :: rest =>
    let second := rest.head?.getD ['-']
    let read (name : Octets) : Running Octets := textOf name (fun name error =>
      Running.fail (name ++ [':', ' '] ++ error.reason.toList) 2)
    let a ← read first
    let b ← read second
    let same := ((a.zip b).takeWhile (fun (x, y) => x = y)).map Prod.fst
    if a.length = b.length ∧ same.length = a.length then return ()
    else if chosen.has 's' then throw 1
    else
      let lines := same.count '\n'
      if same.length = min a.length b.length then
        let short := if a.length < b.length then first else second
        if same.isEmpty then
          Running.fail ("EOF on ".toList ++ short ++ " which is empty".toList) 1
        else
          Running.fail ("EOF on ".toList ++ short ++ " after byte ".toList ++
            Octets.ofNat same.length ++ ", in line ".toList ++ Octets.ofNat (lines + 1)) 1
      else
        Running.putLine (first ++ ' ' :: second ++ " differ: char ".toList ++
          Octets.ofNat (same.length + 1) ++ ", line ".toList ++ Octets.ofNat (lines + 1))
        throw 1
  | [] => Running.failUsage "missing operand after 'cmp'".toList 2

/-- Programs that put lines in order. -/
def aboutOrder : List Program :=
  [.plain "sort" sort, .plain "uniq" uniq, .plain "comm" comm, .plain "cmp" cmp]

end PubSubTrials.Programs
