import PubSubTrials.Programs.Input
import PubSubTrials.Text.Classes
import PubSubTrials.Text.Format

/-!
# Programs that change characters

A set of characters is written with ranges, classes and repetitions. Characters of one set are put
in the place of those of another, taken away, or kept only once in a row.
-/

namespace PubSubTrials.Programs

open Host (Course)

namespace CharacterSet

/-- A piece of a set as it is written. -/
inductive Item where
  | chars (chars : List Char)
  /-- A character again and again: as often as said, or as often as is needed. -/
  | repeated (char : Char) (count : Option Nat)
  deriving Repr

/-- One character, which may be written with a backslash, and what comes after it. -/
def one? (text : Octets) : Option (Char × Octets) :=
  match text with
  | [] => none
  | ['\\'] => some ('\\', [])
  | '\\' :: rest =>
    match Format.escape (Format.Style.inEcho .program) rest with
    | ([c], rest) => some (c, rest)
    | _ =>
      match rest with
      | c :: rest => some (c, rest)
      | [] => none
  | c :: rest => some (c, rest)

/-- A count in octal digits if it starts with a zero, and in decimal ones otherwise. -/
def countOf (digits : Octets) : Option Nat :=
  if digits.isEmpty then none
  else if digits.head? = some '0' then some (Format.octalValue digits)
  else (String.ofList digits).toNat?

/-- A piece in brackets at the start of a text, and what comes after it. -/
def bracketed? (text : Octets) : Option (Except Octets (Item × Octets)) :=
  match text with
  | '[' :: ':' :: rest =>
    let (name, after) := Octets.cutAt (· = ':') rest
    match after with
    | ':' :: ']' :: after =>
      match CharClass.members? (String.ofList name) with
      | some chars => some (.ok (.chars chars, after))
      | none =>
        some (.error ("invalid character class ".toList ++ '\'' :: name ++ ['\'']))
    | _ => none
  | '[' :: '=' :: c :: '=' :: ']' :: after => some (.ok (.chars [c], after))
  | '[' :: rest =>
    match one? rest with
    | some (c, '*' :: after) =>
      let (digits, after) := Octets.cutAt (· = ']') after
      match after with
      | ']' :: after =>
        if digits.all Char.isDigit then
          let count := countOf digits
          some (.ok (.repeated c (if count = some 0 then none else count), after))
        else none
      | _ => none
    | _ => none
  | _ => none

/-- The pieces of a set. -/
def items : Nat → Octets → Except Octets (List Item)
  | 0, _ => .ok []
  | fuel + 1, text => do
    match bracketed? text with
    | some (.ok (item, rest)) => return item :: (← items fuel rest)
    | some (.error message) => throw message
    | none =>
      match one? text with
      | none => return []
      | some (first, '-' :: rest) =>
        match if rest.isEmpty then none else one? rest with
        | none => return .chars [first] :: (← items fuel ('-' :: rest))
        | some (last, after) =>
          if last < first then
            throw ("range-endpoints of '".toList ++ [first, '-', last] ++
              "' are in reverse collating sequence order".toList)
          else
            let chars := (List.range' first.toNat (last.toNat + 1 - first.toNat)).map Char.ofNat
            return .chars chars :: (← items fuel after)
      | some (c, rest) => return .chars [c] :: (← items fuel rest)

/-- Number of characters of pieces, those that are as often as is needed left out. -/
def sizeOf (items : List Item) : Nat :=
  items.foldl (fun n item =>
    match item with
    | .chars chars => n + chars.length
    | .repeated _ count => n + count.getD 0) 0

/-- The characters of a set; one that is repeated as often as needed fills it up to a size. -/
def expand (size : Nat) (items : List Item) : List Char :=
  items.flatMap (fun item =>
    match item with
    | .chars chars => chars
    | .repeated c count => List.replicate (count.getD (size - sizeOf items)) c)

/-- The characters of a set that is written in a certain way. -/
def ofText (size : Nat) (text : Octets) : Except Octets (List Char) :=
  (items (text.length + 1) text).map (expand size)

end CharacterSet

/-- What is done with characters. -/
structure Exchange where
  /-- Characters that are taken away. -/
  removed : List Char
  /-- What is put in the place of characters. -/
  places : List (Char × Char)
  /-- Characters of which only one in a row is kept. -/
  squeezed : List Char

namespace Exchange

/-- A text with its characters changed; `last` is the one that was written last. -/
def apply (exchange : Exchange) : Option Char → Octets → Octets × Option Char
  | last, text =>
    let (reversed, last) := text.foldl (fun (taken, last) c =>
      if exchange.removed.contains c then (taken, last)
      else
        let c := (exchange.places.lookup c).getD c
        if last = some c ∧ exchange.squeezed.contains c then (taken, last)
        else (c :: taken, some c)) (([], last) : Octets × Option Char)
    (reversed.reverse, last)

end Exchange

/-- The characters that are not in a set. -/
def complementOf (chars : List Char) : List Char :=
  ((List.range 256).map Char.ofNat).filter (fun c => !chars.contains c)

/-- Pairs of the characters of two sets; the last one of the second set stands for all others. -/
def pairsOf (first second : List Char) (cutsShort : Bool) : List (Char × Char) :=
  let missing := first.length - second.length
  let second :=
    match second.getLast? with
    | some last => if cutsShort then second else second ++ List.replicate missing last
    | none => second
  (first.zip second).reverse

/-- Change characters of the input. -/
def tr (arguments : List Octets) : Running Unit := do
  let table : OptionTable :=
    ⟨"cCdst", [("complement", .never, 'c'), ("delete", .never, 'd'),
      ("squeeze-repeats", .never, 's'), ("truncate-set1", .never, 't')], false⟩
  let chosen ← table.read arguments 1
  let deletes := chosen.has 'd'
  let squeezes := chosen.has 's'
  let least := if deletes != squeezes then 1 else 2
  let most := if deletes && !squeezes then 1 else 2
  let complainUsage (message : Octets) (hint : String) : Running Unit := do
    Running.warn message
    if !hint.isEmpty then Running.tell (hint ++ "\n").toList
    Running.tell ("Try '".toList ++ (← Running.name) ++
      " --help' for more information.\n".toList)
    throw 1
  let set (size : Nat) (text : Octets) : Running (List Char) := do
    match CharacterSet.ofText size text with
    | .ok chars => return chars
    | .error message => Running.fail message 1
  if chosen.operands.length < least then
    match chosen.operands with
    | [] => complainUsage "missing operand".toList ""
    | first :: _ =>
      complainUsage ("missing operand after ".toList ++ Running.quoted first)
        (if squeezes then "Two strings must be given when both deleting and squeezing repeats."
          else "Two strings must be given when translating.")
  else
    match chosen.operands.drop most with
    | extra :: _ =>
      complainUsage ("extra operand ".toList ++ Running.quoted extra)
        (if most = 1 ∧ chosen.operands.length = 2 then
          "Only one string may be given when deleting without squeezing repeats." else "")
    | [] =>
      let first ← set 0 (chosen.operands.head?.getD [])
      let first := if chosen.has 'c' ∨ chosen.has 'C' then complementOf first else first
      let second ← match chosen.operands[1]? with
        | some text => do pure (some (← set first.length text))
        | none => pure none
      match second with
      | some [] =>
        if !deletes then
          Running.fail "when not truncating set1, string2 must be non-empty".toList 1
      | _ => pure ()
      let exchange : Exchange :=
        if deletes then ⟨first, [], if squeezes then second.getD [] else []⟩
        else
          match second with
          | none => ⟨[], [], first⟩
          | some second =>
            ⟨[], pairsOf first second (chosen.has 't'), if squeezes then second else []⟩
      pass exchange none Course.manyTimes
where
  /-- Change what comes until the end. -/
  pass (exchange : Exchange) (last : Option Char) : Nat → Running Unit
    | 0 => return ()
    | fuel + 1 => do
      match ← Running.ask (Course.read (.atMost Course.readAtOnce) 0) with
      | .ok [] => return ()
      | .ok text =>
        let (text, last) := exchange.apply last text
        Running.put text
        pass exchange last fuel
      | .error error =>
        Running.fail ("read error: ".toList ++ error.reason.toList) 1

/-! ## Columns -/

/-- Places from one to another, which may be missing. -/
abbrev Range := Nat × Option Nat

namespace Range

/-- The range that a text stands for. -/
def ofText (isField : Bool) (text : Octets) : Except Octets Range :=
  let wrong : Octets :=
    (if isField then "invalid field value " else "invalid byte/character position ").toList ++
      Running.quoted text
  let zero : Octets :=
    (if isField then "fields are numbered from 1"
     else "byte/character positions are numbered from 1").toList
  let number (digits : Octets) (missing : Option Nat) : Except Octets (Option Nat) :=
    if digits.isEmpty then .ok missing
    else if digits.all Char.isDigit then
      match (String.ofList digits).toNat? with
      | some 0 => .error zero
      | n => .ok n
    else .error wrong
  match Octets.cutAt (· = '-') text with
  | (first, _ :: last) =>
    if first.isEmpty ∧ last.isEmpty then
      .error "invalid range with no endpoint: -".toList
    else do
      let start := (← number first (some 1)).getD 1
      match ← number last none with
      | some stop =>
        if stop < start then throw "invalid decreasing range".toList
        else return (start, some stop)
      | none => return (start, none)
  | (first, []) => do
    match ← number first none with
    | some n => return (n, some n)
    | none => throw zero

/-- Whether a place lies in a range. -/
def holds (range : Range) (place : Nat) : Bool :=
  range.1 ≤ place && range.2.all (fun last => place ≤ last)

end Range

/-- Keep parts of lines. -/
def cut (arguments : List Octets) : Running Unit := do
  let table : OptionTable :=
    ⟨"b:c:d:f:nsz", [("bytes", .always, 'b'), ("characters", .always, 'c'),
      ("delimiter", .always, 'd'), ("fields", .always, 'f'), ("only-delimited", .never, 's'),
      ("complement", .never, 'C'), ("output-delimiter", .always, 'O'),
      ("zero-terminated", .never, 'z')], true⟩
  let chosen ← table.read arguments 1
  let lists := chosen.options.filter (fun entry => ['b', 'c', 'f'].contains entry.1)
  match lists with
  | [] =>
    Running.failUsage "you must specify a list of bytes, characters, or fields".toList 1
  | _ :: _ :: _ => Running.failUsage "only one list may be specified".toList 1
  | [(letter, text)] =>
    let isField := letter = 'f'
    match chosen.value? 'd' with
    | some delimiter =>
      if 1 < delimiter.length then
        Running.failUsage "the delimiter must be a single character".toList 1
      else if !isField then
        Running.failUsage
          "an input delimiter may be specified only when operating on fields".toList 1
    | none => pure ()
    let parts := (text.getD []).map (fun c => if c = ' ' ∨ c = '\t' then ',' else c)
    match (Octets.splitOn ',' parts).mapM (Range.ofText isField) with
    | .error message => Running.failUsage message 1
    | .ok ranges =>
      let delimiter := ((chosen.value? 'd').getD ['\t']).head?.getD '\x00'
      let wanted (place : Nat) : Bool :=
        ranges.any (fun range => Range.holds range place) != chosen.has 'C'
      let separator := if chosen.has 'z' then '\x00' else '\n'
      let _ ← foldInputs separator complainInput (fun () line => do
        if isField then
          let fields := Octets.splitOn delimiter line.text
          if fields.length = 1 then
            if !chosen.has 's' then Running.put (line.text ++ [separator])
          else
            let kept := fields.zipIdx.filterMap (fun (field, n) =>
              if wanted (n + 1) then some field else none)
            let between := (chosen.value? 'O').getD [delimiter]
            Running.put (Octets.joined between kept ++ [separator])
        else
          let places := line.text.zipIdx.filter (fun (_, n) => wanted (n + 1))
          let text := match chosen.value? 'O' with
            | none => places.map Prod.fst
            | some between =>
              (places.foldl (fun (text, last) (c, n) =>
                (text ++ (if last.any (· + 1 < n) then between else []) ++ [c], some n))
                (([], none) : Octets × Option Nat)).1
          Running.put (text ++ [separator])
        return .next ()) (inputsOf chosen.operands) ()

/-- The first lines of several inputs, next to each other; `sources` holds what is left of each
input, and `names` says which of them every column comes from. -/
def pastedRows (delimiters : Octets) (names : List Nat) : Nat → List (List Octets) → List Octets
  | 0, _ => []
  | fuel + 1, sources =>
    let (row, sources, found) := names.foldl (fun (row, sources, found) n =>
      match (sources[n]?).getD [] with
      | line :: rest => (row ++ [line], sources.set n rest, true)
      | [] => (row ++ [[]], sources, found))
      (([], sources, false) : List Octets × List (List Octets) × Bool)
    if !found then []
    else
      let separated := row.zipIdx.flatMap (fun (text, n) =>
        if n = 0 ∨ delimiters.isEmpty then text
        else (delimiters[(n - 1) % delimiters.length]?).toList ++ text)
      separated :: pastedRows delimiters names fuel sources

/-- Put lines of inputs next to each other. -/
def paste (arguments : List Octets) : Running Unit := do
  let table : OptionTable :=
    ⟨"d:sz", [("delimiters", .always, 'd'), ("serial", .never, 's')], true⟩
  let chosen ← table.read arguments 1
  let listed := (chosen.value? 'd').getD ['\t']
  let delimiters := (Format.unescape (Format.Style.inEcho .program) (listed.length + 1) listed).1
  let operands := inputsOf chosen.operands
  let (places, distinct) := operands.foldl (fun (places, known) name =>
    match if name = ['-'] then known.findIdx? (· = name) else none with
    | some place => (places ++ [place], known)
    | none => (places ++ [known.length], known ++ [name]))
    (([], []) : List Nat × List Octets)
  let sources ← distinct.mapM (fun name => do
    return (linesOf '\n' (← textOf name complainInput)).map Line.text)
  if chosen.has 's' then
    for lines in sources do
      let row := lines.zipIdx.flatMap (fun (text, n) =>
        if n = 0 ∨ delimiters.isEmpty then text
        else (delimiters[(n - 1) % delimiters.length]?).toList ++ text)
      Running.putLine row
  else
    let most := sources.foldl (fun n lines => n + lines.length) 1
    for row in pastedRows delimiters places most sources do
      Running.putLine row

/-- Programs that change characters. -/
def aboutCharacters : List Program :=
  [.plain "tr" tr, .plain "cut" cut, .plain "paste" paste]

end PubSubTrials.Programs
