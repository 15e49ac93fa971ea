import PubSubTrials.Text.Format
import PubSubTrials.Text.Regex

/-!
# Scripts that edit lines

A script is a row of commands of one letter, each for the lines that its addresses choose. Braces
keep commands together, and labels mark places to go on from.
-/

namespace PubSubTrials.Editing

/-- What chooses lines. -/
inductive Address where
  | line (number : Nat)
  | last
  /-- Lines that match; without a pattern the one that was used last counts. -/
  | matching (pattern : Option Regex.Pattern)
  /-- Every so many lines from one on. -/
  | stepping (first step : Nat)
  deriving Repr

/-- Where a row of lines ends. -/
inductive RangeEnd where
  | address (address : Address)
  /-- So many lines after its start. -/
  | after (count : Nat)
  /-- The next line with a number that is a multiple of another one. -/
  | multiple (step : Nat)
  deriving Repr

/-- The lines that a command is for. -/
structure Choice where
  first : Option Address
  last : Option RangeEnd
  /-- Whether the row may end with the line before the first one. -/
  fromZero : Bool
  negated : Bool
  deriving Repr

/-- How letters of a replacement are changed. -/
inductive Recasing where
  | upper
  | lower
  | nextUpper
  | nextLower
  | stop
  deriving DecidableEq, Repr

/-- A piece of a replacement. -/
inductive Piece where
  | text (text : Octets)
  | group (number : Nat)
  | recase (recasing : Recasing)
  deriving Repr

/-- A replacement of what matches. -/
structure Substitution where
  pattern : Option Regex.Pattern
  replacement : List Piece
  /-- The match from which on replacements are made. -/
  number : Nat
  all : Bool
  prints : Bool
  file : Option Octets
  deriving Repr

/-- What a command does. -/
inductive Operation where
  | opening
  | closing
  | label (name : Octets)
  | printNumber
  | append (text : Octets)
  | insert (text : Octets)
  | change (text : Octets)
  | branch (label : Octets)
  | branchIf (label : Octets)
  | branchUnless (label : Octets)
  | delete
  | deleteFirst
  | takeHeld (appends : Bool)
  | hold (appends : Bool)
  | exchange
  | list
  | next
  | nextAppended
  | print
  | printFirst
  | quit (status : Nat) (prints : Bool)
  | readFile (name : Octets)
  | writeFile (name : Octets) (onlyFirst : Bool)
  | substitute (substitution : Substitution)
  | transliterate (pairs : List (Char × Char))
  | clear
  deriving Repr

/-- A command. -/
structure Command where
  choice : Choice
  operation : Operation
  deriving Repr

/-! ## Reading -/

/-- How far a script has been read. -/
structure Progress where
  rest : Octets
  /-- Number of characters that were read. -/
  place : Nat
  flavor : Regex.Flavor
  /-- Number of braces that are open. -/
  depth : Nat

/-- What is wrong with a script, with the number of characters up to there. -/
structure Fault where
  place : Nat
  message : Octets

/-- Readers of scripts. -/
abbrev Reader := StateT Progress (Except Fault)

/-- Complain about the place that is read. -/
def complain {α : Type} (message : String) : Reader α := do
  throw ⟨(← get).place, message.toList⟩

/-- The next character. -/
def peek : Reader (Option Char) := return (← get).rest.head?

/-- Take the next character. -/
def next? : Reader (Option Char) := do
  let progress ← get
  match progress.rest with
  | [] =>
    set { progress with place := progress.place + 1 }
    return none
  | c :: rest =>
    set { progress with rest, place := progress.place + 1 }
    return some c

/-- Pass characters that satisfy a condition. -/
def skipWhile (p : Char → Bool) : Reader Unit :=
  modify (fun progress =>
    let passed := progress.rest.takeWhile p
    { progress with
      rest := progress.rest.drop passed.length, place := progress.place + passed.length })

/-- Take characters that satisfy a condition. -/
def takeWhile (p : Char → Bool) : Reader Octets := do
  let taken := (← get).rest.takeWhile p
  skipWhile p
  return taken

/-- A number in digits. -/
def number : Reader Nat := do
  let digits ← takeWhile Char.isDigit
  return (String.ofList digits).toNat?.getD 0

/-- Text up to a delimiter; a delimiter after a backslash loses the backslash, and a line end is
written as a letter after one if `isPattern` says so. -/
def delimited (delimiter : Char) (isPattern : Bool) : Nat → Octets → Reader (Option Octets)
  | 0, _ => return none
  | fuel + 1, taken => do
    match ← next? with
    | none => return none
    | some c =>
      if c = delimiter then return some taken.reverse
      else if c = '\\' then
        match ← next? with
        | none => return none
        | some d =>
          if d = delimiter then delimited delimiter isPattern fuel (d :: taken)
          else if d = 'n' ∧ isPattern then delimited delimiter isPattern fuel ('\n' :: taken)
          else delimited delimiter isPattern fuel (d :: '\\' :: taken)
      else if c = '\n' ∧ isPattern then return none
      else delimited delimiter isPattern fuel (c :: taken)

/-- Bound on the length of texts. -/
def manyTimes : Nat := 1000000000

/-- Control characters in an expression in the place of the letters that stand for them. -/
def withControls : Nat → Octets → Octets
  | 0, text => text
  | fuel + 1, text =>
    match text with
    | '\\' :: c :: rest =>
      match [('t', '\t'), ('n', '\n'), ('f', '\x0c'), ('v', '\x0b'), ('a', '\x07'),
          ('r', '\r')].lookup c with
      | some control => control :: withControls fuel rest
      | none => '\\' :: c :: withControls fuel rest
    | c :: rest => c :: withControls fuel rest
    | [] => []

/-- The pattern that a text stands for; an empty one is that which was used last. -/
def patternOf (text : Octets) (ignoresCase : Bool) : Reader (Option Regex.Pattern) := do
  if text.isEmpty then return none
  else
    let progress ← get
    match Regex.parse progress.flavor ignoresCase (withControls (text.length + 1) text) with
    | .ok pattern => return some pattern
    | .error fault => throw ⟨progress.place, fault.message.toList⟩

/-- An address, if one comes next. -/
def address? : Reader (Option Address) := do
  match ← peek with
  | some '$' =>
    let _ ← next?
    return some .last
  | some '/' =>
    let _ ← next?
    matched '/'
  | some '\\' =>
    let _ ← next?
    match ← next? with
    | some delimiter => matched delimiter
    | none =>
      modify (fun progress => { progress with place := progress.place - 1 })
      complain "unterminated address regex"
  | some c =>
    if c.isDigit then
      let first ← number
      if (← peek) = some '~' then
        let _ ← next?
        return some (.stepping first (← number))
      else return some (.line first)
    else return none
  | none => return none
where
  /-- An address by a pattern, after its first delimiter. -/
  matched (delimiter : Char) : Reader (Option Address) := do
    match ← delimited delimiter true manyTimes [] with
    | some text =>
      let ignoresCase := (← peek) = some 'I'
      if ignoresCase then
        let _ ← next?
      return some (.matching (← patternOf text ignoresCase))
    | none =>
      modify (fun progress => { progress with place := progress.place - 1 })
      complain "unterminated address regex"

/-- The end of a row of lines, after the comma. -/
def rangeEnd : Reader RangeEnd := do
  skipWhile Octets.isBlank
  match ← peek with
  | some '+' =>
    let _ ← next?
    return .after (← number)
  | some '~' =>
    let _ ← next?
    return .multiple (← number)
  | _ =>
    match ← address? with
    | some address => return .address address
    | none => do
      let _ ← next?
      complain "unexpected \x60,'"

/-- The lines that a command is for. -/
def choice : Reader Choice := do
  let first ← address?
  skipWhile Octets.isBlank
  let hasEnd := first.isSome && (← peek) = some ','
  let last ← if hasEnd then do
      let _ ← next?
      pure (some (← rangeEnd))
    else pure none
  let isZero : Bool := match first with
    | some (.line 0) => true
    | _ => false
  let fromZero : Bool := match last with
    | some (.address (.matching _)) => isZero
    | _ => false
  skipWhile Octets.isSpace
  if isZero ∧ !fromZero then
    let _ ← next?
    complain "invalid usage of line address 0"
  else
    let negated := (← peek) = some '!'
    if negated then
      let _ ← next?
      skipWhile Octets.isBlank
      if (← peek) = some '!' then
        let _ ← next?
        complain "multiple \x60!'s"
      else return ⟨first, last, fromZero, true⟩
    else return ⟨first, last, fromZero, false⟩

/-- Take the end of a command. -/
def expectEnd : Reader Unit := do
  skipWhile Octets.isBlank
  match ← peek with
  | none | some '\x7d' | some '#' => return ()
  | some c =>
    let _ ← next?
    if c ≠ ';' ∧ c ≠ '\n' then complain "extra characters after command"

/-- The text of a command up to the line end; backslashes keep line ends. -/
def blockText : Nat → Octets → Reader Octets
  | 0, taken => return taken.reverse
  | fuel + 1, taken => do
    match ← next? with
    | none | some '\n' => return taken.reverse
    | some '\\' =>
      match ← next? with
      | none => return taken.reverse
      | some c => blockText fuel (c :: taken)
    | some c => blockText fuel (c :: taken)

/-- The text that a command adds. -/
def addedText : Reader Octets := do
  skipWhile Octets.isBlank
  match ← peek with
  | none =>
    complain "expected \\ after \x60a', \x60c' or \x60i'"
  | some '\\' =>
    let _ ← next?
    let blanks ← takeWhile Octets.isBlank
    match ← peek with
    | none => return []
    | some '\n' =>
      let _ ← next?
      return (← blockText manyTimes []) ++ ['\n']
    | some _ => return blanks ++ (← blockText manyTimes []) ++ ['\n']
  | some _ => return (← blockText manyTimes []) ++ ['\n']

/-- A label. -/
def labelName (isDefinition : Bool) : Reader Octets := do
  skipWhile Octets.isBlank
  let name ← takeWhile (fun c => c ≠ '\n' && c ≠ ';' && (isDefinition || !Octets.isSpace c))
  let name := (name.reverse.dropWhile Octets.isSpace).reverse
  if !isDefinition then expectEnd
  return name

/-- The name of a file up to the line end. -/
def fileName : Reader Octets := do
  skipWhile Octets.isBlank
  let name ← takeWhile (· ≠ '\n')
  if name.isEmpty then complain "missing filename in r/R/w/W commands" else return name

/-- The pieces of a replacement. -/
def pieces : Nat → Octets → Octets → List Piece
  | 0, _, taken => [.text taken.reverse]
  | fuel + 1, text, taken =>
    let flushed (rest : List Piece) : List Piece :=
      if taken.isEmpty then rest else .text taken.reverse :: rest
    let recased (recasing : Recasing) (rest : Octets) : List Piece :=
      flushed (.recase recasing :: pieces fuel rest [])
    match text with
    | [] => flushed []
    | '&' :: rest => flushed (.group 0 :: pieces fuel rest [])
    | '\\' :: 'U' :: rest => recased .upper rest
    | '\\' :: 'L' :: rest => recased .lower rest
    | '\\' :: 'u' :: rest => recased .nextUpper rest
    | '\\' :: 'l' :: rest => recased .nextLower rest
    | '\\' :: 'E' :: rest => recased .stop rest
    | '\\' :: c :: rest =>
      if c.isDigit then flushed (.group (c.toNat - '0'.toNat) :: pieces fuel rest [])
      else
        let c := ([('n', '\n'), ('t', '\t'), ('f', '\x0c'), ('v', '\x0b'), ('a', '\x07'),
          ('r', '\r')].lookup c).getD c
        pieces fuel rest (c :: taken)
    | c :: rest => pieces fuel rest (c :: taken)

/-- Options of a replacement. -/
structure Flags where
  number : Option Nat
  all : Bool
  prints : Bool
  ignoresCase : Bool
  file : Option Octets

/-- The options after a replacement. -/
def flags : Nat → Flags → Reader Flags
  | 0, known => return known
  | fuel + 1, known => do
    match ← peek with
    | some 'g' =>
      let _ ← next?
      if known.all then complain "multiple \x60g' options to \x60s' command"
      else flags fuel { known with all := true }
    | some 'p' =>
      let _ ← next?
      if known.prints then complain "multiple \x60p' options to \x60s' command"
      else flags fuel { known with prints := true }
    | some 'i' | some 'I' =>
      let _ ← next?
      flags fuel { known with ignoresCase := true }
    | some 'm' | some 'M' | some 'e' =>
      let _ ← next?
      flags fuel known
    | some 'w' =>
      let _ ← next?
      return { known with file := some (← fileName) }
    | some c =>
      if c.isDigit then
        let n ← number
        if n = 0 then complain "number option to \x60s' command may not be zero"
        else if known.number.isSome then
          complain "multiple number options to \x60s' command"
        else flags fuel { known with number := some n }
      else if c = '\x7d' ∨ c = '#' then return known
      else
        let _ ← next?
        if c = ';' ∨ c = '\n' then return known
        else if Octets.isBlank c then
          expectEnd
          return known
        else complain "unknown option to \x60s'"
    | none => return known

/-- The largest number of a group in a replacement. -/
def largestGroup (pieces : List Piece) : Nat :=
  pieces.foldl (fun n piece =>
    match piece with
    | .group number => max n number
    | _ => n) 0

/-- A replacement, after its letter. -/
def substitution : Reader Operation := do
  let unfinished : Reader Operation := do
    modify (fun progress => { progress with place := progress.place - 1 })
    complain "unterminated \x60s' command"
  match ← next? with
  | none => unfinished
  | some delimiter =>
    match ← delimited delimiter true manyTimes [] with
    | none => unfinished
    | some pattern =>
      match ← delimited delimiter false manyTimes [] with
      | none => unfinished
      | some replacement =>
        let flags ← flags manyTimes ⟨none, false, false, false, none⟩
        let pieces := pieces (replacement.length + 1) replacement []
        let pattern ← patternOf pattern flags.ignoresCase
        match pattern with
        | some known =>
          if known.groups < largestGroup pieces then
            complain ("invalid reference \\" ++ toString (largestGroup pieces) ++
              " on \x60s' command's RHS")
        | none => pure ()
        return .substitute ⟨pattern, pieces, flags.number.getD 1, flags.all, flags.prints,
          flags.file⟩

/-- A list of characters, backslashes taken away. -/
def plainChars : Octets → Octets
  | '\\' :: 'n' :: rest => '\n' :: plainChars rest
  | '\\' :: c :: rest => c :: plainChars rest
  | c :: rest => c :: plainChars rest
  | [] => []

/-- Characters in the place of others, after the letter. -/
def transliteration : Reader Operation := do
  let unfinished : Reader Operation := do
    modify (fun progress => { progress with place := progress.place - 1 })
    complain "unterminated \x60y' command"
  match ← next? with
  | none => unfinished
  | some delimiter =>
    match ← delimited delimiter false manyTimes [] with
    | none => unfinished
    | some first =>
      match ← delimited delimiter false manyTimes [] with
      | none => unfinished
      | some second =>
        let first := plainChars first
        let second := plainChars second
        if first.length ≠ second.length then
          complain "strings for \x60y' command are different lengths"
        else
          expectEnd
          return .transliterate (first.zip second)

/-- A command without operands. -/
def bare (operation : Operation) : Reader Operation := do
  expectEnd
  return operation

/-- What a command does. -/
def operation : Reader Operation := do
  match ← next? with
  | none => complain "missing command"
  | some '\x7b' =>
    modify (fun progress => { progress with depth := progress.depth + 1 })
    return .opening
  | some '=' => bare .printNumber
  | some 'a' => return .append (← addedText)
  | some 'i' => return .insert (← addedText)
  | some 'c' => return .change (← addedText)
  | some ':' =>
    let name ← labelName true
    if name.isEmpty then complain "\":\" lacks a label" else return .label name
  | some 'b' => return .branch (← labelName false)
  | some 't' => return .branchIf (← labelName false)
  | some 'T' => return .branchUnless (← labelName false)
  | some 'd' => bare .delete
  | some 'D' => bare .deleteFirst
  | some 'g' => bare (.takeHeld false)
  | some 'G' => bare (.takeHeld true)
  | some 'h' => bare (.hold false)
  | some 'H' => bare (.hold true)
  | some 'x' => bare .exchange
  | some 'l' =>
    skipWhile Octets.isBlank
    skipWhile Char.isDigit
    bare .list
  | some 'n' => bare .next
  | some 'N' => bare .nextAppended
  | some 'p' => bare .print
  | some 'P' => bare .printFirst
  | some 'q' =>
    skipWhile Octets.isBlank
    let status ← number
    bare (.quit status true)
  | some 'Q' =>
    skipWhile Octets.isBlank
    let status ← number
    bare (.quit status false)
  | some 'r' => return .readFile (← fileName)
  | some 'w' => return .writeFile (← fileName) false
  | some 'W' => return .writeFile (← fileName) true
  | some 's' => substitution
  | some 'y' => transliteration
  | some 'z' => bare .clear
  | some c => complain ("unknown command: \x60" ++ c.toString ++ "'")

/-- The commands of a script. -/
def commands : Nat → List Command → Reader (List Command)
  | 0, taken => return taken.reverse
  | fuel + 1, taken => do
    skipWhile (fun c => Octets.isSpace c || c = ';')
    match ← peek with
    | none =>
      if 0 < (← get).depth then throw ⟨0, "unmatched \x60\x7b'".toList⟩
      else return taken.reverse
    | some '#' =>
      skipWhile (· ≠ '\n')
      commands fuel taken
    | some '\x7d' =>
      let _ ← next?
      if (← get).depth = 0 then complain "unexpected \x60\x7d'"
      else
        modify (fun progress => { progress with depth := progress.depth - 1 })
        expectEnd
        commands fuel (⟨⟨none, none, false, false⟩, .closing⟩ :: taken)
    | some _ =>
      let choice ← choice
      let operation ← operation
      commands fuel (⟨choice, operation⟩ :: taken)

/-- The commands of a script, and whether its first line asks for silence. -/
def parse (flavor : Regex.Flavor) (text : Octets) : Except Fault (Bool × List Command) := do
  let isQuiet := text = ['#', 'n'] || ['#', 'n', '\n'].isPrefixOf text
  return (isQuiet, ← (commands (text.length + 1) []).run' ⟨text, 0, flavor, 0⟩)

end PubSubTrials.Editing
