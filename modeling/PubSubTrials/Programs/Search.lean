import PubSubTrials.Programs.Input
import PubSubTrials.Text.Regex

/-!
# Searching for lines

Lines that match one of several patterns are printed, counted or only noted. Patterns are regular
expressions or texts, one in a line.
-/

namespace PubSubTrials.Programs

open Host (Course)

namespace Search

/-- How lines are searched. -/
structure Plan where
  patterns : List Regex.Pattern
  inverted : Bool
  wholeLines : Bool
  wholeWords : Bool

namespace Plan

/-- Whether a match may count: it must be a whole line or a whole word if that is wanted. -/
def admits (plan : Plan) (text : Array Char) (found : Regex.Match) : Bool :=
  let isWordAt (place : Nat) : Bool := (text[place]?).any CharClass.inWord
  (!plan.wholeLines || (found.start = 0 && found.stop = text.size)) &&
    (!plan.wholeWords ||
      (!(0 < found.start && isWordAt (found.start - 1)) && !isWordAt found.stop))

/-- The first match of a pattern from a place on that may count. -/
def findOne? (plan : Plan) (pattern : Regex.Pattern) (text : Array Char) :
    Nat → Nat → Option Regex.Match
  | 0, _ => none
  | fuel + 1, place =>
    match pattern.find? text true place with
    | none => none
    | some found =>
      if plan.admits text found then some found
      else if text.size ≤ found.start then none
      else findOne? plan pattern text fuel (found.start + 1)

/-- The first match of any pattern from a place on, and of several the longest. -/
def find? (plan : Plan) (text : Array Char) (place : Nat) : Option Regex.Match :=
  plan.patterns.foldl (fun best pattern =>
    match best, plan.findOne? pattern text (text.size + 2) place with
    | none, found => found
    | best, none => best
    | some a, some b =>
      if b.start < a.start ∨ (b.start = a.start ∧ a.stop < b.stop) then some b else some a) none

/-- Whether a line is chosen. -/
def chooses (plan : Plan) (line : Octets) : Bool :=
  (plan.find? line.toArray 0).isSome != plan.inverted

/-- The parts of a line that match, with the places at which they start. -/
def parts (plan : Plan) (text : Array Char) : Nat → Nat → List (Nat × Octets)
  | 0, _ => []
  | fuel + 1, place =>
    match plan.find? text place with
    | none => []
    | some found =>
      if found.stop = found.start then
        if text.size ≤ found.start then [] else parts plan text fuel (found.start + 1)
      else
        (found.start, (text.extract found.start found.stop).toList) ::
          parts plan text fuel found.stop

end Plan

/-- A text as a pattern that only matches itself. -/
def literal (ignoresCase : Bool) (text : Octets) : Regex.Pattern :=
  ⟨text.foldl (fun before c =>
    match before with
    | .empty => .one c
    | before => .both before (.one c)) .empty, 0, ignoresCase⟩

/-- What is printed of an input. -/
structure Showing where
  /-- The name in front of lines. -/
  title : Octets
  numbers : Bool
  offsets : Bool
  onlyParts : Bool
  before : Nat
  after : Nat
  /-- Whether only the status or a count or a name is wanted. -/
  silent : Bool
  /-- Number of lines after which the search ends. -/
  most : Option Nat
  separator : Char

/-- How far an input was searched. -/
structure Progress where
  number : Nat
  offset : Nat
  /-- Lines that were chosen. -/
  count : Nat
  /-- Lines that may have to be shown before the next one that is chosen, the last one first. -/
  kept : List (Nat × Nat × Octets)
  /-- Number of lines that are still to be shown after one that was chosen. -/
  owed : Nat
  /-- The number of the last line that was shown. -/
  shown : Option Nat

/-- Print a line or a part of it. -/
def showLine (showing : Showing) (mark : Char) (number offset : Nat) (text : Octets) :
    Running Unit := do
  let title := if showing.title.isEmpty then [] else showing.title ++ [mark]
  let place := if showing.numbers then Octets.ofNat number ++ [mark] else []
  let start := if showing.offsets then Octets.ofNat offset ++ [mark] else []
  Running.put (title ++ place ++ start ++ text ++ [showing.separator])

/-- Show a line around others, after a mark if lines were left out before it. -/
def showContext (showing : Showing) (mark : Char) (progress : Progress)
    (entry : Nat × Nat × Octets) : Running Progress := do
  let (number, offset, text) := entry
  if (0 < showing.before ∨ 0 < showing.after) ∧
      progress.shown.any (fun last => last + 1 < number) then
    Running.put "--\n".toList
  showLine showing mark number offset text
  return { progress with shown := some number }

/-- Search one more line. -/
def searchLine (plan : Plan) (showing : Showing) (progress : Progress) (line : Line) :
    Running (Onward Progress) := do
  let number := progress.number + 1
  let entry := (number, progress.offset, line.text)
  let onward := { progress with number, offset := progress.offset + line.text.length + 1 }
  if showing.most.any (· ≤ progress.count) then
    if progress.owed = 0 then return .enough progress
    else
      let onward ← showContext showing '-' onward entry
      return .next { onward with owed := progress.owed - 1 }
  else if plan.chooses line.text then
    let counted := { onward with count := progress.count + 1 }
    if showing.silent then
      if showing.most.any (· ≤ counted.count) then return .enough counted else return .next counted
    else if showing.onlyParts then
      if !plan.inverted then
        for (start, text) in plan.parts line.text.toArray (line.text.length + 2) 0 do
          showLine showing ':' number (progress.offset + start) text
      return .next counted
    else
      let shown ← progress.kept.reverse.foldlM (showContext showing '-') counted
      let shown ← showContext showing ':' shown entry
      return .next { shown with kept := [], owed := showing.after }
  else if showing.silent ∨ showing.onlyParts then return .next onward
  else if 0 < progress.owed then
    let shown ← showContext showing '-' onward entry
    return .next { shown with owed := progress.owed - 1 }
  else return .next { onward with kept := (entry :: progress.kept).take showing.before }

/-- Options that are written as words. -/
def words : List (String × Arity × Char) :=
  [("extended-regexp", .never, 'E'), ("fixed-strings", .never, 'F'),
   ("basic-regexp", .never, 'G'), ("perl-regexp", .never, 'P'), ("regexp", .always, 'e'),
   ("file", .always, 'f'), ("ignore-case", .never, 'i'), ("word-regexp", .never, 'w'),
   ("line-regexp", .never, 'x'), ("null-data", .never, 'z'), ("no-messages", .never, 's'),
   ("invert-match", .never, 'v'), ("max-count", .always, 'm'), ("byte-offset", .never, 'b'),
   ("line-number", .never, 'n'), ("line-buffered", .never, '\x02'), ("with-filename", .never, 'H'),
   ("no-filename", .never, 'h'), ("only-matching", .never, 'o'), ("quiet", .never, 'q'),
   ("silent", .never, 'q'), ("text", .never, 'a'), ("recursive", .never, 'r'),
   ("files-without-match", .never, 'N'), ("files-with-matches", .never, 'l'),
   ("count", .never, 'c'), ("after-context", .always, 'A'), ("before-context", .always, 'B'),
   ("context", .always, 'C'), ("color", .perhaps, '\x01'), ("colour", .perhaps, '\x01')]

/-- How the program is called. -/
def complainUsage : Running Unit := do
  let name ← Running.name
  Running.tell ("Usage: ".toList ++ name ++ " [OPTION]... PATTERNS [FILE]...\nTry '".toList ++
    name ++ " --help' for more information.\n".toList)
  throw 2

/-- The patterns of a text, one in a line. -/
def patternsOf (chosen : Chosen) (isExtended isFixed : Bool) (text : Octets) :
    Running (List Regex.Pattern) :=
  (Octets.splitOn '\n' text).mapM (fun line => do
    let ignoresCase := chosen.has 'i' || chosen.has 'y'
    if isFixed then return literal ignoresCase line
    else
      match Regex.parse (if isExtended then .extended else .basic) ignoresCase line with
      | .ok pattern => return pattern
      | .error fault => Running.fail fault.message.toList 2)

/-- The files below a directory in the order of their names. -/
def filesBelow (path : Octets) : Running (List Octets) := do
  Running.ask (Course.look (fun files =>
    match files.resolve ⟨Octets.toText path⟩ with
    | .ok (names, .directory) =>
      files.entries.filterMap (fun (entry, node) =>
        if names.isPrefixOf entry ∧ node != .directory then
          some (path ++ (entry.drop names.length).flatMap (fun name =>
            '/' :: Octets.ofString name))
        else none)
    | _ => [path]))

end Search

open Search in
/-- Search inputs for lines; the form of patterns may be given by the name of the program. -/
def grep (form : Char) (arguments : List Octets) : Running Unit := do
  let arguments := arguments.map (fun word =>
    match word with
    | '-' :: digits =>
      if !digits.isEmpty ∧ digits.all Char.isDigit then "-C".toList ++ digits else word
    | word => word)
  let table : OptionTable := ⟨"EFGPe:f:iywxzsvm:bnHhoqaIrRlLcA:B:C:UT", words, true⟩
  let chosen ← tryCatch (table.readFrom (arguments.length + 1) arguments) (fun _ => throw 2)
  let forms := (chosen.options.map Prod.fst).filter ['E', 'F', 'G', 'P'].contains
  let form := forms.getLast?.getD form
  let given := chosen.options.filter (fun entry => entry.1 = 'e' || entry.1 = 'f')
  let (sources, operands) ←
    if given.isEmpty then
      match chosen.operands with
      | [] => do
        complainUsage
        pure ([], [])
      | first :: rest => pure ([first], rest)
    else do
      let texts ← given.mapM (fun (letter, value) => do
        if letter = 'e' then return value.getD []
        else
          let text ← textOf (value.getD []) (fun name error =>
            Running.fail (name ++ [':', ' '] ++ error.reason.toList) 2)
          return if text.getLast? = some '\n' then text.dropLast else text)
      pure (texts, chosen.operands)
  let patterns ← sources.mapM (patternsOf chosen (form = 'E' ∨ form = 'P') (form = 'F'))
  let plan : Plan :=
    ⟨patterns.flatten, chosen.has 'v', chosen.has 'x', chosen.has 'w'⟩
  let isRecursive := chosen.has 'r' || chosen.has 'R'
  let operands := if operands.isEmpty ∧ isRecursive then [['.']] else inputsOf operands
  let names ← if isRecursive then do pure (← operands.mapM filesBelow).flatten
    else pure operands
  let titled := (1 < names.length || isRecursive || chosen.has 'H') && !chosen.has 'h'
  if chosen.has '\x02' then modify (fun condition => { condition with isTerminal := true })
  let number (letter : Char) : Nat :=
    let value := (chosen.value? letter).orElse (fun _ => chosen.value? 'C')
    (value.bind (fun text => (String.ofList text).toNat?)).getD 0
  let quiet := chosen.has 'q'
  let listing := chosen.has 'l' || chosen.has 'L'
  let most := (chosen.value? 'm').bind (fun text => (String.ofList text).toNat?)
  let silent := quiet || listing || chosen.has 'c'
  for letter in ['A', 'B', 'C'] do
    match chosen.value? letter with
    | some text =>
      if text.isEmpty ∨ !text.all Char.isDigit then
        Running.fail (text ++ ": invalid context length argument".toList) 2
    | none => pure ()
  match chosen.value? 'm' with
  | some text =>
    if ((String.ofList text).toInt?).isNone then Running.fail "invalid max count".toList 2
  | none => pure ()
  let found ← names.foldlM (fun found name => do
    let shownName := if name = ['-'] then "(standard input)".toList else name
    let showing : Showing :=
      ⟨if titled then shownName else [], chosen.has 'n', chosen.has 'b', chosen.has 'o',
        number 'B', number 'A', silent, if quiet || listing then some 1 else most,
        if chosen.has 'z' then '\x00' else '\n'⟩
    let refuse (error : SystemError) : Running Unit := do
      if !chosen.has 's' then Running.warn (name ++ [':', ' '] ++ error.reason.toList)
      Running.setStatus 2
    let count ← withSource name
      (fun error => do
        refuse error
        return none)
      (fun source => do
        if most = some 0 then return some 0
        else
          let (progress, _) ← foldLines showing.separator refuse source
            (⟨0, 0, 0, [], 0, none⟩ : Progress) (searchLine plan showing)
          return some progress.count)
    match count with
    | none => return found
    | some count =>
      if quiet then
        if 0 < count then throw 0
      else if chosen.has 'l' then
        if 0 < count then Running.putLine shownName
      else if chosen.has 'L' then
        if count = 0 then Running.putLine shownName
      else if chosen.has 'c' then
        Running.putLine ((if titled then shownName ++ [':'] else []) ++ Octets.ofNat count)
      return found || 0 < count) false
  if (← get).status = 0 ∧ !found then Running.setStatus 1

/-- Programs that search. -/
def searching : List Program :=
  [.plain "grep" (grep 'G'), .plain "egrep" (grep 'E'), .plain "fgrep" (grep 'F')]

end PubSubTrials.Programs
