import PubSubTrials.Programs.Editing.Replacement
import PubSubTrials.Programs.Input

/-!
# Lines edited by a script

A script is carried out once for every line. The line stands in the pattern space, which is
written at the end unless the script says otherwise; the hold space keeps text from line to line.
-/

namespace PubSubTrials.Editing

open Host (Course)
open Programs (Running Source Line)

/-! ## The state of a run -/

/-- Text that is written at the end of a line. -/
inductive Later where
  | text (text : Octets)
  | file (name : Octets)

/-- How far a row of lines has come. -/
inductive Stretch where
  | outside
  /-- Up to a line. -/
  | upTo (number : Nat)
  /-- Up to what the second address chooses. -/
  | open
  deriving DecidableEq

/-- An input that is read. -/
structure Reading where
  name : Octets
  source : Source

/-- How a run is to be made. -/
structure Plan where
  commands : Array Command
  /-- Whether lines are written without being asked for. -/
  prints : Bool
  /-- Whether every input is for itself. -/
  separates : Bool
  /-- Whether inputs are replaced by what is written. -/
  inPlace : Bool
  separator : Char
  /-- Whether every line is written at once. -/
  isUnbuffered : Bool
  /-- Files that commands write to, with their descriptors. -/
  files : List (Octets × Nat)

/-- The state of a run. -/
structure Desk where
  inputs : List Octets
  reading : Option Reading
  number : Nat
  pattern : Octets
  /-- Whether the line was ended in its input. -/
  isEnded : Bool
  held : Octets
  later : List Later
  /-- Whether something was replaced since the last line or branch. -/
  replaced : Bool
  stretches : Array Stretch
  lastPattern : Option Regex.Pattern
  /-- Whether what was written last lacks its end. -/
  lacksEnd : Bool
  /-- What will replace the input, the last piece first. -/
  collected : List Octets

/-- Steps of a run. -/
abbrev Steps := StateT Desk Running

/-- Do something for the program. -/
def running {α : Type} (steps : Running α) : Steps α := StateT.lift steps

/-- Write to where the lines go. -/
def emit (plan : Plan) (text : Octets) : Steps Unit := do
  let desk ← get
  let text := if desk.lacksEnd then plan.separator :: text else text
  if plan.inPlace then
    set { desk with collected := text :: desk.collected, lacksEnd := false }
  else
    set { desk with lacksEnd := false }
    running (Running.put text)
    if plan.isUnbuffered then running Running.flush

/-- Write a text as a line; the last line of an input stays without an end if it has none. -/
def emitLine (plan : Plan) (text : Octets) : Steps Unit := do
  if (← get).isEnded then emit plan (text ++ [plan.separator])
  else
    emit plan text
    modify (fun desk => { desk with lacksEnd := true })

/-- Write the pattern space. -/
def emitPattern (plan : Plan) : Steps Unit := do
  emitLine plan (← get).pattern

/-- Write what was to be written at the end of a line. -/
def emitLater (plan : Plan) : Steps Unit := do
  let later := (← get).later
  modify (fun desk => { desk with later := [] })
  for entry in later do
    match entry with
    | .text text => emit plan text
    | .file name =>
      let held ← running (Programs.textOf name (fun _ _ => pure ()))
      if !held.isEmpty then emit plan held

/-- Close an input, and replace it if it is edited in place. -/
def leaveInput (plan : Plan) (reading : Reading) : Steps Unit := do
  let desk ← get
  set { desk with reading := none, collected := [] }
  if reading.source.descriptor ≠ 0 then
    running (Running.ask (Course.redirect reading.source.descriptor none))
  if plan.inPlace then
    match ← running (Running.ask (Course.openFile ⟨Octets.toText reading.name⟩ .overwrite)) with
    | .error _ => pure ()
    | .ok handle =>
      running (Running.ask (do
        let descriptor ← Course.keep handle
        let _ ← Course.write descriptor desk.collected.reverse.flatten
        Course.redirect descriptor none))
    modify (fun desk => { desk with lacksEnd := false })

/-- Open an input; one that cannot be opened is passed. -/
def openInput (plan : Plan) (name : Octets) : Steps Unit := do
  if name = ['-'] ∧ !plan.inPlace then
    modify (fun desk => { desk with reading := some ⟨name, .ofDescriptor 0⟩ })
  else
    let isRegular ← running (Running.ask (Course.look (fun files =>
      match files.resolve ⟨Octets.toText name⟩ with
      | .ok (_, .directory) => false
      | _ => true)))
    if plan.inPlace ∧ !isRegular then
      running (Running.complain ("couldn't edit ".toList ++ name ++
        ": not a regular file".toList) 4)
    else
      match ← running (Running.ask (Course.openFile ⟨Octets.toText name⟩ .read)) with
      | .error error =>
        running (Running.complain
          ("can't read ".toList ++ name ++ [':', ' '] ++ error.reason.toList) 2)
      | .ok handle =>
        let descriptor ← running (Running.ask (Course.keep handle))
        modify (fun desk => { desk with reading := some ⟨name, .ofDescriptor descriptor⟩ })

/-- Whether there is more to read, of this input alone if `stays` says so. -/
def hasMore (plan : Plan) (stays : Bool) : Nat → Steps Bool
  | 0 => return false
  | fuel + 1 => do
    let desk ← get
    match desk.reading, desk.inputs with
    | none, [] => return false
    | none, name :: inputs =>
      set { desk with inputs, number := if plan.separates then 0 else desk.number }
      openInput plan name
      hasMore plan stays fuel
    | some reading, _ =>
      if !reading.source.pending.isEmpty then return true
      else if reading.source.ended then
        if stays then return false
        else
          leaveInput plan reading
          hasMore plan stays fuel
      else
        let source := { reading.source with frugal := plan.isUnbuffered }
        let (source, error?) ← running source.more
        match error? with
        | some error =>
          let name := if reading.name = ['-'] then "stdin".toList else reading.name
          running (Running.fail
            ("read error on ".toList ++ name ++ [':', ' '] ++ error.reason.toList) 4)
        | none => pure ()
        set { desk with reading := some { reading with source } }
        hasMore plan stays fuel

/-- The rest of a line of the input that is read. -/
def restOfLine (plan : Plan) : Nat → Steps Line
  | 0 => return ⟨[], false⟩
  | fuel + 1 => do
    let desk ← get
    match desk.reading with
    | none => return ⟨[], false⟩
    | some reading =>
      match Octets.cutAt (· = plan.separator) reading.source.pending with
      | (text, _ :: rest) =>
        set { desk with
          reading := some { reading with source := { reading.source with pending := rest } } }
        return ⟨text, true⟩
      | (text, []) =>
        if reading.source.ended then
          set { desk with
            reading := some { reading with source := { reading.source with pending := [] } } }
          return ⟨text, false⟩
        else
          let (source, _) ← running reading.source.more
          set { desk with reading := some { reading with source } }
          restOfLine plan fuel

/-- The next line, if there is one; what was to be written before it is written. -/
def nextLine (plan : Plan) : Steps (Option Octets) := do
  emitLater plan
  if ← hasMore plan false Course.manyTimes then
    let line ← restOfLine plan Course.manyTimes
    modify (fun desk =>
      { desk with number := desk.number + 1, isEnded := line.isEnded, replaced := false })
    return some line.text
  else return none

/-- Whether the line is the last one. -/
def isLast (plan : Plan) : Steps Bool := do
  return !(← hasMore plan plan.separates Course.manyTimes)

/-! ## Choosing lines -/

/-- The pattern that is meant, which is remembered. -/
def patternOf? (pattern : Option Regex.Pattern) : Steps Regex.Pattern := do
  match pattern with
  | some pattern =>
    modify (fun desk => { desk with lastPattern := some pattern })
    return pattern
  | none =>
    match (← get).lastPattern with
    | some pattern => return pattern
    | none => running (Running.fail "no previous regular expression".toList 1)

/-- Whether an address chooses the line. -/
def isAt (plan : Plan) : Address → Steps Bool
  | .line number => return (← get).number = number
  | .last => isLast plan
  | .matching pattern => do
    let pattern ← patternOf? pattern
    return pattern.matches? (← get).pattern
  | .stepping first step => do
    let number := (← get).number
    return if step = 0 then number = first
      else first ≤ number && (number - first) % step = 0

/-- Whether the line is the first of a row, or in it. -/
def isInRow (plan : Plan) (place : Nat) (first : Address) (last : RangeEnd) : Steps Bool := do
  let desk ← get
  let put (stretch : Stretch) : Steps Unit :=
    modify (fun desk => { desk with stretches := desk.stretches.set! place stretch })
  match desk.stretches[place]? with
  | some (.upTo number) =>
    if number ≤ desk.number then put .outside
    return desk.number ≤ number
  | some .open =>
    match last with
    | .address address =>
      if ← isAt plan address then put .outside
    | _ => pure ()
    return true
  | _ =>
    if ← isAt plan first then
      let number := (← get).number
      let until' : Option Nat := match last with
        | .address (.line last) => some last
        | .after count => some (number + count)
        | .multiple step =>
          some (if step = 0 then number else (number / step + 1) * step)
        | _ => none
      match until' with
      | some last => if number < last then put (.upTo last)
      | none => put .open
      return true
    else return false

/-- Whether a command is for the line. -/
def isChosen (plan : Plan) (place : Nat) (choice : Choice) : Steps Bool := do
  let chosen ←
    match choice.first, choice.last with
    | none, _ => pure true
    | some first, none => isAt plan first
    | some first, some last => isInRow plan place first last
  return chosen != choice.negated

/-! ## Commands -/

/-- How a run goes on after a command. -/
inductive Onward where
  | place (place : Nat)
  /-- The line is done with. -/
  | done (prints : Bool)
  /-- Begin again without another line. -/
  | again
  | quit (status : Option Nat) (prints : Bool)

/-- The place after the brace that closes the one before a place. -/
def closingFrom (commands : Array Command) : Nat → Nat → Nat → Nat
  | 0, _, place => place
  | fuel + 1, depth, place =>
    match (commands[place]?).map Command.operation with
    | some .opening => closingFrom commands fuel (depth + 1) (place + 1)
    | some .closing =>
      if depth = 0 then place + 1 else closingFrom commands fuel (depth - 1) (place + 1)
    | some _ => closingFrom commands fuel depth (place + 1)
    | none => place

/-- The place of a label; without a name that is the end of the script. -/
def labelPlace? (commands : Array Command) (name : Octets) : Option Nat :=
  if name.isEmpty then some commands.size
  else
    commands.findIdx? (fun command =>
      match command.operation with
      | .label label => label = name
      | _ => false)

/-- Write to a file of a command. -/
def writeTo (plan : Plan) (name text : Octets) : Steps Unit := do
  if name = "/dev/stdout".toList then emit plan text
  else
    match plan.files.lookup name with
    | some descriptor =>
      let _ ← running (Running.ask (Course.write descriptor text))
    | none => pure ()

/-- The lines of the pattern space from the second one on, if it has more than one. -/
def afterFirst? (text : Octets) : Option Octets :=
  match Octets.cutAt (· = '\n') text with
  | (_, _ :: rest) => some rest
  | _ => none

/-- Replace in the pattern space. -/
def substitute (plan : Plan) (what : Substitution) : Steps Unit := do
  let pattern ← patternOf? what.pattern
  let (text, any) := replace pattern what (← get).pattern
  if any then
    modify (fun desk => { desk with pattern := text, replaced := true })
    if what.prints then emitPattern plan
    match what.file with
    | some name => writeTo plan name (text ++ [plan.separator])
    | none => pure ()

/-- Carry out a command that is for the line. -/
def perform (plan : Plan) (place : Nat) (command : Command) : Steps Onward := do
  let next : Onward := .place (place + 1)
  let jump (name : Octets) : Onward :=
    .place ((labelPlace? plan.commands name).getD plan.commands.size)
  let change (f : Desk → Desk) : Steps Onward := do
    modify f
    return next
  match command.operation with
  | .opening | .closing | .label _ => return next
  | .printNumber =>
    emit plan (Octets.ofNat (← get).number ++ ['\n'])
    return next
  | .append text => change (fun desk => { desk with later := desk.later ++ [.text text] })
  | .insert text =>
    emit plan text
    return next
  | .change text =>
    let stretch? := (← get).stretches[place]?
    if stretch?.all (· = .outside) then emit plan text
    return .done false
  | .branch name => return jump name
  | .branchIf name =>
    let replaced := (← get).replaced
    modify (fun desk => { desk with replaced := false })
    return if replaced then jump name else next
  | .branchUnless name =>
    let replaced := (← get).replaced
    modify (fun desk => { desk with replaced := false })
    return if replaced then next else jump name
  | .delete => return .done false
  | .deleteFirst =>
    match afterFirst? (← get).pattern with
    | none => return .done false
    | some rest =>
      modify (fun desk => { desk with pattern := rest })
      return .again
  | .takeHeld appends => change (fun desk =>
      { desk with pattern := if appends then desk.pattern ++ '\n' :: desk.held else desk.held })
  | .hold appends => change (fun desk =>
      { desk with held := if appends then desk.held ++ '\n' :: desk.pattern else desk.pattern })
  | .exchange => change (fun desk => { desk with pattern := desk.held, held := desk.pattern })
  | .list =>
    emit plan (listed (← get).pattern)
    return next
  | .next =>
    if ← isLast plan then return .quit none true
    else
      if plan.prints then emitPattern plan
      match ← nextLine plan with
      | some text => change (fun desk => { desk with pattern := text })
      | none => return .quit none false
  | .nextAppended =>
    if ← isLast plan then return .quit none true
    else
      let replaced := (← get).replaced
      match ← nextLine plan with
      | some text =>
        change (fun desk => { desk with pattern := desk.pattern ++ '\n' :: text, replaced })
      | none => return .quit none true
  | .print =>
    emitPattern plan
    return next
  | .printFirst =>
    emit plan ((Octets.cutAt (· = '\n') (← get).pattern).1 ++ ['\n'])
    return next
  | .quit status prints => return .quit (some status) prints
  | .readFile name => change (fun desk => { desk with later := desk.later ++ [.file name] })
  | .writeFile name onlyFirst =>
    let pattern := (← get).pattern
    let text := if onlyFirst then (Octets.cutAt (· = '\n') pattern).1 else pattern
    writeTo plan name (text ++ [plan.separator])
    return next
  | .substitute what =>
    substitute plan what
    return next
  | .transliterate pairs => change (fun desk =>
      { desk with pattern := desk.pattern.map (fun c => (pairs.lookup c).getD c) })
  | .clear => change (fun desk => { desk with pattern := [] })

/-- Carry out a script from a place on. Whenever it goes back, others may go on. -/
def runFrom (plan : Plan) : Nat → Nat → Steps Onward
  | 0, _ => return .done true
  | fuel + 1, place => do
    match plan.commands[place]? with
    | none => return .done true
    | some command =>
      let onward ←
        if ← isChosen plan place command.choice then perform plan place command
        else
          match command.operation with
          | .opening =>
            pure (.place (closingFrom plan.commands plan.commands.size 0 (place + 1)))
          | _ => pure (.place (place + 1))
      match onward with
      | .place there =>
        if there < place then
          let _ ← running (Running.ask Course.now)
        runFrom plan fuel there
      | onward => return onward

/-- Carry out a script for line after line; the answer is the status that it asked for. -/
def cycles (plan : Plan) : Nat → Bool → Steps (Option Nat)
  | 0, _ => return none
  | fuel + 1, takesLine => do
    let text? ← if takesLine then nextLine plan else do pure (some (← get).pattern)
    match text? with
    | none => return none
    | some text =>
      modify (fun desk => { desk with pattern := text })
      match ← runFrom plan Course.manyTimes 0 with
      | .quit status prints =>
        if prints ∧ plan.prints then emitPattern plan
        emitLater plan
        return status
      | .again =>
        emitLater plan
        cycles plan fuel false
      | .done prints =>
        if prints ∧ plan.prints then emitPattern plan
        cycles plan fuel true
      | .place _ => cycles plan fuel true

/-- Leave the rest of an input that is edited in place as it is. -/
def finishInput (plan : Plan) : Steps Unit := do
  match (← get).reading with
  | none => return ()
  | some reading =>
    if plan.inPlace then
      let rest ← running (Running.ask (Course.readAll reading.source.descriptor))
      let rest : Octets := match rest with
        | .ok text => text
        | .error _ => []
      let desk ← get
      set { desk with
        collected := (reading.source.pending ++ rest) :: desk.collected }
      leaveInput plan reading

end PubSubTrials.Editing
