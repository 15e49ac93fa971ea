import PubSubTrials.Programs.Input
import PubSubTrials.Programs.Records.Fields
import PubSubTrials.Programs.Records.Script
import Std.Data.HashMap

/-!
# The state of a record script

Variables are values or arrays. The record and its fields agree with each other: who sets one of
them changes the other. Inputs and outputs stay open under the names by which they were opened.
-/

namespace PubSubTrials.Records

open Host (Course)
open Programs (Running Source)

/-- An element of an array, with the number of elements that were set before it. -/
structure Entry where
  value : Value
  age : Nat
  deriving Inhabited

/-- An array. -/
structure Table where
  entries : Std.HashMap String Entry
  /-- Number of elements that were ever set. -/
  age : Nat
  deriving Inhabited

namespace Table

/-- An array without elements. -/
def empty : Table := ⟨∅, 0⟩

/-- Set an element. -/
def set (table : Table) (key : String) (value : Value) : Table :=
  match table.entries.get? key with
  | some entry => { table with entries := table.entries.insert key { entry with value } }
  | none => ⟨table.entries.insert key ⟨value, table.age⟩, table.age + 1⟩

/-- A number that scatters keys: each octet is mixed in, and the result multiplied by a prime. -/
def scatter (key : String) : Nat :=
  key.toList.foldl (fun n c => (Nat.xor n c.toNat) * 16777619 % 4294967296) 2166136261

/-- Number of rows among which keys are scattered; there are more once they hold more than twelve
keys on average. -/
def rowCount (size : Nat) : Nat → Nat → Nat
  | 0, rows => rows
  | fuel + 1, rows => if rows * 12 < size then rowCount size fuel (2 * rows) else rows

/-- The keys by the rows among which they are scattered, newer ones first within a row. -/
def keys (table : Table) : List String :=
  let rows := rowCount table.entries.size 64 64
  let marked := table.entries.toList.map (fun (key, entry) =>
    (scatter key % rows, entry.age, key))
  let sorted := marked.mergeSort (fun a b => a.1 < b.1 || (a.1 = b.1 && b.2.1 ≤ a.2.1))
  sorted.map (fun entry => entry.2.2)

end Table

/-- What a name stands for. -/
inductive Cell where
  | value (value : Value)
  | array (number : Nat)
  deriving Inhabited

/-- Where text goes. -/
structure Outlet where
  descriptor : Nat
  /-- The process that reads it. -/
  reader : Option Nat
  /-- What was not written yet, the last piece first. -/
  kept : List Octets

/-- Where records come from. -/
structure Inlet where
  source : Source
  /-- The process that writes it. -/
  writer : Option Nat

/-- The state of a run. -/
structure Desk where
  globals : Std.HashMap String Cell
  /-- The names of the function that is carried out. -/
  locals : List (String × Cell)
  tables : Array Table
  record : Octets
  fields : Array Value
  /-- The operands that were not used as inputs yet, by their numbers. -/
  operand : Nat
  /-- Whether an operand was used as an input. -/
  hasRead : Bool
  main : Option Source
  outlets : List (Octets × Outlet)
  inlets : List (Octets × Inlet)
  /-- The rules within whose rows of records the script is. -/
  inRange : List Nat
  /-- Patterns that were read from texts. -/
  patterns : List (Octets × Regex.Pattern)
  /-- Number of steps since others could go on. -/
  steps : Nat
  seed : Nat
  status : Nat

/-- How a statement is left before its end. -/
inductive Leaving where
  | next
  | nextFile
  | exit
  | return_ (value : Value)
  | break_
  | continue_

/-- Steps of a run. -/
abbrev Steps := ExceptT Leaving (StateT Desk Running)

namespace Steps

/-- Do something for the program. -/
def running {α : Type} (steps : Running α) : Steps α := ExceptT.lift (StateT.lift steps)

/-- Have the host do something. -/
def ask {α : Type} (course : Course α) : Steps α := running (Running.ask course)

/-- Write a message and end; what was not written yet comes after it. -/
def fail {α : Type} (message : Octets) : Steps α :=
  running (do
    Running.tell ((← Running.name) ++ [':', ' '] ++ message ++ ['\n'])
    throw 2)

/-- Let others go on from time to time. -/
def breathe : Steps Unit := do
  let desk ← get
  if 1 ≤ desk.steps then
    set { desk with steps := 0 }
    let _ ← ask Course.now
  else set { desk with steps := desk.steps + 1 }

/-! ## Variables -/

/-- What a name stands for. -/
def cell? (name : String) : Steps (Option Cell) := do
  let desk ← get
  return (desk.locals.lookup name).orElse (fun _ => desk.globals.get? name)

/-- Let a name stand for something. -/
def setCell (name : String) (cell : Cell) : Steps Unit :=
  modify (fun desk =>
    if desk.locals.any (fun entry => entry.1 = name) then
      { desk with
        locals := desk.locals.map (fun entry =>
          if entry.1 = name then (name, cell) else entry) }
    else { desk with globals := desk.globals.insert name cell })

/-- The value of a variable other than the number of fields. -/
def plainValue (name : String) : Steps Value := do
  match ← cell? name with
  | some (.value value) => return value
  | _ => return .unset

/-- How numbers are shown that are not whole. -/
def form (isOutput : Bool) : Steps Octets := do
  return (← plainValue (if isOutput then "OFMT" else "CONVFMT")).toText "%.6g".toList

/-- A value as a text. -/
def textOf (value : Value) : Steps Octets := do
  match value with
  | .text word | .input word => return word
  | value => return value.toText (← form false)

/-- The text of a variable. -/
def textNamed (name : String) : Steps Octets := do textOf (← plainValue name)

/-- The array that a name stands for; the name becomes one if it was not used yet. -/
def tableOf (name : String) : Steps Nat := do
  match ← cell? name with
  | some (.array number) => return number
  | _ =>
    let number := (← get).tables.size
    modify (fun desk => { desk with tables := desk.tables.push .empty })
    setCell name (.array number)
    return number

/-- Change an array. -/
def changeTable (number : Nat) (f : Table → Table) : Steps Unit :=
  modify (fun desk => { desk with tables := desk.tables.modify number f })

/-! ## Records -/

/-- Set the record, and cut it into fields. -/
def setRecord (record : Octets) : Steps Unit := do
  let separator := Separator.ofText (← textNamed "FS")
  let takesLines := (← textNamed "RS").isEmpty
  let fields := (fieldsOf separator takesLines record).map Value.input
  modify (fun desk => { desk with record, fields := fields.toArray })

/-- Put the record together from its fields. -/
def joinFields : Steps Unit := do
  let texts ← (← get).fields.toList.mapM textOf
  let between ← textNamed "OFS"
  modify (fun desk => { desk with record := Octets.joined between texts })

/-- The value of a variable. -/
def valueNamed (name : String) : Steps Value := do
  if name = "NF" then return .ofNat (← get).fields.size else plainValue name

/-- Set a variable. -/
def setNamed (name : String) (value : Value) : Steps Unit := do
  if name = "NF" then
    let count := (wholeOf value.quantity).toNat
    modify (fun desk =>
      { desk with
        fields := (desk.fields.extract 0 count) ++
          Array.replicate (count - desk.fields.size) Value.unset })
    joinFields
  else setCell name (.value value)

/-- The value of a field; that of number zero is the record. -/
def fieldAt (number : Nat) : Steps Value := do
  let desk ← get
  if number = 0 then return .input desk.record else return (desk.fields[number - 1]?).getD .unset

/-- Set a field. -/
def setField (number : Nat) (value : Value) : Steps Unit := do
  if number = 0 then setRecord (← textOf value)
  else
    modify (fun desk =>
      let padded := desk.fields ++ Array.replicate (number - desk.fields.size) Value.unset
      { desk with fields := padded.set! (number - 1) value })
    joinFields

/-! ## Inputs -/

/-- Take the next record of an input; `fuel` bounds how often more is read. -/
def recordFrom (separator : Octets) : Nat → Source → Steps (Option Octets × Source)
  | 0, source => return (none, source)
  | fuel + 1, source => do
    let pending := source.pending
    let more : Steps (Option Octets × Source) := do
      let (source, error?) ← running source.more
      match error? with
      | some error =>
        fail ("read error (".toList ++ error.reason.toList ++ [')'])
      | none => pure ()
      recordFrom separator fuel source
    let last : Option Octets × Source :=
      (if pending.isEmpty then none else some pending, { source with pending := [] })
    match separator with
    | [c] =>
      match Octets.cutAt (· = c) pending with
      | (record, _ :: rest) => return (some record, { source with pending := rest })
      | (_, []) => if source.ended then return last else more
    | [] =>
      let inner := pending.dropWhile (· = '\n')
      let rec blankLine : Octets → Octets → Option (Octets × Octets)
        | '\n' :: '\n' :: rest, taken => some (taken.reverse, rest)
        | c :: rest, taken => blankLine rest (c :: taken)
        | [], _ => none
      match blankLine inner [] with
      | some (record, rest) => return (some record, { source with pending := rest })
      | none =>
        if source.ended then
          let record := if inner.getLast? = some '\n' then inner.dropLast else inner
          return (if record.isEmpty then none else some record, { source with pending := [] })
        else more
    | separator =>
      let text := pending.toArray
      match (Separator.patternOf separator).find? text true 0 with
      | some found =>
        if found.stop < text.size ∨ (source.ended ∧ found.start < found.stop) then
          return (some (pending.take found.start),
            { source with pending := pending.drop found.stop })
        else if source.ended then return last else more
      | none =>
        if source.ended then
          let record := if pending.getLast? = some '\n' then pending.dropLast else pending
          return (if pending.isEmpty then none else some record, { source with pending := [] })
        else more

/-- Take the next record of an input. -/
def nextOf (source : Source) : Steps (Option Octets × Source) := do
  recordFrom (← textNamed "RS") Course.manyTimes source

/-- Set a variable as an operand asks for it, if it does. -/
def assignOperand (operand : Octets) : Steps Bool := do
  match Octets.cutAt (· = '=') operand with
  | (name, _ :: value) =>
    let isName := name.head?.any (fun c => c.isAlpha || c = '_') &&
      name.all (fun c => c.isAlphanum || c = '_')
    if isName then
      setNamed (String.ofList name) (.input value)
      return true
    else return false
  | _ => return false

/-- Open the next input among the operands; `fuel` bounds their number. -/
def openNext (unescape : Octets → Octets) : Nat → Steps Bool
  | 0 => return false
  | fuel + 1 => do
    let desk ← get
    let count := (wholeOf (← plainValue "ARGC").quantity).toNat
    if count ≤ desk.operand then
      if desk.hasRead then return false
      else
        set { desk with main := some (.ofDescriptor 0), hasRead := true }
        return true
    else
      set { desk with operand := desk.operand + 1 }
      let arguments ← tableOf "ARGV"
      let table := ((← get).tables[arguments]?).getD .empty
      let operand ← match table.entries.get? (toString desk.operand) with
        | some entry => textOf entry.value
        | none => pure []
      if operand.isEmpty then openNext unescape fuel
      else if ← assignOperand (unescape operand) then openNext unescape fuel
      else
        setNamed "FILENAME" (.text operand)
        setNamed "FNR" (.ofNat 0)
        if operand = ['-'] ∨ operand = "/dev/stdin".toList then
          modify (fun desk => { desk with main := some (.ofDescriptor 0), hasRead := true })
          return true
        else
          match ← ask (Course.openFile ⟨Octets.toText operand⟩ .read) with
          | .ok handle =>
            let descriptor ← ask (Course.keep handle)
            modify (fun desk =>
              { desk with main := some (.ofDescriptor descriptor), hasRead := true })
            return true
          | .error error =>
            fail ("cannot open \"".toList ++ operand ++ "\" (".toList ++ error.reason.toList ++
              [')'])

/-- Count a record. -/
def count (name : String) : Steps Unit := do
  let n := wholeOf (← plainValue name).quantity
  setNamed name (.ofInt (n + 1))

/-- The next record of the operands; `fuel` bounds the number of inputs. -/
def nextMain (unescape : Octets → Octets) : Nat → Steps (Option Octets)
  | 0 => return none
  | fuel + 1 => do
    match (← get).main with
    | some source =>
      let (record?, source) ← nextOf source
      match record? with
      | some record =>
        modify (fun desk => { desk with main := some source })
        count "NR"
        count "FNR"
        return some record
      | none =>
        if source.descriptor ≠ 0 then ask (Course.redirect source.descriptor none)
        modify (fun desk => { desk with main := none })
        nextMain unescape fuel
    | none =>
      if ← openNext unescape Course.manyTimes then nextMain unescape fuel else return none

/-- Leave the input that is read. -/
def leaveInput : Steps Unit := do
  match (← get).main with
  | some source =>
    if source.descriptor ≠ 0 then ask (Course.redirect source.descriptor none)
    modify (fun desk => { desk with main := none })
  | none => return ()

/-! ## Outputs -/

/-- Write what an output has kept. -/
def flushOutlet (outlet : Outlet) : Steps Outlet := do
  let text := outlet.kept.reverse.flatten
  if text.isEmpty then return outlet
  else
    let _ ← ask (Course.write outlet.descriptor text)
    return { outlet with kept := [] }

/-- Write what all outputs have kept. -/
def flushAll : Steps Unit := do
  running Running.flush
  let outlets ← (← get).outlets.mapM (fun (name, outlet) =>
    return (name, ← flushOutlet outlet))
  modify (fun desk => { desk with outlets })

/-- Write what an output of a name has kept. -/
def flushNamed (name : Octets) : Steps Unit := do
  let outlets ← (← get).outlets.mapM (fun (given, outlet) =>
    return (given, ← if given = name then flushOutlet outlet else pure outlet))
  modify (fun desk => { desk with outlets })

/-- Close an output, and wait for the process that reads it. -/
def closeOutlet (outlet : Outlet) : Steps Nat := do
  let outlet ← flushOutlet outlet
  ask (Course.redirect outlet.descriptor none)
  match outlet.reader with
  | some child => return (← ask (Course.fateOf child)).status
  | none => return 0

/-- Close an input, and wait for the process that writes it. -/
def closeInlet (inlet : Inlet) : Steps Nat := do
  ask (Course.redirect inlet.source.descriptor none)
  match inlet.writer with
  | some child => return (← ask (Course.fateOf child)).status
  | none => return 0

/-- Close what was opened under a name. -/
def close (name : Octets) : Steps Int := do
  let desk ← get
  match desk.outlets.lookup name, desk.inlets.lookup name with
  | some outlet, _ =>
    set { desk with outlets := desk.outlets.filter (fun entry => entry.1 ≠ name) }
    return ← closeOutlet outlet
  | none, some inlet =>
    set { desk with inlets := desk.inlets.filter (fun entry => entry.1 ≠ name) }
    return ← closeInlet inlet
  | none, none => return -1

/-- Close all outputs. -/
def closeAll : Steps Unit := do
  let desk ← get
  set { desk with outlets := [] }
  for (_, outlet) in desk.outlets do
    let _ ← closeOutlet outlet

/-- Number of octets that an output keeps. -/
def mostKept : Nat := 4096

/-- Write to an open output. -/
def writeTo (name text : Octets) : Steps Unit := do
  match (← get).outlets.lookup name with
  | none => return ()
  | some outlet =>
    let outlet := { outlet with kept := text :: outlet.kept }
    let size := outlet.kept.foldl (fun n piece => n + piece.length) 0
    let outlet ← if mostKept < size then flushOutlet outlet else pure outlet
    modify (fun desk =>
      { desk with
        outlets := desk.outlets.map (fun entry =>
          if entry.1 = name then (name, outlet) else entry) })

/-- Open a file to write to it, unless it is open. -/
def openOutlet (name : Octets) (atEnd : Bool) : Steps Unit := do
  if ((← get).outlets.lookup name).isNone then
    match ← ask (Course.openFile ⟨Octets.toText name⟩ (if atEnd then .append else .overwrite)) with
    | .ok handle =>
      let descriptor ← ask (Course.keep handle)
      modify (fun desk => { desk with outlets := (name, ⟨descriptor, none, []⟩) :: desk.outlets })
    | .error error =>
      fail ("cannot open \"".toList ++ name ++ "\" for output (".toList ++ error.reason.toList ++
        [')'])

/-- Write to a file, the output or the diagnostics. -/
def writeFile (name : Octets) (atEnd : Bool) (text : Octets) : Steps Unit := do
  if name = "/dev/stdout".toList ∨ name = ['-'] then running (Running.put text)
  else if name = "/dev/stderr".toList then running (Running.tell text)
  else
    openOutlet name atEnd
    writeTo name text

end Steps

end PubSubTrials.Records
