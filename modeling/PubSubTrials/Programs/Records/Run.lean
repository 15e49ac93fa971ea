import PubSubTrials.Decimal.Functions
import PubSubTrials.Programs.Records.Desk
import PubSubTrials.Programs.Records.Token

/-!
# Carrying out record scripts

Expressions have values, and statements are carried out for their effects. Both are bounded by fuel,
which is meant never to run out.
-/

namespace PubSubTrials.Records

open Decimal (Quantity)
open Host (Course)
open Programs (Running Source)

/-- What a run is about. -/
structure Plan where
  script : RuleSet
  /-- Run programs. -/
  execute : Shell.Executor

namespace Steps

/-! ## Commands of the shell -/

/-- Let a shell carry out a command in the place of this process. -/
def shellCourse (plan : Plan) (shell : String) (command : Octets) (enter : Course Unit) :
    Steps (Course Nat) := do
  let call ← running (return (← get).call)
  let steps : Running Unit := do
    Running.ask enter
    let _ ← Running.become plan.execute call.environment
      [shell.toList, "-c".toList, command]
    throw 127
  return Running.course steps call

/-- Let a shell carry out a command; the answer is its status. -/
def system (plan : Plan) (command : Octets) : Steps Nat := do
  flushAll
  let course ← shellCourse plan "sh" command (pure ())
  let child ← ask (Course.fork course)
  match ← ask (Course.fateOf child) with
  | .ended signal => return 256 + signal
  | fate => return fate.status

/-- Start a command with one end of a pipe; the answer is the descriptor of the other end, and the
process. -/
def connect (plan : Plan) (command : Octets) (writes : Bool) : Steps (Nat × Nat) := do
  running Running.flush
  let pipe ← ask Course.pipe
  let own ← ask (Course.keep (.pipe pipe writes))
  let other ← ask (Course.keep (.pipe pipe !writes))
  let course ← shellCourse plan "/bin/sh" command
    (Course.redirect (if writes then 0 else 1) (some (.pipe pipe !writes)))
  let child ← ask (Course.fork course)
  ask (Course.redirect other none)
  return (own, child)

/-- Write to a command. -/
def writeCommand (plan : Plan) (command text : Octets) : Steps Unit := do
  if ((← get).outlets.lookup command).isNone then
    let (descriptor, child) ← connect plan command true
    modify (fun desk =>
      { desk with outlets := (command, ⟨descriptor, some child, []⟩) :: desk.outlets })
  writeTo command text

/-- The next record of an open input. -/
def recordOf (name : Octets) : Steps (Option Octets) := do
  match (← get).inlets.lookup name with
  | none => return none
  | some inlet =>
    let (record?, source) ← nextOf inlet.source
    modify (fun desk =>
      { desk with
        inlets := desk.inlets.map (fun entry =>
          if entry.1 = name then (name, { inlet with source }) else entry) })
    return record?

/-- Open a file to read records, unless it is open; the answer tells whether it is then. -/
def openInlet (name : Octets) : Steps Bool := do
  if ((← get).inlets.lookup name).isSome then return true
  else
    let add (descriptor : Nat) : Steps Bool := do
      modify (fun desk =>
        { desk with inlets := (name, ⟨.ofDescriptor descriptor, none⟩) :: desk.inlets })
      return true
    if name = ['-'] ∨ name = "/dev/stdin".toList then add 0
    else
      match ← ask (Course.openFile ⟨Octets.toText name⟩ .read) with
      | .ok handle => add (← ask (Course.keep handle))
      | .error _ => return false

/-! ## Values -/

/-- The pattern that a text stands for. -/
def patternOf (text : Octets) : Steps Regex.Pattern := do
  let desk ← get
  match desk.patterns.lookup text with
  | some pattern => return pattern
  | none =>
    match Regex.parse .record false text with
    | .ok pattern =>
      set { desk with patterns := (text, pattern) :: desk.patterns.take 20 }
      return pattern
    | .error fault =>
      fail ("run time error: regular expression compile failed (".toList ++
        fault.message.toList ++ ")\n".toList ++ text)

/-- Calculate with two numbers. -/
def calculated (operator : Arithmetic) (a b : Quantity) : Quantity :=
  match operator with
  | .add => a.add b
  | .subtract => a.sub b
  | .multiply => a.mul b
  | .divide => a.div b
  | .remainder => a.remainder b
  | .power => a.power b

/-- A value shown by a format. -/
def formattedBy (function : String) (values : List Value) : Steps (Octets × Option Octets) := do
  let form ← form false
  match values with
  | [] => return ([], none)
  | first :: rest =>
    let text ← textOf first
    let (shown, fault) := format form text rest
    let quote : Octets := function.toList ++ "(\"".toList ++ text ++ "\")".toList
    match fault with
    | none => return (shown, none)
    | some .missing =>
      return (shown, some ("not enough arguments passed to ".toList ++ quote))
    | some (.improper number) =>
      return (shown,
        some ("improper conversion(number ".toList ++ Octets.ofNat number ++ ") in ".toList ++
          quote))

/-- End because of what happened while a script was carried out. -/
def failRunning {α : Type} (message : Octets) : Steps α := do
  let file ← textNamed "FILENAME"
  let fileRecords ← textOf (.ofInt (wholeOf (← plainValue "FNR").quantity))
  let records ← textOf (.ofInt (wholeOf (← plainValue "NR").quantity))
  fail ("run time error: ".toList ++ message ++ "\n\tFILENAME=\"".toList ++ file ++
    "\" FNR=".toList ++ fileRecords ++ " NR=".toList ++ records)

/-- Carry out statements; how they are left is the answer. -/
def catching (steps : Steps Unit) : Steps (Except Leaving Unit) :=
  ExceptT.lift steps.run

/-- Go on after the body of a loop, unless it was left for good. -/
def afterBody (left : Except Leaving Unit) (again : Steps Unit) : Steps Unit :=
  match left with
  | .ok () | .error .continue_ => again
  | .error .break_ => return ()
  | .error leaving => throw leaving

/-- Carry out the body of a loop for every key. -/
def eachKey (body : String → Steps (Except Leaving Unit)) : List String → Steps Unit
  | [] => return ()
  | key :: rest => do
    breathe
    afterBody (← body key) (eachKey body rest)

/-- What a match of a pattern in a text sets. -/
def setMatch (start length : Int) : Steps Value := do
  setNamed "RSTART" (.ofInt start)
  setNamed "RLENGTH" (.ofInt length)
  return .ofInt start

/-- Set the elements of an array to texts. -/
def setElements (number : Nat) (texts : List Octets) : Steps Unit :=
  changeTable number (fun _ =>
    (texts.zipIdx 1).foldl (fun table (text, i) => table.set (toString i) (.input text)) .empty)

/-- The value of a function of one number. -/
def numeric? (name : String) : Option (Quantity → Quantity) :=
  match name with
  | "sin" => some (Quantity.apply Float.sin)
  | "cos" => some (Quantity.apply Float.cos)
  | "exp" => some (Quantity.apply Float.exp)
  | "log" => some (Quantity.apply Float.log)
  | "sqrt" => some (Quantity.apply Float.sqrt)
  | "int" => some (fun x => if x.isFinite then Quantity.ofInt x.truncated else x)
  | _ => none

/-- The value of a function of values that every script has. -/
def builtIn (plan : Plan) (name : String) (values : List Value) : Steps Value := do
  let text (i : Nat) : Steps Octets := do textOf (values.getD i .unset)
  let number (i : Nat) : Quantity := (values.getD i .unset).quantity
  match name with
  | "length" => return .ofNat (← text 0).length
  | "substr" =>
    let length := (values[2]?).map (fun value => wholeOf value.quantity)
    return .text (partOf (← text 0) (wholeOf (number 1)) length)
  | "index" =>
    let whole := (← text 0).toArray
    let part ← text 1
    let place := (List.range (whole.size + 1)).find? (fun i =>
      (whole.extract i (i + part.length)).toList = part)
    return .ofNat (match place with
      | some i => i + 1
      | none => 0)
  | "sprintf" =>
    let (shown, fault?) ← formattedBy name values
    match fault? with
    | some message => failRunning message
    | none => return .text shown
  | "atan2" => return .number ((number 0).angle (number 1))
  | "rand" =>
    let desk ← get
    let seed := (desk.seed * 1103515245 + 12345) % 2147483648
    set { desk with seed }
    return .number (Quantity.ofSigned seed 2147483648)
  | "srand" =>
    let desk ← get
    set { desk with seed := (wholeOf (number 0)).natAbs }
    return .ofNat desk.seed
  | "tolower" => return .text ((← text 0).map Char.toLower)
  | "toupper" => return .text ((← text 0).map Char.toUpper)
  | "system" => return .ofNat (← system plan (← text 0))
  | "close" => return .ofInt (← close (← text 0))
  | "fflush" =>
    if values.isEmpty then running Running.flush else flushNamed (← text 0)
    return .ofNat 0
  | name =>
    match numeric? name with
    | some f => return .number (f (number 0))
    | none => return .unset

mutual

/-- The value of an expression. -/
def eval (plan : Plan) : Nat → Expr → Steps Value
  | 0, _ => ask Course.hang
  | fuel + 1, expr => do
    let value (expr : Expr) : Steps Value := eval plan fuel expr
    let number (expr : Expr) : Steps Quantity := return (← eval plan fuel expr).quantity
    let text (expr : Expr) : Steps Octets := do textOf (← eval plan fuel expr)
    let key (subscripts : List Expr) : Steps String := do
      let texts ← subscripts.mapM (fun expr => do textOf (← eval plan fuel expr))
      return String.ofList (Octets.joined (← textNamed "SUBSEP") texts)
    let patternFor (expr : Expr) : Steps Regex.Pattern := do
      match expr with
      | .pattern pattern | .group [.pattern pattern] => return pattern
      | expr => patternOf (← textOf (← eval plan fuel expr))
    let fieldNumber (expr : Expr) : Steps Nat := do
      let n := wholeOf (← eval plan fuel expr).quantity
      if n < 0 then failRunning ("negative field index $".toList ++ Octets.ofInt n)
      else return n.toNat
    let assign (target : Expr) (value : Value) : Steps Unit := do
      match target with
      | .variable_ name => setNamed name value
      | .field expr => setField (← fieldNumber expr) value
      | .element name subscripts =>
        let key ← key subscripts
        changeTable (← tableOf name) (·.set key value)
      | _ => return ()
    let received (target : Option Expr) (record : Octets) : Steps Value := do
      match target with
      | some target => assign target (.input record)
      | none => setRecord record
      return .ofNat 1
    match expr with
    | .number n => return .number n
    | .text word => return .text word
    | .pattern pattern => return .ofBool (pattern.matches? (← get).record)
    | .variable_ name => valueNamed name
    | .field expr => do fieldAt (← fieldNumber expr)
    | .element name subscripts =>
      let key ← key subscripts
      let table ← tableOf name
      match ((← get).tables[table]?).bind (fun table => table.entries.get? key) with
      | some entry => return entry.value
      | none =>
        changeTable table (·.set key .unset)
        return .unset
    | .assign operator target inner =>
      let right ← value inner
      let right ← match operator with
        | none => pure right
        | some operator => do
          pure (.number (calculated operator (← number target) right.quantity))
      assign target right
      return right
    | .step target isUp isBefore =>
      let old ← number target
      let new := old.add (Quantity.ofInt (if isUp then 1 else -1))
      assign target (.number new)
      return .number (if isBefore then new else old)
    | .choose condition yes no =>
      if (← value condition).isTrue then value yes else value no
    | .either left right =>
      if (← value left).isTrue then return .ofBool true
      else return .ofBool (← value right).isTrue
    | .both left right =>
      if (← value left).isTrue then return .ofBool (← value right).isTrue
      else return .ofBool false
    | .isKey subscripts name =>
      let key ← key subscripts
      let table ← tableOf name
      return .ofBool (((← get).tables[table]?).any (fun table => table.entries.contains key))
    | .matching negated left right =>
      let left ← text left
      return .ofBool (((← patternFor right).matches? left) != negated)
    | .compare comparison left right =>
      let left ← value left
      let right ← value right
      let (isLess, isEqual) := compareValues (← form false) left right
      let isMore := (compareValues (← form false) right left).1
      return .ofBool (match comparison with
        | .less => isLess
        | .notMore => isLess || isEqual
        | .equal => isEqual
        | .different => !isEqual
        | .more => isMore
        | .notLess => isMore || isEqual)
    | .join left right =>
      let left ← text left
      return .text (left ++ (← text right))
    | .calculate operator left right =>
      let left ← number left
      return .number (calculated operator left (← number right))
    | .negative inner => return .number (← number inner).neg
    | .positive inner => return .number (← number inner)
    | .not inner => return .ofBool !(← value inner).isTrue
    | .group [inner] => value inner
    | .group inner => return .text (String.toList (← key inner))
    | .call name arguments => call plan fuel name arguments
    | .builtIn name none => builtIn plan name [.text (← get).record]
    | .builtIn "length" (some [.variable_ name]) =>
      match ← cell? name with
      | some (.array table) =>
        return .ofNat (((← get).tables[table]?).elim 0 (fun table => table.entries.size))
      | _ => builtIn plan "length" [← valueNamed name]
    | .builtIn "split" (some (whole :: .variable_ array :: rest)) =>
      let whole ← text whole
      let separator ← match rest with
        | [] => do pure (Separator.ofText (← textNamed "FS"))
        | .pattern pattern :: _ => pure (Separator.pattern pattern)
        | expr :: _ => do pure (Separator.ofText (← text expr))
      let parts := fieldsOf separator false whole
      setElements (← tableOf array) parts
      return .ofNat parts.length
    | .builtIn "match" (some [whole, pattern]) =>
      let whole ← text whole
      match (← patternFor pattern).find? whole.toArray true 0 with
      | some found => setMatch (found.start + 1) (found.stop - found.start : Nat)
      | none => setMatch 0 (-1)
    | .builtIn name (some arguments) =>
      if name = "sub" ∨ name = "gsub" then
        match arguments with
        | pattern :: source :: rest =>
          let pattern ← patternFor pattern
          let source ← text source
          let target := rest.head?.getD (.field (.number Quantity.zero))
          let (changed, count) := substitute pattern source (name = "gsub") (← text target)
          if 0 < count then assign target (.text changed)
          return .ofNat count
        | _ => return .unset
      else builtIn plan name (← arguments.mapM (fun expr => eval plan fuel expr))
    | .nextRecord target =>
      match ← nextMain Token.unescaped Course.manyTimes with
      | some record => received target record
      | none => return .ofNat 0
    | .fromFile target file =>
      let name ← text file
      if ← openInlet name then
        match ← recordOf name with
        | some record => received target record
        | none => return .ofNat 0
      else return .ofInt (-1)
    | .fromCommand target command =>
      let command ← text command
      if ((← get).inlets.lookup command).isNone then
        let (descriptor, child) ← connect plan command false
        modify (fun desk =>
          { desk with
            inlets := (command, ⟨.ofDescriptor descriptor, some child⟩) :: desk.inlets })
      match ← recordOf command with
      | some record =>
        count "NR"
        received target record
      | none => return .ofNat 0

/-- The value of a function of the script. -/
def call (plan : Plan) : Nat → String → List Expr → Steps Value
  | 0, _, _ => ask Course.hang
  | fuel + 1, name, arguments => do
    match plan.script.functions.find? (fun function => function.name = name) with
    | none => fail ("function ".toList ++ Octets.ofString name ++ " never defined".toList)
    | some function =>
      breathe
      let cells ← arguments.mapM (fun expr => do
        match expr with
        | .variable_ name =>
          match ← cell? name with
          | some (.array number) => return Cell.array number
          | _ => return Cell.value (← valueNamed name)
        | expr => return Cell.value (← eval plan fuel expr))
      let missing := function.parameters.length - cells.length
      let locals := function.parameters.zip (cells ++ List.replicate missing (.value .unset))
      let before := (← get).locals
      modify (fun desk => { desk with locals })
      let left ← catching (exec plan fuel function.body)
      let after := (← get).locals
      modify (fun desk => { desk with locals := before })
      for (expr, cell) in arguments.zip (after.map Prod.snd) do
        match expr, cell with
        | .variable_ name, .array number =>
          match ← cell? name with
          | some (.array _) => pure ()
          | _ => setCell name (.array number)
        | _, _ => pure ()
      match left with
      | .ok () => return .unset
      | .error (.return_ value) => return value
      | .error leaving => throw leaving

/-- Carry out a statement. -/
def exec (plan : Plan) : Nat → Statement → Steps Unit
  | 0, _ => ask Course.hang
  | fuel + 1, statement => do
    let value (expr : Expr) : Steps Value := eval plan fuel expr
    let text (expr : Expr) : Steps Octets := do textOf (← eval plan fuel expr)
    let write (target : Option Target) (shown : Octets) : Steps Unit := do
      match target with
      | none => running (Running.put shown)
      | some (.file name) => writeFile (← text name) false shown
      | some (.fileEnd name) => writeFile (← text name) true shown
      | some (.command command) => writeCommand plan (← text command) shown
    match statement with
    | .block statements => statements.forM (fun inner => exec plan fuel inner)
    | .condition condition yes no =>
      if (← value condition).isTrue then exec plan fuel yes
      else
        match no with
        | some no => exec plan fuel no
        | none => return ()
    | .whileTrue condition body =>
      breathe
      if (← value condition).isTrue then
        afterBody (← catching (exec plan fuel body)) (exec plan fuel statement)
    | .doWhile body condition =>
      breathe
      afterBody (← catching (exec plan fuel body)) (do
        if (← value condition).isTrue then exec plan fuel statement)
    | .forLoop start condition step body =>
      exec plan fuel start
      breathe
      let goesOn ← match condition with
        | some expr => do pure (← value expr).isTrue
        | none => pure true
      if goesOn then
        afterBody (← catching (exec plan fuel body)) (do
          exec plan fuel step
          exec plan fuel (.forLoop (.block []) condition step body))
    | .forKeys name array body =>
      let table ← tableOf array
      let keys := (((← get).tables[table]?).getD .empty).keys
      eachKey (fun key => do
        setNamed name (.input key.toList)
        catching (exec plan fuel body)) keys
    | .expr expr =>
      let _ ← value expr
    | .print values target =>
      let shown ← if values.isEmpty then pure (← get).record
        else do
          let form ← form true
          let texts ← values.mapM (fun expr => return (← eval plan fuel expr).toText form)
          pure (Octets.joined (← textNamed "OFS") texts)
      write target (shown ++ (← textNamed "ORS"))
    | .printf values target =>
      let values ← values.mapM (fun expr => eval plan fuel expr)
      let (shown, fault?) ← formattedBy "printf" values
      write target shown
      match fault? with
      | some message => failRunning message
      | none => return ()
    | .next => throw .next
    | .nextFile => throw .nextFile
    | .exit status =>
      match status with
      | some expr =>
        let n := wholeOf (← value expr).quantity
        modify (fun desk => { desk with status := (n % 256).toNat })
      | none => pure ()
      throw .exit
    | .return_ none => throw (.return_ .unset)
    | .return_ (some expr) => throw (.return_ (← value expr))
    | .break_ => throw .break_
    | .continue_ => throw .continue_
    | .remove name none =>
      changeTable (← tableOf name) (fun _ => .empty)
    | .remove name (some subscripts) =>
      let texts ← subscripts.mapM (fun expr => do textOf (← eval plan fuel expr))
      let key := String.ofList (Octets.joined (← textNamed "SUBSEP") texts)
      changeTable (← tableOf name) (fun table =>
        { table with entries := table.entries.erase key })

end

end Steps

end PubSubTrials.Records
