import PubSubTrials.Programs.Launchers
import PubSubTrials.Programs.Records.Reader
import PubSubTrials.Programs.Records.Run

/-!
# The program that carries out record scripts

The script is the first operand unless options name files that hold it. Rules for the start are
carried out first, then the other rules for every record, and rules for the end at last.
-/

namespace PubSubTrials.Programs

open Host (Course)
open Records (Condition Desk Leaving Plan Rule RuleSet Statement Steps Table Value)

namespace Awk

/-- What a rule does. -/
def act (plan : Plan) (rule : Rule) : Steps Unit :=
  Steps.exec plan Course.manyTimes (rule.action.getD (.print [] none))

/-- Carry out the rules for the start or for the end. -/
def runEdge (plan : Plan) (isStart : Bool) : Steps Unit :=
  plan.script.rules.forM (fun rule =>
    match rule.condition, isStart with
    | .start, true | .finish, false => act plan rule
    | _, _ => pure ())

/-- Carry out a rule for a record, if it applies. -/
def runRule (plan : Plan) (number : Nat) (rule : Rule) : Steps Unit := do
  let holds (expr : Records.Expr) : Steps Bool := do
    return (← Steps.eval plan Course.manyTimes expr).isTrue
  match rule.condition with
  | .start | .finish => return ()
  | .always => act plan rule
  | .when expr => if ← holds expr then act plan rule
  | .range first last =>
    let wasInside := (← get).inRange.contains number
    let isInside ← if wasInside then pure true else holds first
    if isInside then
      let ends ← holds last
      modify (fun desk =>
        { desk with
          inRange := (if ends then [] else [number]) ++ desk.inRange.filter (· ≠ number) })
      act plan rule

/-- Carry out the rules for every record. -/
def runRecords (plan : Plan) : Nat → Steps Unit
  | 0 => return ()
  | fuel + 1 => do
    match ← Steps.nextMain Records.Token.unescaped Course.manyTimes with
    | none => return ()
    | some record =>
      Steps.setRecord record
      let rules := plan.script.rules.zipIdx
      match ← Steps.catching (rules.forM (fun (rule, number) => runRule plan number rule)) with
      | .ok () | .error .next => runRecords plan fuel
      | .error .nextFile =>
        Steps.leaveInput
        runRecords plan fuel
      | .error leaving => throw leaving

/-- Whether a script has rules for records or for the end. -/
def readsRecords (script : RuleSet) : Bool :=
  script.rules.any (fun rule =>
    match rule.condition with
    | .start => false
    | _ => true)

/-- Carry out a script. -/
def run (plan : Plan) : Steps Unit := do
  let middle : Steps Unit := do
    runEdge plan true
    if readsRecords plan.script then runRecords plan Course.manyTimes
  let _ ← Steps.catching middle
  let _ ← Steps.catching (runEdge plan false)
  Steps.closeAll

/-- Variables before a script begins. -/
def initialGlobals : List (String × Value) :=
  [("FS", .text [' ']), ("OFS", .text [' ']), ("ORS", .text ['\n']), ("RS", .text ['\n']),
    ("SUBSEP", .text ['\x1c']), ("CONVFMT", .text "%.6g".toList), ("OFMT", .text "%.6g".toList),
    ("NR", .ofNat 0), ("FNR", .ofNat 0), ("RSTART", .ofNat 0), ("RLENGTH", .ofInt (-1)),
    ("FILENAME", .text [])]

/-- An array of texts. -/
def tableOf (entries : List (Octets × Octets)) : Table :=
  entries.foldl (fun table entry => table.set (String.ofList entry.1) (.input entry.2)) .empty

/-- The state before a script begins. -/
def desk (name : Octets) (operands : List Octets) (environment : List (Octets × Octets)) : Desk :=
  let arguments := (name :: operands).zipIdx.map (fun (word, i) => (Octets.ofNat i, word))
  let globals : Std.HashMap String Records.Cell :=
    initialGlobals.foldl (fun globals entry => globals.insert entry.1 (.value entry.2))
      (((∅ : Std.HashMap String Records.Cell).insert "ARGV" (.array 0)).insert "ENVIRON"
        (.array 1))
  { globals := globals.insert "ARGC" (.value (.ofNat arguments.length))
    locals := []
    tables := #[tableOf arguments, tableOf environment]
    record := []
    fields := #[]
    operand := 1
    hasRead := false
    main := none
    outlets := []
    inlets := []
    inRange := []
    patterns := []
    steps := 0
    seed := 1
    status := 0 }

/-- What the words of a call ask for. -/
structure Request where
  separator : Option Octets
  assignments : List Octets
  files : List Octets
  operands : List Octets

/-- Read the words of a call; `fuel` bounds their number. -/
def request : Nat → Request → List Octets → Running Request
  | 0, known, _ => return known
  | fuel + 1, known, words => do
    let valued (value : Octets) (rest : List Octets)
        (set : Octets → Request) : Running Request := do
      if !value.isEmpty then request fuel (set value) rest
      else
        match rest with
        | value :: rest => request fuel (set value) rest
        | [] => return known
    match words with
    | ['-', '-'] :: rest => return { known with operands := rest }
    | ('-' :: 'F' :: value) :: rest =>
      valued value rest (fun value => { known with separator := some value })
    | ('-' :: 'v' :: value) :: rest =>
      valued value rest (fun value =>
        { known with assignments := known.assignments ++ [value] })
    | ('-' :: 'f' :: value) :: rest =>
      valued value rest (fun value => { known with files := known.files ++ [value] })
    | ('-' :: 'W' :: value) :: rest => valued value rest (fun _ => known)
    | ('-' :: c :: more) :: _ =>
      let option : Octets := '-' :: c :: more
      Running.tell ((← Running.name) ++ ": not an option: ".toList ++ option ++ ['\n'])
      throw 2
    | operands => return { known with operands }

end Awk

open Awk in
/-- Carry out a record script. -/
def awk (execute : Shell.Executor) (arguments : List Octets) : Running Unit := do
  let fail {α : Type} (message : Octets) : Running α := do
    Running.tell ((← Running.name) ++ [':', ' '] ++ message ++ ['\n'])
    throw 2
  let request ← request (arguments.length + 1) ⟨none, [], [], []⟩ arguments
  let (source, operands) ←
    if request.files.isEmpty then
      match request.operands with
      | [] => do
        Running.tell ("Usage: ".toList ++ (← Running.name) ++
          " [Options] [Program] [file ...]\n".toList)
        throw 2
      | source :: operands => pure (source, operands)
    else do
      let texts ← request.files.mapM (fun name => textOf name (fun name error =>
        fail ("cannot open \"".toList ++ name ++ "\" (".toList ++ error.reason.toList ++ [')'])))
      pure (Octets.joined ['\n'] texts, request.operands)
  match RuleSet.parse source with
  | .error faults => do
    let name ← Running.name
    for fault in faults do
      Running.tell (name ++ [':', ' '] ++ fault ++ ['\n'])
    throw 2
  | .ok script =>
    let call := (← get).call
    let start : Steps Unit := do
      match request.separator with
      | some separator =>
        let separator := if separator = ['t'] then ['\t'] else Records.Token.unescaped separator
        Steps.setNamed "FS" (.text separator)
      | none => pure ()
      for assignment in request.assignments do
        let _ ← Steps.assignOperand (Records.Token.unescaped assignment)
      run ⟨script, execute⟩
    let (_, desk) ← start.run.run (desk call.name operands call.environment)
    Running.setStatus desk.status

/-- Programs that carry out record scripts. -/
def recording : List Program :=
  [.launcher "awk" awk, .launcher "mawk" awk]

end PubSubTrials.Programs
