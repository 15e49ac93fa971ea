import PubSubTrials.Files.Store
import PubSubTrials.Json.Decoder
import PubSubTrials.Json.Printer
import PubSubTrials.Run.Result
import PubSubTrials.Suite.Document
import PubSubTrials.Timestamp

/-!
# Reports

The results of one pairing of implementations, in a form that is written to a file and read
back: who took part, the totals, and every case with its entities. Entities of cases that did
not pass keep what they printed.
-/

namespace PubSubTrials

/-- One entity of a report. -/
structure ReportedEntity where
  label : String
  role : Role
  parameters : String
  expected : Outcome
  actual : Outcome
  output : Option String
  deriving DecidableEq, Repr, Inhabited

/-- One case of a report. -/
structure ReportedCase where
  name : String
  passed : Bool
  durationMillis : Nat
  entities : List ReportedEntity
  deriving DecidableEq, Repr, Inhabited

/-- Numbers of cases. -/
structure Totals where
  cases : Nat
  passed : Nat
  failed : Nat
  deriving DecidableEq, Repr, Inhabited

/-- The results of one pairing. -/
structure Report where
  generatedAt : String
  publisher : String
  subscriber : String
  interrupted : Bool
  totals : Totals
  cases : List ReportedCase
  deriving DecidableEq, Repr, Inhabited

namespace Report

/-! ## From results -/

/-- The largest number of milliseconds that a report shows. -/
def maxMillis : Nat := 0xFFFFFFFFFFFFFFFF

/-- An entity as it is reported, with its output if `withOutput` says so. -/
def reportEntity (withOutput : Bool) (entity : EntityResult) : ReportedEntity :=
  ⟨entity.label, entity.role, entity.parameters, entity.expected, entity.actual,
    if withOutput then some entity.output else none⟩

/-- A case as it is reported. -/
def reportCase (case : CaseResult) : ReportedCase :=
  ⟨case.name, case.passed, min case.duration.millis maxMillis,
    case.entities.map (reportEntity (!case.passed))⟩

/-- The report of a series of cases. -/
def ofSeries (series : SeriesResult) (publisher subscriber : String) (moment : Timestamp) :
    Report :=
  ⟨moment.render, publisher, subscriber, series.interrupted,
    ⟨series.cases.length, series.passed, series.failed⟩, series.cases.map reportCase⟩

/-! ## As text -/

open Json

/-- An entity at a depth. -/
def printEntity (depth : Nat) (entity : ReportedEntity) : List Char :=
  printObject depth
    ([("label", printString entity.label), ("role", printString entity.role.name),
      ("parameters", printString entity.parameters),
      ("expected", printString entity.expected.name),
      ("actual", printString entity.actual.name)] ++
      (entity.output.map (fun text => ("output", printString text))).toList)

/-- A case at a depth. -/
def printCase (depth : Nat) (case : ReportedCase) : List Char :=
  printObject depth
    [("name", printString case.name), ("passed", printBool case.passed),
     ("duration_ms", printNat case.durationMillis),
     ("entities", printList (depth + 1) (case.entities.map (printEntity (depth + 2))))]

/-- Totals at a depth. -/
def printTotals (depth : Nat) (totals : Totals) : List Char :=
  printObject depth
    [("cases", printNat totals.cases), ("passed", printNat totals.passed),
     ("failed", printNat totals.failed)]

/-- A report as text. -/
def print (report : Report) : String :=
  String.ofList (printObject 0
    [("generated_at", printString report.generatedAt),
     ("publisher", printString report.publisher),
     ("subscriber", printString report.subscriber),
     ("interrupted", printBool report.interrupted),
     ("totals", printTotals 1 report.totals),
     ("cases", printList 1 (report.cases.map (printCase 2)))])

/-! ## From text -/

open Reader Suite

/-- The fields of an entity read so far. -/
structure EntityFields where
  label : Option String
  role : Option Role
  parameters : Option String
  expected : Option Outcome
  actual : Option Outcome
  output : Option (Option String)

/-- An entity as it is written. -/
def entityRecord : Record EntityFields where
  title := "struct EntityEntry"
  closed := false
  fields :=
    [⟨"label", true, fun e => e.label.isSome,
       fun e => return { e with label := some (← string) }⟩,
     ⟨"role", true, fun e => e.role.isSome, fun e => return { e with role := some (← readRole) }⟩,
     ⟨"parameters", true, fun e => e.parameters.isSome,
       fun e => return { e with parameters := some (← string) }⟩,
     ⟨"expected", true, fun e => e.expected.isSome,
       fun e => return { e with expected := some (← readOutcome) }⟩,
     ⟨"actual", true, fun e => e.actual.isSome,
       fun e => return { e with actual := some (← readOutcome) }⟩,
     ⟨"output", false, fun e => e.output.isSome,
       fun e => return { e with output := some (← orNull string) }⟩]

/-- The entity of fields that were read; required ones are there. -/
def EntityFields.toEntity (fields : EntityFields) : ReportedEntity :=
  ⟨fields.label.getD "", fields.role.getD default, fields.parameters.getD "",
    fields.expected.getD default, fields.actual.getD default, fields.output.getD none⟩

/-- Read an entity. -/
def readEntity : Reader ReportedEntity := do
  return (← entityRecord.read ⟨none, none, none, none, none, none⟩).toEntity

/-- The fields of a case read so far. -/
structure CaseFields where
  name : Option String
  passed : Option Bool
  durationMillis : Option Nat
  entities : Option (List ReportedEntity)

/-- A case as it is written. -/
def caseRecord : Record CaseFields where
  title := "struct CaseEntry"
  closed := false
  fields :=
    [⟨"name", true, fun c => c.name.isSome, fun c => return { c with name := some (← string) }⟩,
     ⟨"passed", true, fun c => c.passed.isSome,
       fun c => return { c with passed := some (← bool) }⟩,
     ⟨"duration_ms", true, fun c => c.durationMillis.isSome,
       fun c => return { c with durationMillis := some (← natural "u64") }⟩,
     ⟨"entities", true, fun c => c.entities.isSome,
       fun c => return { c with entities := some (← list readEntity) }⟩]

/-- The case of fields that were read; required ones are there. -/
def CaseFields.toCase (fields : CaseFields) : ReportedCase :=
  ⟨fields.name.getD "", fields.passed.getD false, fields.durationMillis.getD 0,
    fields.entities.getD []⟩

/-- Read a case. -/
def readCase : Reader ReportedCase := do
  return (← caseRecord.read ⟨none, none, none, none⟩).toCase

/-- The fields of totals read so far. -/
structure TotalsFields where
  cases : Option Nat
  passed : Option Nat
  failed : Option Nat

/-- Totals as they are written. -/
def totalsRecord : Record TotalsFields where
  title := "struct Totals"
  closed := false
  fields :=
    [⟨"cases", true, fun t => t.cases.isSome,
       fun t => return { t with cases := some (← natural "usize") }⟩,
     ⟨"passed", true, fun t => t.passed.isSome,
       fun t => return { t with passed := some (← natural "usize") }⟩,
     ⟨"failed", true, fun t => t.failed.isSome,
       fun t => return { t with failed := some (← natural "usize") }⟩]

/-- The totals of fields that were read; required ones are there. -/
def TotalsFields.toTotals (fields : TotalsFields) : Totals :=
  ⟨fields.cases.getD 0, fields.passed.getD 0, fields.failed.getD 0⟩

/-- Read totals. -/
def readTotals : Reader Totals := do
  return (← totalsRecord.read ⟨none, none, none⟩).toTotals

/-- The fields of a report read so far. -/
structure ReportFields where
  generatedAt : Option String
  publisher : Option String
  subscriber : Option String
  interrupted : Option Bool
  totals : Option Totals
  cases : Option (List ReportedCase)

/-- A report as it is written. -/
def reportRecord : Record ReportFields where
  title := "struct Report"
  closed := false
  fields :=
    [⟨"generated_at", true, fun r => r.generatedAt.isSome,
       fun r => return { r with generatedAt := some (← string) }⟩,
     ⟨"publisher", true, fun r => r.publisher.isSome,
       fun r => return { r with publisher := some (← string) }⟩,
     ⟨"subscriber", true, fun r => r.subscriber.isSome,
       fun r => return { r with subscriber := some (← string) }⟩,
     ⟨"interrupted", true, fun r => r.interrupted.isSome,
       fun r => return { r with interrupted := some (← bool) }⟩,
     ⟨"totals", true, fun r => r.totals.isSome,
       fun r => return { r with totals := some (← readTotals) }⟩,
     ⟨"cases", true, fun r => r.cases.isSome,
       fun r => return { r with cases := some (← list readCase) }⟩]

/-- The report of fields that were read; required ones are there. -/
def ReportFields.toReport (fields : ReportFields) : Report :=
  ⟨fields.generatedAt.getD "", fields.publisher.getD "", fields.subscriber.getD "",
    fields.interrupted.getD false, fields.totals.getD default, fields.cases.getD []⟩

/-- Read a report. -/
def readReport : Reader Report := do
  return (← reportRecord.read ⟨none, none, none, none, none, none⟩).toReport

/-- The report of a text. -/
def parse (text : String) : Except Json.Fault Report :=
  Json.decode readReport text.toList

/-! ## As a file -/

/-- The name of a report's file. -/
def fileName : Path := ⟨"report.json"⟩

/-- Where the report of a directory is. -/
def pathIn (directory : Path) : Path := directory.join fileName

end Report

/-- Why a report is not written. -/
inductive ReportError where
  | noDirectory (path : Path) (error : FileError)
  | notWritten (path : Path) (error : FileError)
  deriving DecidableEq, Repr

/-- How the failure to write a report reads. -/
def ReportError.message : ReportError → String
  | noDirectory path error =>
    "failed to create output directory " ++ path.text ++ ": " ++ error.message
  | notWritten path error => "failed to write " ++ path.text ++ ": " ++ error.message

/-- Write a report into a directory, which is made if it is missing; the answer is the path of
the file. -/
def Report.save {σ : Type} [FileStore σ] (report : Report) (directory : Path) (store : σ) :
    Except ReportError Path × σ :=
  match FileStore.makeDirectory directory store with
  | (.error error, store) => (.error (.noDirectory directory error), store)
  | (.ok (), store) =>
    let path := Report.pathIn directory
    match FileStore.write path (Text.encode report.print.toList) store with
    | (.error error, store) => (.error (.notWritten path error), store)
    | (.ok (), store) => (.ok path, store)

end PubSubTrials
