import PubSubTrials.Files.Store
import PubSubTrials.Json.Decoder
import PubSubTrials.Suite

/-!
# Suite files

A suite can be written in JSON: an object with the suite's name, an optional description and
its cases, each with a name, an optional description, check and timeout in seconds, and its
entities. Fields that are not known, repeated or missing are refused, and so is a suite that is
not sound.
-/

namespace PubSubTrials

open Json Reader

/-- Why a suite file is refused. -/
inductive LoadError where
  | unreadable (path : String) (error : FileError)
  | malformed (path : String) (fault : Json.Fault)
  | unsound (path : String) (error : SuiteError)
  deriving DecidableEq, Repr

/-- How the refusal of a suite file reads. -/
def LoadError.message : LoadError → String
  | unreadable path error => "failed to read suite file " ++ path ++ ": " ++ error.message
  | malformed path fault => "failed to parse JSON in " ++ path ++ ": " ++ fault.message
  | unsound path error => "invalid suite in " ++ path ++ ": " ++ error.message

namespace Suite

/-- Read the name of a role. -/
def readRole : Reader Role := named Role.ofName? (Role.all.map Role.name)

/-- Read the name of a check. -/
def readCheck : Reader Check := named Check.ofName? (Check.all.map Check.name)

/-- Read the name of an outcome. -/
def readOutcome : Reader Outcome := named Outcome.ofName? (Outcome.all.map Outcome.name)

/-- The fields of an entity read so far. -/
structure EntityFields where
  role : Option Role
  parameters : Option String
  expected : Option Outcome

/-- An entity as it is written. -/
def entityRecord : Record EntityFields where
  title := "struct EntityFile"
  closed := true
  fields :=
    [⟨"role", true, fun e => e.role.isSome, fun e => return { e with role := some (← readRole) }⟩,
     ⟨"parameters", false, fun e => e.parameters.isSome,
       fun e => return { e with parameters := some (← string) }⟩,
     ⟨"expected", true, fun e => e.expected.isSome,
       fun e => return { e with expected := some (← readOutcome) }⟩]

/-- The entity of fields that were read; required ones are there. -/
def EntityFields.toEntity (fields : EntityFields) : Entity :=
  ⟨fields.role.getD default, fields.parameters.getD "", fields.expected.getD default⟩

/-- Read an entity. -/
def readEntity : Reader Entity := do
  return (← entityRecord.read ⟨none, none, none⟩).toEntity

/-- The fields of a case read so far. -/
structure CaseFields where
  name : Option String
  description : Option (Option String)
  check : Option Check
  timeoutSeconds : Option (Option Nat)
  entities : Option (List Entity)

/-- A case as it is written. -/
def caseRecord : Record CaseFields where
  title := "struct CaseFile"
  closed := true
  fields :=
    [⟨"name", true, fun c => c.name.isSome, fun c => return { c with name := some (← string) }⟩,
     ⟨"description", false, fun c => c.description.isSome,
       fun c => return { c with description := some (← orNull string) }⟩,
     ⟨"check", false, fun c => c.check.isSome,
       fun c => return { c with check := some (← readCheck) }⟩,
     ⟨"timeout_sec", false, fun c => c.timeoutSeconds.isSome,
       fun c => return { c with timeoutSeconds := some (← orNull (natural "u64")) }⟩,
     ⟨"entities", true, fun c => c.entities.isSome,
       fun c => return { c with entities := some (← list readEntity) }⟩]

/-- The case of fields that were read; required ones are there. -/
def CaseFields.toCase (fields : CaseFields) : Case where
  name := fields.name.getD ""
  description := fields.description.getD none
  entities := fields.entities.getD []
  check := fields.check.getD .noCheck
  timeout := (fields.timeoutSeconds.getD none).map Duration.ofSeconds

/-- Read a case. -/
def readCase : Reader Case := do
  return (← caseRecord.read ⟨none, none, none, none, none⟩).toCase

/-- The fields of a suite read so far. -/
structure SuiteFields where
  name : Option String
  description : Option (Option String)
  cases : Option (List Case)

/-- A suite as it is written. -/
def suiteRecord : Record SuiteFields where
  title := "struct SuiteFile"
  closed := true
  fields :=
    [⟨"name", true, fun s => s.name.isSome, fun s => return { s with name := some (← string) }⟩,
     ⟨"description", false, fun s => s.description.isSome,
       fun s => return { s with description := some (← orNull string) }⟩,
     ⟨"cases", true, fun s => s.cases.isSome,
       fun s => return { s with cases := some (← list readCase) }⟩]

/-- The suite of fields that were read; required ones are there. -/
def SuiteFields.toSuite (fields : SuiteFields) : Suite :=
  ⟨fields.name.getD "", fields.description.getD none, fields.cases.getD []⟩

/-- Read a suite, sound or not. -/
def readSuite : Reader Suite := do
  return (← suiteRecord.read ⟨none, none, none⟩).toSuite

/-- The suite of a JSON text that comes from `origin`. -/
def parse (text origin : String) : Except LoadError Suite :=
  match Json.decode readSuite text.toList with
  | .error fault => .error (.malformed origin fault)
  | .ok suite =>
    match suite.fault? with
    | some fault => .error (.unsound origin fault)
    | none => .ok suite

/-- The suite of a file. -/
def load {σ : Type} [FileStore σ] (store : σ) (path : Path) : Except LoadError Suite :=
  match FileStore.read store path with
  | .error error => .error (.unreadable path.text error)
  | .ok text => parse text path.text

end Suite

end PubSubTrials
