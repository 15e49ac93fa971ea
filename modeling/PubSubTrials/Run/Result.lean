import PubSubTrials.Case
import PubSubTrials.Text.Lines

/-!
# Results

What came of running a case: for every entity its outcome and what it printed. A case has
passed when every entity did what was expected of it; for the others there are mismatches in
one line each, and diagnostics that show what they printed.
-/

namespace PubSubTrials

/-- What came of one entity. -/
structure EntityResult where
  label : String
  role : Role
  parameters : String
  expected : Outcome
  actual : Outcome
  /-- What it printed, as far as that was kept. -/
  output : String
  deriving DecidableEq, Repr, Inhabited

namespace EntityResult

/-- Whether an entity did what was expected. -/
def meets (result : EntityResult) : Bool :=
  result.expected == result.actual

/-- An outcome that was not expected, with its meaning. -/
def mismatch (result : EntityResult) : String :=
  result.label ++ ": expected " ++ result.expected.name ++ ", got " ++ result.actual.name ++
    " (" ++ result.actual.description ++ ")"

/-- An outcome that was not expected, with what the entity was asked for and what it printed. -/
def diagnostics (result : EntityResult) : List String :=
  (result.label ++ " (" ++ result.role.name ++ " " ++ result.parameters ++ "): expected " ++
      result.expected.name ++ ", got " ++ result.actual.name) ::
    (Text.lines result.output).map (fun line => "  | " ++ line)

end EntityResult

/-- What came of a case. -/
structure CaseResult where
  name : String
  entities : List EntityResult
  /-- How long it took. -/
  duration : Duration
  deriving DecidableEq, Repr, Inhabited

namespace CaseResult

/-- Whether every entity did what was expected. -/
def passed (result : CaseResult) : Bool :=
  result.entities.all EntityResult.meets

/-- The outcomes, entity by entity. -/
def outcomes (result : CaseResult) : List Outcome :=
  result.entities.map EntityResult.actual

/-- The entities that did not do what was expected. -/
def offenders (result : CaseResult) : List EntityResult :=
  result.entities.filter (fun entity => !entity.meets)

/-- One line for every outcome that was not expected. -/
def mismatches (result : CaseResult) : List String :=
  result.offenders.map EntityResult.mismatch

/-- The lines that explain a failure. -/
def diagnostics (result : CaseResult) : List String :=
  result.offenders.flatMap EntityResult.diagnostics

/-- How the verdict on a case reads. -/
def verdict (result : CaseResult) : String :=
  "test " ++ result.name ++ " ... " ++ (if result.passed then "ok" else "FAILED")

end CaseResult

/-- What came of a series of cases. -/
structure SeriesResult where
  cases : List CaseResult
  /-- Whether it was stopped before its last case. -/
  interrupted : Bool
  deriving DecidableEq, Repr, Inhabited

namespace SeriesResult

/-- Number of cases that passed. -/
def passed (result : SeriesResult) : Nat :=
  result.cases.countP CaseResult.passed

/-- Number of cases that did not pass. -/
def failed (result : SeriesResult) : Nat :=
  result.cases.length - result.passed

/-- Whether every case passed. -/
def allPassed (result : SeriesResult) : Bool :=
  result.cases.all CaseResult.passed

/-- How long all cases took together, if there is such a duration. -/
def duration? (result : SeriesResult) : Option Duration :=
  Duration.sum? (result.cases.map CaseResult.duration)

end SeriesResult

end PubSubTrials
