import PubSubTrials.Case

/-!
# Suites

A suite is a named list of cases. It is sound when every case can be run and no two cases have
the same name; the first case that breaks this is the one that is reported.
-/

namespace PubSubTrials

/-- A named list of cases. -/
structure Suite where
  name : String
  description : Option String
  cases : List Case
  deriving DecidableEq, Repr, Inhabited

/-- Why a suite or a case of it is refused. -/
inductive SuiteError where
  | unknownSuite (name : String)
  | unknownCase (name : String)
  | duplicateSuite (name : String)
  | duplicateCase (suite case : String)
  | invalidCase (fault : CaseError)
  deriving DecidableEq, Repr

/-- How a suite's fault reads. -/
def SuiteError.message : SuiteError → String
  | unknownSuite name => "unknown suite: " ++ name
  | unknownCase name => "unknown test case: " ++ name
  | duplicateSuite name => "suite " ++ name ++ " is already registered"
  | duplicateCase suite case =>
    "test case " ++ case ++ " is declared twice in suite " ++ suite
  | invalidCase fault => fault.message

namespace Suite

/-- The case of a given name; of several the first. -/
def case? (suite : Suite) (name : String) : Option Case :=
  suite.cases.find? (fun case => case.name = name)

/-- The first fault of cases that follow cases of the given names. -/
def faultFrom? (suite : String) (earlier : List String) : List Case → Option SuiteError
  | [] => none
  | case :: rest =>
    match case.fault? with
    | some fault => some (.invalidCase fault)
    | none =>
      if earlier.contains case.name then some (.duplicateCase suite case.name)
      else faultFrom? suite (case.name :: earlier) rest

/-- The first fault of a suite, if it has one. -/
def fault? (suite : Suite) : Option SuiteError :=
  faultFrom? suite.name [] suite.cases

/-- Whether all cases of a suite can be run and told apart. -/
def validate (suite : Suite) : Except SuiteError Unit :=
  match suite.fault? with
  | some fault => .error fault
  | none => .ok ()

end Suite

end PubSubTrials
