import PubSubTrials.Suite.Builtin

/-!
# Catalogues

The suites that a run can choose from, in the order in which they were added. Their names
differ, and only sound suites are added.
-/

namespace PubSubTrials

/-- The suites to choose from. -/
structure Catalogue where
  suites : List Suite
  deriving DecidableEq, Repr, Inhabited

namespace Catalogue

/-- No suites. -/
def empty : Catalogue := ⟨[]⟩

/-- The suites that come with the program. -/
def builtin : Catalogue := ⟨[Suite.interoperability, Suite.ownership]⟩

/-- The names of the suites. -/
def names (catalogue : Catalogue) : List String :=
  catalogue.suites.map Suite.name

/-- Add a suite; its name has to be new, and it has to be sound. -/
def add (catalogue : Catalogue) (suite : Suite) : Except SuiteError Catalogue :=
  if catalogue.names.contains suite.name then .error (.duplicateSuite suite.name)
  else
    match suite.fault? with
    | some fault => .error fault
    | none => .ok ⟨catalogue.suites ++ [suite]⟩

/-- The suite of a given name. -/
def get (catalogue : Catalogue) (name : String) : Except SuiteError Suite :=
  match catalogue.suites.find? (fun suite => suite.name = name) with
  | some suite => .ok suite
  | none => .error (.unknownSuite name)

/-- The case of a given name in the first of `suites` that has one. -/
def caseIn (suites : List Suite) (name : String) : Except SuiteError Case :=
  match suites.findSome? (fun suite => suite.case? name) with
  | some case => .ok case
  | none => .error (.unknownCase name)

/-- The case of a given name in the first suite that has one. -/
def findCase (catalogue : Catalogue) (name : String) : Except SuiteError Case :=
  caseIn catalogue.suites name

end Catalogue

end PubSubTrials
