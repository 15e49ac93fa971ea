import PubSubTrials.Command.Failure
import PubSubTrials.Command.Request
import PubSubTrials.Suite.Catalogue

/-!
# Selecting cases

Suites of files are added to the built-in ones in the order given. A selection then names
suites, or takes all, and names cases among theirs, or takes all; named cases keep the order in
which they were named.
-/

namespace PubSubTrials

namespace Catalogue

/-- A catalogue with the suites of files added to it. -/
def addFiles {σ : Type} [FileStore σ] (store : σ) (catalogue : Catalogue) :
    List Path → Except CommandError Catalogue
  | [] => .ok catalogue
  | path :: rest =>
    match Suite.load store path with
    | .error error => .error (.load error)
    | .ok suite =>
      match catalogue.add suite with
      | .error error => .error (.suite error)
      | .ok catalogue => catalogue.addFiles store rest

/-- The built-in suites and those of files. -/
def withFiles {σ : Type} [FileStore σ] (store : σ) (files : List Path) :
    Except CommandError Catalogue :=
  builtin.addFiles store files

/-- The suites of given names, all suites if no names are given. -/
def eligible (catalogue : Catalogue) (names : List String) : Except SuiteError (List Suite) :=
  if names.isEmpty then .ok catalogue.suites else names.mapM catalogue.get

/-- The cases of a selection. -/
def select (catalogue : Catalogue) (selection : Selection) : Except SuiteError (List Case) :=
  match catalogue.eligible selection.suites with
  | .error error => .error error
  | .ok suites =>
    if selection.cases.isEmpty then .ok (suites.flatMap Suite.cases)
    else selection.cases.mapM (caseIn suites)

end Catalogue

/-- The cases of a selection among the built-in suites and those of its files. -/
def Selection.resolve {σ : Type} [FileStore σ] (store : σ) (selection : Selection) :
    Except CommandError (List Case) :=
  match Catalogue.withFiles store selection.suiteFiles with
  | .error error => .error error
  | .ok catalogue => (catalogue.select selection).mapError .suite

end PubSubTrials
