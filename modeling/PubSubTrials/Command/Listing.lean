import PubSubTrials.Command.Selection

/-!
# Listings

A list of suites: a line for each suite, and below it one for each case with the numbers of its
publishers and subscribers and its check.
-/

namespace PubSubTrials.Listing

/-- A text followed by as many spaces as bring it to `width` characters. -/
def padded (width : Nat) (text : String) : String :=
  text ++ String.ofList (List.replicate (width - text.length) ' ')

/-- The line of a case. -/
def caseLine (case : Case) : String :=
  "  " ++ padded 28 case.name ++ " " ++ toString (case.count .publisher) ++ "P/" ++
    toString (case.count .subscriber) ++ "S  " ++ case.check.name

/-- The line of a suite. -/
def suiteLine (suite : Suite) : String :=
  suite.name ++ " (" ++ toString suite.cases.length ++ " cases)" ++
    match suite.description with
    | some description => ": " ++ description
    | none => ""

/-- The lines of suites and their cases. -/
def lines (suites : List Suite) : List String :=
  suites.flatMap (fun suite => suiteLine suite :: suite.cases.map caseLine)

/-- The list that is asked for. -/
def run {σ : Type} [FileStore σ] (store : σ) (request : ListRequest) :
    Except CommandError String :=
  match Catalogue.withFiles store request.suiteFiles with
  | .error error => .error error
  | .ok catalogue =>
    match catalogue.eligible request.suites with
    | .error error => .error (.suite error)
    | .ok suites => .ok (String.join ((lines suites).map (fun line => line ++ "\n")))

end PubSubTrials.Listing
