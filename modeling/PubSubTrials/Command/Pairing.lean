import PubSubTrials.Command.Selection
import PubSubTrials.Run.Series

/-!
# Pairings

One implementation publishes and another one subscribes: the selected cases are run, and where
a directory is given the report is written into it, also if the run was interrupted.
-/

namespace PubSubTrials

/-- What commands find when they start. -/
structure Surroundings (σ : Type) where
  /-- What applications do when one implementation publishes and another one subscribes. -/
  theatre : Implementation → Implementation → Theatre σ
  /-- The moment that reports show. -/
  moment : Timestamp
  shutdown : Shutdown
  files : σ

/-- What a command did and left behind, and what came of it. -/
structure Conclusion (σ α : Type) where
  journal : List Event
  shutdown : Shutdown
  files : σ
  result : Except CommandError α

/-- A command that ends before it has done anything. -/
def Surroundings.refuse {σ α : Type} (around : Surroundings σ) (error : CommandError) :
    Conclusion σ α :=
  ⟨[], around.shutdown, around.files, .error error⟩

/-- Who publishes and who subscribes. -/
structure Pairing where
  publisher : Implementation
  subscriber : Implementation
  deriving DecidableEq, Repr

/-- What came of a pairing. -/
structure PairingResult where
  publisher : String
  subscriber : String
  series : SeriesResult
  /-- Where the report is, if one was wanted. -/
  reportPath : Option Path
  deriving DecidableEq, Repr, Inhabited

namespace Pairing

/-- What is logged at the start of a pairing. -/
def announcement (pairing : Pairing) (cases : List Case) : LogEntry :=
  ⟨.normal, pairing.publisher.name ++ " -> " ++ pairing.subscriber.name ++ ": running " ++
    toString cases.length ++ " test cases"⟩

/-- The name of the directory for the report of a pairing among others. -/
def directoryName (pairing : Pairing) : String :=
  pairing.publisher.name ++ "--" ++ pairing.subscriber.name

/-- The report of a series of cases. -/
def report (pairing : Pairing) (series : SeriesResult) (moment : Timestamp) : Report :=
  .ofSeries series pairing.publisher.name pairing.subscriber.name moment

/-- The result of a pairing. -/
def conclude (pairing : Pairing) (series : SeriesResult) (reportPath : Option Path) :
    PairingResult :=
  ⟨pairing.publisher.name, pairing.subscriber.name, series, reportPath⟩

/-- Run cases for a pairing, then write the report if there is a directory for it. -/
def run {σ : Type} [FileStore σ] (around : Surroundings σ) (settings : Settings)
    (cases : List Case) (directory : Option Path) (pairing : Pairing) :
    Conclusion σ PairingResult :=
  let theatre := around.theatre pairing.publisher pairing.subscriber
  let ran := Series.run settings theatre cases around.shutdown around.files
  let journal := .logged (pairing.announcement cases) :: ran.journal
  match ran.result with
  | .error error => ⟨journal, ran.shutdown, ran.state, .error (.run error)⟩
  | .ok series =>
    match directory with
    | none => ⟨journal, ran.shutdown, ran.state, .ok (pairing.conclude series none)⟩
    | some directory =>
      match (pairing.report series around.moment).save directory ran.state with
      | (.error error, files) => ⟨journal, ran.shutdown, files, .error (.report error)⟩
      | (.ok path, files) =>
        ⟨journal ++ [.wrote path.text], ran.shutdown, files,
          .ok (pairing.conclude series (some path))⟩

end Pairing

/-- Who publishes and who subscribes in a run. -/
def RunRequest.pairing (request : RunRequest) : Pairing :=
  ⟨.ofPath request.publisher, .ofPath request.subscriber⟩

/-- Carry out a run. -/
def RunRequest.run {σ : Type} [FileStore σ] (request : RunRequest) (around : Surroundings σ) :
    Conclusion σ PairingResult :=
  match request.validate with
  | .error error => around.refuse (.argument error)
  | .ok () =>
    match request.selection.resolve around.files with
    | .error error => around.refuse error
    | .ok cases =>
      request.pairing.run around request.options.settings cases request.options.output

/-- The exit code of a run with a result. -/
def PairingResult.exitCode (result : PairingResult) : Nat :=
  PubSubTrials.exitCode result.series.allPassed result.series.interrupted

end PubSubTrials
