import PubSubTrials.Command.Pairing

/-!
# Matrices

Every implementation publishes for every implementation, itself included: first all pairings in
which the first one publishes, then those of the second one, and so on. Reports go into one
directory for each pairing. A request to stop ends the matrix, at the latest after the case that
is being run.
-/

namespace PubSubTrials

/-- What came of a matrix: the pairings that were started. -/
structure MatrixResult where
  pairings : List PairingResult
  /-- Whether it was stopped before its end. -/
  interrupted : Bool
  deriving DecidableEq, Repr, Inhabited

namespace Matrix

/-- All ordered pairs of implementations. -/
def pairings (implementations : List Implementation) : List Pairing :=
  implementations.flatMap (fun publisher => implementations.map (Pairing.mk publisher))

/-- A matrix with a pairing in front of it. -/
def after {σ : Type} (events : List Event) (result : PairingResult)
    (later : Conclusion σ MatrixResult) : Conclusion σ MatrixResult :=
  { later with
    journal := events ++ later.journal
    result := later.result.map (fun matrix =>
      { matrix with pairings := result :: matrix.pairings }) }

/-- The directory for the report of a pairing, if reports are wanted. -/
def directory (output : Option Path) (pairing : Pairing) : Option Path :=
  output.map (fun output => output.join ⟨pairing.directoryName⟩)

/-- Run pairings in turn until one has no result or the matrix should stop. -/
def run {σ : Type} [FileStore σ] (settings : Settings) (cases : List Case)
    (output : Option Path) : List Pairing → Surroundings σ → Conclusion σ MatrixResult
  | [], around => ⟨[], around.shutdown, around.files, .ok ⟨[], false⟩⟩
  | pairing :: rest, around =>
    match around.shutdown.check with
    | (true, shutdown) => ⟨[], shutdown, around.files, .ok ⟨[], true⟩⟩
    | (false, shutdown) =>
      let first := pairing.run { around with shutdown } settings cases (directory output pairing)
      match first.result with
      | .error error => ⟨first.journal, first.shutdown, first.files, .error error⟩
      | .ok result =>
        if result.series.interrupted then
          ⟨first.journal, first.shutdown, first.files, .ok ⟨[result], true⟩⟩
        else
          after first.journal result
            (run settings cases output rest
              { around with shutdown := first.shutdown, files := first.files })

end Matrix

/-- Carry out a matrix. -/
def MatrixRequest.run {σ : Type} [FileStore σ] (request : MatrixRequest)
    (around : Surroundings σ) : Conclusion σ MatrixResult :=
  match request.validate with
  | .error error => around.refuse (.argument error)
  | .ok implementations =>
    match request.selection.resolve around.files with
    | .error error => around.refuse error
    | .ok cases =>
      Matrix.run request.options.settings cases request.options.output
        (Matrix.pairings implementations) around

namespace MatrixResult

/-- Whether every case of every pairing passed. -/
def allPassed (result : MatrixResult) : Bool :=
  result.pairings.all (fun pairing => pairing.series.allPassed)

/-- The exit code of a matrix with a result. -/
def exitCode (result : MatrixResult) : Nat :=
  PubSubTrials.exitCode result.allPassed result.interrupted

end MatrixResult

end PubSubTrials
