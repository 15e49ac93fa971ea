import PubSubTrials.Run.Trial
import PubSubTrials.Shutdown

/-!
# Running a series of cases

The cases of a series are run one after the other, each with what the ones before it have left
behind. Before each of them the run asks whether it
should stop; if so the remaining cases are skipped and the series is marked as interrupted. A
case without a result ends the series without one.
-/

namespace PubSubTrials.Series

/-- A series that was run: what it did, what is left of the request to stop, and its result. -/
structure Run (σ : Type) where
  journal : List Event
  shutdown : Shutdown
  /-- What the cases have left behind. -/
  state : σ
  result : Except RunError SeriesResult

/-- What is logged when the remaining cases are skipped. -/
def skipping : LogEntry :=
  ⟨.normal, "shutdown requested, skipping remaining test cases"⟩

/-- What is logged after a case. -/
def verdictEntry (result : CaseResult) : LogEntry :=
  ⟨.normal, result.verdict⟩

/-- A series with a case in front of it. -/
def Run.after {σ : Type} (events : List Event) (result : CaseResult) (later : Run σ) :
    Run σ where
  journal := events ++ .logged (verdictEntry result) :: later.journal
  shutdown := later.shutdown
  state := later.state
  result := later.result.map (fun series => { series with cases := result :: series.cases })

/-- Run cases in turn until one has no result or the run should stop. -/
def run {σ : Type} (settings : Settings) (theatre : Theatre σ) :
    List Case → Shutdown → σ → Run σ
  | [], shutdown, state => ⟨[], shutdown, state, .ok ⟨[], false⟩⟩
  | case :: rest, shutdown, state =>
    match shutdown.check with
    | (true, shutdown) => ⟨[.logged skipping], shutdown, state, .ok ⟨[], true⟩⟩
    | (false, shutdown) =>
      match Trial.runIn settings theatre case state with
      | ((events, .error error), state) => ⟨events, shutdown, state, .error error⟩
      | ((events, .ok result), state) =>
        (run settings theatre rest shutdown state).after events result

end PubSubTrials.Series
