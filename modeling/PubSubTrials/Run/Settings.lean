import PubSubTrials.Case
import PubSubTrials.SampleQueue

/-!
# Settings of a run

How long a stage may take where a case does not say so, how far apart publishers start, how
much longer than a stage an entity waits for its peers, and how many samples are kept.
-/

namespace PubSubTrials

/-- The settings of a run. -/
structure Settings where
  /-- Timeout of a stage for cases without one of their own. -/
  defaultTimeout : Duration
  /-- Time between the starts of two publishers, so that their samples differ. -/
  publisherStagger : Duration
  /-- How many stage timeouts an entity waits for its peers. -/
  barrierFactor : Nat
  /-- How many reported samples are kept for each publisher. -/
  queueCapacity : Nat
  deriving DecidableEq, Repr

namespace Settings

/-- The settings where nothing else is asked for. -/
def standard : Settings :=
  ⟨.ofSeconds 20, .ofSeconds 1, 100, SampleQueue.maxRecorded⟩

/-- The timeout of a stage of a case. -/
def timeoutFor (settings : Settings) (case : Case) : Duration :=
  case.timeout.getD settings.defaultTimeout

/-- How long an entity waits for its peers. -/
def barrierTimeout (settings : Settings) (stageTimeout : Duration) : Duration :=
  stageTimeout.scale settings.barrierFactor

end Settings

end PubSubTrials
