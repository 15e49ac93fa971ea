import PubSubTrials.Case
import PubSubTrials.Observation

/-!
# Examining received data

Once data arrives at a subscriber, its samples are compared with those that the publishers have
reported. The observer stands just after a data marker, so the last token of the current window
is the sample just received. The ordering check compares the first samples received with the
first ones sent. The multi-source check tells whether samples arrive from one publisher or from
two: a token that the second publisher reported is its own, any other belongs to the first, and
a publisher counts as received only when it shows up after the other one was seen.
-/

namespace PubSubTrials.Reception

open Observing Output

/-- The number of samples that the ordering check compares. -/
def orderedSamples : Nat := 3

/-- The number of windows that the multi-source check looks at. -/
def sourceWindows : Nat := 80

/-- The sample that the subscriber has just printed. -/
def currentSample : Observing (Option Sample) :=
  return Sample.findLast (← window)

/-- Go on to the next data marker; `false` if there is none. -/
def nextData : Observing Bool := do
  note .verbose "waiting for samples"
  match ← expect [.marker .data] with
  | .found _ => return true
  | _ => return false

/-- How a received sample reads. -/
def describe : Option Sample → String
  | some sample => sample.token
  | none => "nothing"

/-- Compare up to `left` more samples with those of the first publisher. -/
def compareOrder : Nat → Observing Outcome
  | 0 => return .ok
  | left + 1 => do
    match ← take 0 with
    | none =>
      note .verbose "publisher sample channel starved"
      return .ok
    | some sent =>
      let received ← currentSample
      if received ≠ some sent then
        note .verbose ("expected sample " ++ sent.token ++ ", received " ++ describe received)
        return .dataNotCorrect
      else if ← nextData then compareOrder left
      else return .ok

/-- What is known about the two sources: the samples of the second publisher, whether it has
stopped reporting, which sources were seen, and which were seen after the other one. -/
structure Sources where
  second : List Sample
  exhausted : Bool
  firstSeen : Bool
  secondSeen : Bool
  firstReceived : Bool
  secondReceived : Bool
  deriving DecidableEq, Repr

namespace Sources

/-- Nothing known. -/
def unknown : Sources := ⟨[], false, false, false, false, false⟩

/-- More samples of the second publisher. -/
def collect (sources : Sources) (samples : List Sample) : Sources :=
  { sources with second := sources.second ++ samples }

/-- Account for a received sample. -/
def see (sources : Sources) (sample : Sample) : Sources :=
  if sources.second.contains sample then
    { sources with
      secondReceived := sources.secondReceived || sources.firstSeen
      secondSeen := true }
  else
    { sources with
      firstReceived := sources.firstReceived || sources.secondSeen
      firstSeen := true }

/-- Whether both sources were seen after the other one. -/
def both (sources : Sources) : Bool :=
  sources.firstReceived && sources.secondReceived

end Sources

/-- Learn about the samples of the second publisher; none when it never reported any. -/
def collectSecond (sources : Sources) : Observing (Option Sources) := do
  if sources.exhausted then return some (sources.collect (← drain 1))
  else
    match ← take 1 with
    | some sample => return some ((sources.collect [sample]).collect (← drain 1))
    | none =>
      if sources.second.isEmpty then
        note .verbose "second publisher sample channel starved"
        return none
      else return some { sources.collect (← drain 1) with exhausted := true }

/-- Look at up to `left` more windows. -/
def tellSources (sources : Sources) : Nat → Observing Outcome
  | 0 => return .receivingFromOne
  | left + 1 => do
    match ← collectSecond sources with
    | none => return .receivingFromOne
    | some sources =>
      let sources :=
        match ← currentSample with
        | some sample => sources.see sample
        | none => sources
      if sources.both then return .receivingFromBoth
      else if ← nextData then tellSources sources left
      else return .receivingFromOne

/-- Examine the data of a subscriber as its case asks for. -/
def examine (check : Check) : Observing Outcome := do
  match check with
  | .noCheck => return .ok
  | .orderingCheck =>
    if (← get).inbox.isEmpty then
      note .normal "ordering check without a publisher sample channel"
      return .dataNotCorrect
    else compareOrder orderedSamples
  | .multiSourceCheck =>
    if (← get).inbox.length < 2 then
      note .normal "multi-source check without a second publisher sample channel"
      return .receivingFromOne
    else tellSources .unknown sourceWindows

end PubSubTrials.Reception
