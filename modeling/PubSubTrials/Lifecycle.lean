import PubSubTrials.Reception

/-!
# The lifecycle of an entity

An entity creates its topic, then its writer or reader, finds a partner, and sends or receives
data. The observer waits for the marker of one stage after the other; the first stage that is
not reached decides the outcome. A publisher that prints its samples has them recorded, and the
data of a subscriber is examined.
-/

namespace PubSubTrials.Lifecycle

open Observing Output

/-- How an entity is observed. -/
structure Plan where
  role : Role
  /-- The publisher prints every sample it sends. -/
  reportsSamples : Bool
  check : Check
  deriving DecidableEq, Repr

/-- Wait for the markers of a stage, of which the first one means that it is reached. -/
def await (stage : String) (markers : List Marker) : Observing Reply := do
  let reply ← expect (markers.map Pattern.marker)
  match reply with
  | .found 0 => note .debug stage
  | .found _ => note .debug (stage ++ " failed")
  | .timeout => note .debug (stage ++ ": timed out")
  | .endOfOutput => note .debug (stage ++ ": output closed")
  return reply

/-- Record the current window and those that follow, at most `left` in all: the last token of
each is reported. The answer is the number of windows. -/
def recordWindows : Nat → Observing Nat
  | 0 => return 0
  | left + 1 => do
    match Sample.findLast (← before) with
    | some sample =>
      if !(← report sample) then note .debug "sample channel full, sample dropped"
    | none => pure ()
    if left = 0 then return 1
    else
      match ← expect [.marker .data] with
      | .found _ => return 1 + (← recordWindows left)
      | _ => return 1

/-- Record the samples of a publisher that has a queue for them. -/
def recordSamples : Observing Unit := do
  if (← get).outbox.isSome then
    let windows ← recordWindows SampleQueue.maxRecorded
    note .debug ("recorded " ++ toString windows ++ " samples")

/-- The stages of a publisher that has its topic. -/
def publish (reportsSamples : Bool) : Observing Outcome := do
  match ← await "writer created" [.writerCreated] with
  | .found 0 =>
    match ← await "publication matched" [.publicationMatched, .offeredIncompatibleQos] with
    | .found 0 =>
      if reportsSamples then
        match ← await "data sent" [.data] with
        | .found 0 => do
          recordSamples
          return .ok
        | _ => return .dataNotSent
      else return .ok
    | .found _ => return .incompatibleQos
    | _ => return .readerNotMatched
  | _ => return .writerNotCreated

/-- The stages of a subscriber that has its topic. -/
def subscribe (check : Check) : Observing Outcome := do
  match ← await "reader created" [.readerCreated, .filterFailed] with
  | .found 0 =>
    match ← await "subscription matched" [.subscriptionMatched, .requestedIncompatibleQos] with
    | .found 0 =>
      match ← await "writer alive" [.livelinessChanged] with
      | .found 0 =>
        match ← await "data received" [.data] with
        | .found 0 => Reception.examine check
        | _ => return .dataNotReceived
      | _ => return .writerNotAlive
    | .found _ => return .incompatibleQos
    | _ => return .writerNotMatched
  | .found _ => return .filterNotCreated
  | _ => return .readerNotCreated

/-- All stages of an entity. -/
def stages (plan : Plan) : Observing Outcome := do
  let topicMarkers := [.topicCreated, .topicNameRequired, .parseError, .unrecognizedValue]
  match ← await "topic created" topicMarkers with
  | .found 0 =>
    match plan.role with
    | .publisher => publish plan.reportsSamples
    | .subscriber => subscribe plan.check
  | .found 3 => return .unrecognizedValue
  | _ => return .topicNotCreated

/-- Observe an entity to the end. -/
def observe (plan : Plan) : Observing Outcome := do
  let outcome ← stages plan
  note .debug ("outcome " ++ outcome.name)
  return outcome

end PubSubTrials.Lifecycle
