import PubSubTrials.Log
import PubSubTrials.Output.Console
import PubSubTrials.SampleQueue

/-!
# Observations

What the observer of one entity has at hand: the entity's console, the sample queues of the
publishers if it observes a subscriber, the queue to fill if it observes a publisher, and its
log. Waiting for output and waiting for a sample are the only actions that take time, each at
most the stage timeout; `waits` counts them. An observer may crash at a call of `expect`; what it
has done before stays done.
-/

namespace PubSubTrials

open Output (Console Marker Pattern Reply)

/-- The state of an observer. -/
structure Observation where
  console : Console
  /-- Calls of `expect` before the observer crashes, if it does. -/
  crashAfter : Option Nat
  /-- The queues of the publishers, in the order of their numbers. -/
  inbox : List SampleQueue
  /-- The queue that takes the samples this entity reports. -/
  outbox : Option SampleQueue
  log : Array LogEntry
  /-- Timed waits so far. -/
  waits : Nat
  deriving Repr

/-- A crash of an observer. -/
inductive Crash where
  | crashed
  deriving DecidableEq, Repr

/-- Steps of an observer. -/
abbrev Observing (α : Type) := ExceptT Crash (StateM Observation) α

namespace Observation

/-- An observer of a console that has not looked at it yet. -/
def start (console : Console) (inbox : List SampleQueue) (outbox : Option SampleQueue) :
    Observation :=
  ⟨console, none, inbox, outbox, #[], 0⟩

end Observation

namespace Observing

/-- Carry out the steps of an observer. -/
def result {α : Type} (steps : Observing α) (state : Observation) : Except Crash α × Observation :=
  StateT.run (ExceptT.run steps) state

/-- Change the state. -/
def update {α : Type} (f : Observation → α × Observation) : Observing α :=
  ExceptT.lift (fun state => f state)

/-- Add an entry to the log. -/
def note (level : Level) (message : String) : Observing Unit :=
  update (fun state => ((), { state with log := state.log.push ⟨level, message⟩ }))

/-- Wait for patterns in the output, at most the stage timeout. -/
def expect (patterns : List Pattern) : Observing Reply := do
  match (← get).crashAfter with
  | some 0 => throw .crashed
  | crashAfter =>
    update (fun state =>
      let (reply, console) := state.console.expect patterns
      (reply,
        { state with
          console
          crashAfter := crashAfter.map (· - 1)
          waits := state.waits + 1 }))

/-- The text before the last hit. -/
def before : Observing (List Char) :=
  return (← get).console.before

/-- The window that the last hit ends, with the hit itself. -/
def window : Observing (List Char) :=
  return (← get).console.before ++ (← get).console.after

/-- Take the oldest sample of publisher `publisher`, waiting at most the stage timeout. -/
def take (publisher : Nat) : Observing (Option Sample) :=
  update (fun state =>
    match state.inbox[publisher]? with
    | none => (none, state)
    | some queue =>
      let (sample, queue) := queue.take
      (sample,
        { state with inbox := state.inbox.set publisher queue, waits := state.waits + 1 }))

/-- Take all samples of publisher `publisher` that are there. -/
def drain (publisher : Nat) : Observing (List Sample) :=
  update (fun state =>
    match state.inbox[publisher]? with
    | none => ([], state)
    | some queue =>
      let (samples, queue) := queue.drain
      (samples, { state with inbox := state.inbox.set publisher queue }))

/-- Report a sample; `false` when the queue refuses it. Without a queue nothing is reported. -/
def report (sample : Sample) : Observing Bool :=
  update (fun state =>
    match state.outbox with
    | none => (true, state)
    | some queue =>
      let (accepted, queue) := queue.push sample
      (accepted, { state with outbox := some queue }))

end Observing

end PubSubTrials
