import PubSubTrials.Case
import PubSubTrials.Log

/-!
# Journals

What a run does, in order: messages of its own, messages about the entities of a case, starts
of applications, pauses, and reports written.
-/

namespace PubSubTrials

/-- One thing that a run does. -/
inductive Event where
  /-- A case begins. -/
  | began (case : String)
  /-- A message of the run. -/
  | logged (entry : LogEntry)
  /-- A message about an entity of the current case. -/
  | observed (label : String) (entry : LogEntry)
  | launched (role : Role) (parameters : String)
  | slept (time : Duration)
  | wrote (path : String)
  deriving DecidableEq, Repr

/-- An event as it is shown in the log of a run, if it is. -/
def Event.entry? : Event → Option LogEntry
  | logged entry => some entry
  | observed label entry => some (entry.labelled label)
  | _ => none

/-- The messages of a journal that are shown when `most` is the most detailed level. -/
def shownMessages (most : Level) (journal : List Event) : List String :=
  (journal.filterMap Event.entry?).filterMap (fun entry =>
    if entry.level.isShownAt most then some entry.message else none)

end PubSubTrials
