import PubSubTrials.Lifecycle
import PubSubTrials.Proofs.Waiting

/-!
# Observers step by step

What each action of an observer does to its state (`result_*`), the law by which the results of
steps are put together (`result_bind`), and that an action does not crash an observer which is not
made to crash (`Calm`), whatever the entity prints and whatever is in the queues.
-/

namespace PubSubTrials

open Output (Console Hit Marker Pattern Reply)

namespace Observing

variable {α β : Type}

/-! ## Results of steps -/

@[simp] theorem result_pure (a : α) (state : Observation) :
    (pure a : Observing α).result state = (.ok a, state) := rfl

/-- Steps one after the other: the second runs in what the first leaves, unless that has crashed. -/
theorem result_bind (steps : Observing α) (next : α → Observing β) (state : Observation) :
    (steps >>= next).result state =
      match steps.result state with
      | (.ok a, state) => (next a).result state
      | (.error crash, state) => (.error crash, state) := by
  -- unfold the two layers of the monad, and only then look at the answer
  have hstep : (steps >>= next).result state =
      (match (steps.result state).1 with
        | .ok a => (next a).result (steps.result state).2
        | .error crash => (.error crash, (steps.result state).2)) := by
    simp only [result, ExceptT.run_bind, StateT.run_bind]
    cases hres : (StateT.run (ExceptT.run steps) state) with
    | mk answer state => cases answer <;> rfl
  rw [hstep]
  obtain ⟨answer, state⟩ := steps.result state
  cases answer <;> rfl

/-- Steps that succeed are followed by the next ones. -/
theorem result_bind_of_ok {steps : Observing α} {state state' : Observation} {a : α}
    (h : steps.result state = (.ok a, state')) (next : α → Observing β) :
    (steps >>= next).result state = (next a).result state' := by
  rw [result_bind, h]

@[simp] theorem result_get (state : Observation) :
    (get : Observing Observation).result state = (.ok state, state) := rfl

@[simp] theorem result_update (f : Observation → α × Observation) (state : Observation) :
    (update f).result state = (.ok (f state).1, (f state).2) := rfl

@[simp] theorem result_note (level : Level) (message : String) (state : Observation) :
    (note level message).result state =
      (.ok (), { state with log := state.log.push ⟨level, message⟩ }) := rfl

/-- Waiting for patterns, unless the observer crashes. -/
theorem result_expect {state : Observation} (h : state.crashAfter = none)
    (patterns : List Pattern) :
    (expect patterns).result state =
      (.ok (state.console.expect patterns).1,
        { state with
          console := (state.console.expect patterns).2
          waits := state.waits + 1 }) := by
  rw [expect, result_bind_of_ok (result_get state), h, result_update]
  obtain ⟨console, crashAfter, inbox, outbox, log, waits⟩ := state
  subst h
  rfl

@[simp] theorem result_before (state : Observation) :
    before.result state = (.ok state.console.before, state) := rfl

@[simp] theorem result_window (state : Observation) :
    window.result state = (.ok (state.console.before ++ state.console.after), state) := rfl

/-! ## Observers that are not made to crash -/

/-- Steps that end, and leave it at that, when nothing makes the observer crash. -/
def Calm (steps : Observing α) : Prop :=
  ∀ state : Observation, state.crashAfter = none →
    ∃ a next, steps.result state = (.ok a, next) ∧ next.crashAfter = none

theorem calm_pure (a : α) : Calm (pure a) :=
  fun state h => ⟨a, state, rfl, h⟩

/-- Calm steps stay so one after the other, so an observer is calm if its steps are. -/
theorem calm_bind {steps : Observing α} {next : α → Observing β} (h : Calm steps)
    (hnext : ∀ a, Calm (next a)) : Calm (steps >>= next) := by
  intro state hstate
  obtain ⟨a, state', heq, hstate'⟩ := h state hstate
  rw [result_bind_of_ok heq]
  exact hnext a state' hstate'

theorem calm_get : Calm (get : Observing Observation) :=
  fun state h => ⟨state, state, rfl, h⟩

theorem calm_update {f : Observation → α × Observation}
    (h : ∀ state : Observation, (f state).2.crashAfter = state.crashAfter) : Calm (update f) :=
  fun state hstate => ⟨_, _, result_update f state, (h state).trans hstate⟩

theorem calm_note (level : Level) (message : String) : Calm (note level message) :=
  calm_update fun _ => rfl

/-- Waiting crashes only when it is the wait that is meant to. -/
theorem calm_expect (patterns : List Pattern) : Calm (expect patterns) :=
  fun _ h => ⟨_, _, result_expect h patterns, h⟩

theorem calm_before : Calm before := calm_bind calm_get fun _ => calm_pure _

theorem calm_window : Calm window :=
  calm_bind calm_get fun _ => calm_bind calm_get fun _ => calm_pure _

theorem calm_take (publisher : Nat) : Calm (take publisher) := by
  refine calm_update fun state => ?_
  cases state.inbox[publisher]? <;> rfl

theorem calm_drain (publisher : Nat) : Calm (drain publisher) := by
  refine calm_update fun state => ?_
  cases state.inbox[publisher]? <;> rfl

theorem calm_report (sample : Sample) : Calm (report sample) := by
  refine calm_update fun state => ?_
  cases state.outbox <;> rfl

end Observing

open Observing

/-! ## Windows that are recorded -/

namespace Lifecycle

/-- Record the current window: its last token is reported, if it has one. -/
def recordWindow : Observing Unit := do
  match Sample.findLast (← before) with
  | some sample => if !(← report sample) then note .debug "sample channel full, sample dropped"
  | none => pure ()

/-- Windows are recorded one at a time. -/
theorem recordWindows_succ (left : Nat) :
    recordWindows (left + 1) = (do
      recordWindow
      if left = 0 then return 1
      else
        match ← expect [.marker .data] with
        | .found _ => return 1 + (← recordWindows left)
        | _ => return 1) := by
  rw [recordWindows, recordWindow, bind_assoc]
  congr 1
  funext text
  cases Sample.findLast text with
  | none => rfl
  | some sample =>
    simp only [bind_assoc]
    congr 1
    funext accepted
    cases accepted <;> rfl

end Lifecycle

end PubSubTrials
