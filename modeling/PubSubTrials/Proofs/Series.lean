import PubSubTrials.Command.Matrix

/-!
# Series that are not interrupted

What all applications of a theatre leave alone, a case and a whole series leave alone (`view_runIn`,
`Series.run_never`), and a series that is never asked to stop is not interrupted.
-/

namespace PubSubTrials

/-! ## Answers of successful steps -/

theorem eq_ok_of_map_eq_ok {ε α β : Type} {f : α → β} {answer : Except ε α} {y : β}
    (h : answer.map f = .ok y) : ∃ x, answer = .ok x ∧ f x = y := by
  cases answer with
  | error error => cases h
  | ok x => exact ⟨x, rfl, Except.ok.inj h⟩

theorem eq_ok_of_isOk {ε α : Type} {answer : Except ε α} (h : answer.isOk = true) :
    ∃ x, answer = .ok x := by
  cases answer with
  | error error => cases h
  | ok x => exact ⟨x, rfl⟩

/-! ## What applications leave alone -/

/-- Whether the applications of a theatre leave alone what `view` shows. -/
def Theatre.Keeps {σ β : Type} (theatre : Theatre σ) (view : σ → β) : Prop :=
  ∀ patience role parameters state, view (theatre patience role parameters state).2 = view state

section

variable {σ β : Type} {theatre : Theatre σ} {view : σ → β}

namespace Trial

/-- What launching does not touch is seen unchanged after the launches of one role. -/
theorem view_startRole (h : theatre.Keeps view) (settings : Settings) (case : Case) (role : Role)
    (launched : Nat) (seats : List Seat) (state : σ) :
    view (startRole settings theatre case role launched seats state).state = view state := by
  induction seats generalizing launched state with
  | nil => rfl
  | cons seat rest ih =>
    rw [startRole]
    split
    · dsimp only
      split
      · exact (ih _ _).trans (h _ _ _ _)
      · exact h _ _ _ _
    · exact ih _ _

theorem view_seatsIn (h : theatre.Keeps view) (settings : Settings) (case : Case) (state : σ) :
    view (seatsIn settings theatre case state).state = view state := by
  rw [seatsIn]
  dsimp only
  split
  · exact view_startRole h ..
  · exact (view_startRole h ..).trans (view_startRole h ..)

theorem view_runIn (h : theatre.Keeps view) (settings : Settings) (case : Case) (state : σ) :
    view (runIn settings theatre case state).2 = view state := by
  rw [runIn]
  split
  · rfl
  · dsimp only
    split
    · exact view_seatsIn h settings case state
    · exact view_seatsIn h settings case state

end Trial

theorem Series.run_cons_never (settings : Settings) (case : Case) (rest : List Case) (state : σ) :
    run settings theatre (case :: rest) .never state =
      match Trial.runIn settings theatre case state with
      | ((events, .error error), state) => ⟨events, .never, state, .error error⟩
      | ((events, .ok result), state) =>
        (run settings theatre rest .never state).after events result := rfl

/-- A series that is never asked to stop is not interrupted, and leaves alone what its applications
leave alone. -/
theorem Series.run_never (h : theatre.Keeps view) (settings : Settings) (cases : List Case)
    (state : σ) :
    (run settings theatre cases .never state).shutdown = .never ∧
      view (run settings theatre cases .never state).state = view state ∧
      ∀ series, (run settings theatre cases .never state).result = .ok series →
        series.interrupted = false := by
  induction cases generalizing state with
  | nil =>
    refine ⟨rfl, rfl, fun series hseries => ?_⟩
    obtain rfl := Except.ok.inj hseries
    rfl
  | cons case rest ih =>
    have hview := Trial.view_runIn h settings case state
    rw [run_cons_never]
    generalize Trial.runIn settings theatre case state = played at hview ⊢
    obtain ⟨⟨events, result⟩, next⟩ := played
    cases result with
    | error error => exact ⟨rfl, hview, fun _ hseries => by cases hseries⟩
    | ok result =>
      obtain ⟨hshutdown, hrest, hinterrupted⟩ := ih next
      refine ⟨hshutdown, hrest.trans hview, fun series hseries => ?_⟩
      obtain ⟨others, hothers, rfl⟩ := eq_ok_of_map_eq_ok hseries
      exact hinterrupted others hothers

end

end PubSubTrials
