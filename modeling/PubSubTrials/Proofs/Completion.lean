import PubSubTrials.Proofs.Accounts
import PubSubTrials.Proofs.Parting

/-!
# Every case comes to its end

A run of a case cannot go on for ever, since every step leaves less to be done (`Sound.work_lt`).
As somebody can always go on, it can be continued to its end without anybody giving up, and the
observers may come to any conclusions in it (`Sound.exists_completion`). `Trial.accounts` takes
the observers in turn; what it finds is what they come to in a run in which they work side by side
(`Trial.exists_run_of_accounts`).
-/

namespace PubSubTrials

namespace Parting

open Barrier

/-! ## What is left to be done -/

/-- How many steps an observer takes at most from a phase on, in a case of `n` entities. -/
def Phase.work (n : Nat) : Phase → Nat
  | unborn | started => n + 7
  | driving _ => n + 6
  | concluded _ _ => n + 5
  | written _ => n + 4
  | waiting peers => peers.length + 3
  | released _ => 2
  | terminated _ | unwinding _ => 1
  | closed _ | crashed | absent => 0

/-- How many steps the runner takes at most. An entity that cannot be started takes three. -/
def Runner.work : Runner → Nat
  | starting left => 3 * left.length
  | excusing _ left => 3 * left.length + 2
  | recording _ left => 3 * left.length + 1
  | collapsed _ _ => 0

/-- How many steps several observers take at most. -/
def workOf (n : Nat) : List Phase → Nat
  | [] => 0
  | phase :: rest => phase.work n + workOf n rest

/-- One entity's step changes the work by what it changes of that entity. -/
theorem workOf_set {n i : Nat} {phases : List Phase} {old : Phase} (hold : phases[i]? = some old)
    (new : Phase) : workOf n (phases.set i new) + old.work n = workOf n phases + new.work n := by
  induction phases generalizing i with
  | nil => cases hold
  | cons phase rest ih =>
    cases i with
    | zero =>
      cases hold
      rw [List.set_cons_zero, workOf, workOf]
      omega
    | succ i =>
      have hrest := ih hold
      rw [List.set_cons_succ, workOf, workOf]
      omega

/-- An act of an observer leaves less to be done. -/
theorem Phase.work_lt_of_step? {barrier barrier' : Barrier} {i n : Nat} {phase phase' : Phase}
    {act : Act} (hn : (barrier.waitSet i).length ≤ n)
    (hstep : phase.step? barrier i act = some (phase', barrier')) :
    phase'.work n < phase.work n := by
  -- only a waiting entity needs a bound, on the peers that it still waits for
  cases phase with
  | waiting peers =>
    cases act with
    | pass =>
      obtain ⟨next, hpass, heq⟩ := Option.map_eq_some_iff.mp hstep
      cases heq
      cases peers with
      | nil =>
        cases hpass
        simp [work]
      | cons peer peers =>
        rw [pass?, Option.ite_none_right_eq_some] at hpass
        obtain ⟨-, hpass⟩ := hpass
        cases hpass
        simp [work]
    | giveUp | crash =>
      cases hstep
      simp only [work]
      omega
    | _ => cases hstep
  | written guard =>
    cases act with
    | crash | raise =>
      cases hstep
      simp only [work]
      omega
    | _ => cases hstep
  | _ =>
    cases act <;> cases hstep <;> simp only [work] <;> omega

namespace Meeting

variable {roles : List Role} {meeting meeting' : Meeting} {move : Move} {moves : List Move}

/-- How many steps the parts of a case take at most. -/
def work (meeting : Meeting) : Nat :=
  workOf meeting.phases.length meeting.phases + meeting.runner.work

theorem work_set {i : Nat} {old : Phase} (hold : meeting.phases[i]? = some old) (new : Phase)
    (barrier : Barrier) (runner : Runner) :
    work ⟨meeting.namable, barrier, meeting.phases.set i new, runner⟩ +
        old.work meeting.phases.length =
      workOf meeting.phases.length meeting.phases + new.work meeting.phases.length +
        runner.work := by
  have hset := @workOf_set meeting.phases.length i meeting.phases old hold new
  simp only [work, List.length_set]
  omega

/-- So does the runner when it comes to the next entity. -/
theorem Sound.work_born_lt (h : Sound roles meeting) {i : Nat} {left : List Nat}
    (hrunner : meeting.runner = .starting (i :: left)) {phase : Phase} {runner : Runner}
    (hphase : phase.work meeting.phases.length ≤ meeting.phases.length + 7)
    (hleft : runner.work ≤ 3 * left.length + 2) :
    work { meeting with phases := meeting.phases.set i phase, runner } < meeting.work := by
  have hi : meeting.phases[i]? = some .unborn := by
    rw [h.unborn, hrunner]
    exact List.mem_cons_self ..
  have hset := work_set hi phase meeting.barrier runner
  have hwork : meeting.work =
      workOf meeting.phases.length meeting.phases + 3 * (left.length + 1) := by
    rw [work, hrunner, Runner.work, List.length_cons]
  rw [Phase.work] at hset
  omega

/-- Every step leaves less to be done. -/
theorem Sound.work_lt (h : Sound roles meeting) (hstep : meeting.step? move = some meeting') :
    meeting'.work < meeting.work := by
  cases makes_of_step? hstep with
  | start _ hrunner => exact h.work_born_lt hrunner (Nat.le_refl _) (Nat.le_add_right ..)
  | refuse _ hrunner => exact h.work_born_lt hrunner (Nat.zero_le _) (Nat.le_refl _)
  | collapse _ hrunner => exact h.work_born_lt hrunner (Nat.zero_le _) (Nat.zero_le _)
  | excuse hrunner | record hrunner =>
    simp only [work, hrunner, Runner.work]
    omega
  | @act i act phase phase' barrier' hphase hact =>
    have hn : (meeting.barrier.waitSet i).length ≤ meeting.phases.length := by
      rw [h.length, ← h.cast]
      exact length_waitSet_le
    have hlt := Phase.work_lt_of_step? hn hact
    have hset := work_set hphase phase' barrier' meeting.runner
    have hwork : meeting.work =
        workOf meeting.phases.length meeting.phases + meeting.runner.work := rfl
    show work ⟨_, barrier', meeting.phases.set i phase', meeting.runner⟩ < meeting.work
    omega

/-- A run has no more steps than there was to be done. -/
theorem Sound.length_le_work (h : Sound roles meeting)
    (hrun : meeting.run? moves = some meeting') :
    moves.length + meeting'.work ≤ meeting.work := by
  induction moves generalizing meeting with
  | nil =>
    cases hrun
    rw [List.length_nil]
    omega
  | cons move moves ih =>
    obtain ⟨next, hstep, hrest⟩ := Option.bind_eq_some_iff.mp hrun
    have hlt := h.work_lt hstep
    have hle := ih (h.step hstep) hrest
    rw [List.length_cons]
    omega

/-- The work at the start, which bounds the number of moves. -/
theorem work_ofRoles (namable : Bool) (roles : List Role) :
    (ofRoles namable roles).work = roles.length * (roles.length + 10) := by
  have hunborn : ∀ (n : Nat) (roles : List Role),
      workOf n (roles.map fun _ => .unborn) = roles.length * (n + 7) := by
    intro n roles
    induction roles with
    | nil => exact (Nat.zero_mul _).symm
    | cons role rest ih =>
      rw [List.map_cons, workOf, ih, Phase.work, List.length_cons, Nat.succ_mul, Nat.add_comm]
  simp only [work, ofRoles, hunborn, Runner.work, length_startOrder, List.length_map]
  rw [Nat.mul_comm 3, ← Nat.mul_add]

/-- The parts of a case of `n` entities take no more than `n * (n + 10)` steps. -/
theorem length_le_of_run {namable : Bool}
    (hrun : (ofRoles namable roles).run? moves = some meeting) :
    moves.length ≤ roles.length * (roles.length + 10) := by
  have hle := (sound_ofRoles namable roles).length_le_work hrun
  rw [work_ofRoles] at hle
  omega

/-! ## Going on to the end -/

/-- Every case whose threads can have their names can be brought to its end by steps of the course
that leads the observers to the conclusions given. -/
theorem Sound.exists_completion (h : Sound roles meeting) (hnamable : meeting.namable = true)
    (script : Nat → Option Outcome) :
    ∃ moves last, meeting.run? moves = some last ∧ last.IsOver ∧
      ∀ move ∈ moves, move.Serves script = true := by
  generalize hwork : meeting.work = left
  induction left using Nat.strongRecOn generalizing meeting with
  | ind left ih =>
    by_cases hover : meeting.IsOver
    · exact ⟨[], meeting, rfl, hover, by simp⟩
    · obtain ⟨move, hserves, hsome⟩ := h.exists_move hnamable script hover
      obtain ⟨next, hstep⟩ := Option.isSome_iff_exists.mp hsome
      have hlt : next.work < left := hwork ▸ h.work_lt hstep
      obtain ⟨moves, last, hrun, hlast, hrest⟩ := ih next.work hlt (h.step hstep)
        ((namable_of_step? hstep).trans hnamable) rfl
      refine ⟨move :: moves, last, ?_, hlast, ?_⟩
      · rw [run?, hstep]
        exact hrun
      · rw [List.forall_mem_cons]
        exact ⟨hserves, hrest⟩

end Meeting

/-! ## What the observers come to -/

/-- The outcome noted for an entity in a phase of its observer, which is to come to a conclusion or
to crash. -/
def Phase.Accords (conclusion noted : Option Outcome) : Phase → Prop
  | unborn | started | driving _ => noted = none
  | concluded _ outcome => noted = none ∧ conclusion = some outcome
  | written _ | waiting _ | released _ | terminated _ | closed _ =>
    noted = conclusion ∧ conclusion.isSome = true
  | unwinding _ | crashed => noted = none ∧ conclusion = none
  | absent => False

/-- One step of an entity keeps it in accord with what it is to come to: it carries its conclusion
along until the barrier holds it. -/
theorem Phase.accords_step? {barrier barrier' : Barrier} {i : Nat} {phase phase' : Phase}
    {act : Act} {conclusion : Option Outcome} (hfits : phase.Fits barrier i)
    (h : phase.Accords conclusion (barrier.outcomeOf? i))
    (hserves : act.Serves conclusion = true)
    (hstep : phase.step? barrier i act = some (phase', barrier')) :
    phase'.Accords conclusion (barrier'.outcomeOf? i) := by
  have hnone : act = .crash → conclusion = none := by
    rintro rfl
    exact Option.isNone_iff_eq_none.mp hserves
  -- an observer that has concluded does not crash any more
  have hcrash : conclusion.isSome = true → act ≠ .crash := by
    intro hsome hact
    rw [hnone hact] at hsome
    cases hsome
  cases phase with
  | started =>
    cases act with
    | arm =>
      cases hstep
      exact h
    | _ => cases hstep
  | driving guard =>
    cases act with
    | conclude outcome =>
      cases hstep
      exact ⟨h, eq_of_beq hserves⟩
    | crash =>
      cases hstep
      exact ⟨h, hnone rfl⟩
    | _ => cases hstep
  | concluded guard outcome =>
    cases act with
    | write =>
      cases hstep
      obtain ⟨hunwritten, rfl⟩ := h
      have hlt := lt_of_isRaised? hfits.1
      exact ⟨outcomeOf?_settle_of_none hlt hunwritten outcome, rfl⟩
    | crash =>
      obtain ⟨-, rfl⟩ := h
      exact absurd rfl (hcrash rfl)
    | _ => cases hstep
  | written guard =>
    cases act with
    | raise =>
      cases hstep
      rw [Accords, outcomeOf?_release hfits.2.1]
      exact h
    | crash => exact absurd rfl (hcrash h.2)
    | _ => cases hstep
  | waiting peers =>
    cases act with
    | pass =>
      obtain ⟨next, hpass, heq⟩ := Option.map_eq_some_iff.mp hstep
      cases heq
      cases peers with
      | nil =>
        cases hpass
        exact h
      | cons peer peers =>
        rw [pass?, Option.ite_none_right_eq_some] at hpass
        obtain ⟨-, hpass⟩ := hpass
        cases hpass
        exact h
    | giveUp => cases hserves
    | crash => exact absurd rfl (hcrash h.2)
    | _ => cases hstep
  | released timely =>
    cases act with
    | terminate =>
      cases hstep
      exact h
    | crash => exact absurd rfl (hcrash h.2)
    | _ => cases hstep
  | terminated timely =>
    cases act with
    | close =>
      cases hstep
      exact h
    | crash => exact absurd rfl (hcrash h.2)
    | _ => cases hstep
  | unwinding guard =>
    cases act with
    | raise =>
      cases hstep
      rw [Accords, outcomeOf?_release hfits.2]
      exact h
    | _ => cases hstep
  | unborn | closed | crashed | absent => cases act <;> cases hstep

namespace Meeting

/-- A case that has gone the course towards some conclusions so far. -/
structure Accords (script : Nat → Option Outcome) (meeting : Meeting) : Prop where
  present : meeting.runner.absentee? = none
  phases : ∀ (i : Nat) (phase : Phase), meeting.phases[i]? = some phase →
    phase.Accords (script i) (meeting.barrier.outcomeOf? i)

variable {roles : List Role} {meeting meeting' : Meeting} {move : Move} {moves : List Move}
  {script : Nat → Option Outcome}

theorem accords_ofRoles (namable : Bool) (roles : List Role) (script : Nat → Option Outcome) :
    (ofRoles namable roles).Accords script where
  present := rfl
  phases i phase h := by
    rw [ofRoles, List.getElem?_map] at h
    obtain ⟨role, -, rfl⟩ := Option.map_eq_some_iff.mp h
    exact outcomeOf?_ofRoles roles i

/-- A move that serves the script keeps a meeting in accord with it. -/
theorem Accords.step (h : meeting.Accords script) (hsound : Sound roles meeting)
    (hserves : move.Serves script = true) (hstep : meeting.step? move = some meeting') :
    meeting'.Accords script := by
  cases makes_of_step? hstep with
  | @start i left _ hrunner =>
    have hi : meeting.phases[i]? = some .unborn := by
      rw [hsound.unborn, hrunner]
      exact List.mem_cons_self ..
    refine ⟨rfl, forall_getElem?_set ?_ fun k phase _ hphase => h.phases k phase hphase⟩
    exact h.phases i .unborn hi
  | refuse | collapse => cases hserves
  | excuse hrunner | record hrunner =>
    have hpresent := h.present
    rw [hrunner] at hpresent
    cases hpresent
  | @act i act phase phase' barrier' hphase hact =>
    have hfits := hsound.fits i phase hphase
    -- only the entity that acts is touched; the others accord as before
    have htouched := (Phase.step?_fits hfits hact).1
    refine ⟨h.present, forall_getElem?_set ?_ fun k other hk hother => ?_⟩
    · exact Phase.accords_step? hfits (h.phases i phase hphase) hserves hact
    · rw [htouched.outcomes k hk]
      exact h.phases k other hother

/-- The same for a run, by induction over its moves. -/
theorem Accords.run (h : meeting.Accords script) (hsound : Sound roles meeting)
    (hserves : ∀ move ∈ moves, move.Serves script = true)
    (hrun : meeting.run? moves = some meeting') : meeting'.Accords script := by
  induction moves generalizing meeting with
  | nil =>
    cases hrun
    exact h
  | cons move moves ih =>
    rw [List.forall_mem_cons] at hserves
    obtain ⟨next, hstep, hrest⟩ := Option.bind_eq_some_iff.mp hrun
    exact ih (h.step hsound hserves.1 hstep) (hsound.step hstep) hserves.2 hrest

/-- At the end of the course every entity has the outcome that its observer was to come to. -/
theorem Accords.outcomeOf?_eq (h : meeting.Accords script) (hover : meeting.IsOver) {i : Nat}
    (hi : i < meeting.phases.length) : meeting.barrier.outcomeOf? i = script i := by
  have hphase := List.getElem?_eq_getElem hi
  generalize meeting.phases[i] = phase at hphase
  have hfinal := hover.2 phase (List.mem_of_getElem? hphase)
  have haccords := h.phases i phase hphase
  cases phase with
  | closed timely => exact haccords.1
  | crashed => exact haccords.1.trans haccords.2.symm
  | absent => exact haccords.elim
  | _ => cases hfinal

/-- The observers of a case may come to any conclusions, and crash or not, without keeping the
others from coming to the end, once their threads can have their names. -/
theorem exists_run (roles : List Role) (script : Nat → Option Outcome) :
    ∃ moves last, (ofRoles true roles).run? moves = some last ∧ last.IsOver ∧
      (∀ move ∈ moves, move.Serves script = true) ∧
      ∀ i < roles.length, last.barrier.outcomeOf? i = script i := by
  have hsound := sound_ofRoles true roles
  obtain ⟨moves, last, hrun, hover, hserves⟩ := hsound.exists_completion rfl script
  refine ⟨moves, last, hrun, hover, hserves, fun i hi => ?_⟩
  rw [← (hsound.run hrun).length] at hi
  exact ((accords_ofRoles true roles script).run hsound hserves hrun).outcomeOf?_eq hover hi

end Meeting

end Parting

namespace Trial

open Parting

/-- What the observers of a case come to in turn, they also come to side by side. -/
theorem exists_run_of_accounts (settings : Settings) (case : Case) (seats : List Seat)
    (hseated : Seated case seats) (hnamable : case.isNamable = true) :
    ∃ moves last, (Meeting.ofCase case).run? moves = some last ∧ last.IsOver ∧
      ∀ (i : Nat) (entry : Seat × Account), (accounts settings case seats)[i]? = some entry →
        last.barrier.outcomeOf? i = entry.2.outcome.map Prod.fst := by
  obtain ⟨moves, last, hrun, hover, -, houtcomes⟩ :=
    Meeting.exists_run case.roles fun i =>
      (conclusionAt settings case.check seats i).map Prod.fst
  refine ⟨moves, last, ?_, hover, fun i entry hentry => ?_⟩
  · rwa [Meeting.ofCase, hnamable]
  have hi : i < case.roles.length := by
    rw [hseated.length_roles]
    exact (List.getElem?_eq_some_iff.mp (getElem?_accounts_seat hentry)).1
  rw [houtcomes i hi, ← getElem?_accounts_outcome, hentry]
  rfl

end Trial

end PubSubTrials
