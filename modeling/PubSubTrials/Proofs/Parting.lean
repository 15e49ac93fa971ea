import PubSubTrials.Proofs.Barriers
import PubSubTrials.Proofs.Launches

/-!
# Who leaves before its partners are done

The entities of a case as parts that run side by side. A runner starts their observers one after
the other; an observer goes through the phases of its work, and touches the others at the barrier
only. The order in which the parts take their steps is left open, and so is where an observer
crashes and which one cannot be started. In all of these runs an entity that has waited to the end
stops its application after all entities of the other role are done with, and somebody can always
go on without giving up (`Meeting.parting_of_run`).

Neither is so of entities whose observers cannot be started. What was launched for one of them is
dropped with its observer, so the application is stopped at once, whoever is still observed
(`Meeting.early_or_stuck`). And where a thread cannot have the name that it is to get, the
runner does not come to excuse the entity: it crashes, and nobody can go on
(`Meeting.stuck_of_not_namable`).
-/

namespace PubSubTrials.Parting

/-! ## The observer of one entity -/

/-- How far the observer of an entity has come; while it holds a guard, the phase names it. -/
inductive Phase where
  /-- The runner has not come to it yet. -/
  | unborn
  /-- It is started and has no guard so far. -/
  | started
  | driving (guard : Nat)
  /-- The outcome is known but not written. -/
  | concluded (guard : Nat) (outcome : Outcome)
  | written (guard : Nat)
  /-- It has still to see the signals of `peers`, one after the other. -/
  | waiting (peers : List Nat)
  /-- It no longer waits: it has seen all signals, unless it gave up. -/
  | released (timely : Bool)
  | terminated (timely : Bool)
  | closed (timely : Bool)
  /-- It has crashed and is about to drop its guard. -/
  | unwinding (guard : Nat)
  | crashed
  /-- It could not be started, and what was launched for it has been dropped. -/
  | absent
  deriving DecidableEq, Repr

/-- What an observer can do. -/
inductive Act where
  /-- Take a guard. -/
  | arm
  | conclude (outcome : Outcome)
  | crash
  /-- Write the outcome. -/
  | write
  /-- Raise its signal, by means of its guard. -/
  | raise
  /-- See the signal of the next peer, or that there is none left. -/
  | pass
  /-- Stop waiting because time is over. -/
  | giveUp
  /-- Stop its application. -/
  | terminate
  /-- Close its sample queue. -/
  | close
  deriving DecidableEq, Repr

/-- Whether an act belongs to the course in which the observer comes to a conclusion, or crashes
if there is none, and does not give up waiting. -/
def Act.Serves (conclusion : Option Outcome) : Act → Bool
  | conclude outcome => conclusion == some outcome
  | crash => conclusion.isNone
  | giveUp => false
  | _ => true

/-- What comes of waiting for the signals of `peers` when the first of them is looked at. -/
def Phase.pass? (barrier : Barrier) : List Nat → Option Phase
  | [] => some (released true)
  | peer :: peers => if barrier.isRaised? peer = some true then some (waiting peers) else none

/-- What the observer of entity `i` comes to by an act that it is ready for, and the barrier
after that. -/
def Phase.step? (barrier : Barrier) (i : Nat) : Phase → Act → Option (Phase × Barrier)
  | started, .arm => some (driving (barrier.guardFor i).1, (barrier.guardFor i).2)
  | driving guard, .conclude outcome => some (concluded guard outcome, barrier)
  | driving guard, .crash => some (unwinding guard, barrier)
  | concluded guard _, .crash => some (unwinding guard, barrier)
  | concluded guard outcome, .write => some (written guard, (barrier.settle i outcome).2)
  | written guard, .crash => some (unwinding guard, barrier)
  | written guard, .raise => some (waiting (barrier.waitSet i), (barrier.release guard).2)
  | waiting peers, .pass => (pass? barrier peers).map (·, barrier)
  | waiting _, .giveUp => some (released false, barrier)
  | waiting _, .crash => some (crashed, barrier)
  | released timely, .terminate => some (terminated timely, barrier)
  | released _, .crash => some (crashed, barrier)
  | terminated timely, .close => some (closed timely, barrier)
  | terminated _, .crash => some (crashed, barrier)
  | unwinding guard, .raise => some (crashed, (barrier.release guard).2)
  | _, _ => none

/-- Whether the work of the observer is over. -/
def Phase.IsFinal : Phase → Bool
  | closed _ | crashed | absent => true
  | _ => false

/-- Which entities the runner has still to start, and whether there is something to be done first
for one that could not be started. -/
inductive Runner where
  | starting (left : List Nat)
  /-- The signal of entity `i` has to be raised. -/
  | excusing (i : Nat) (left : List Nat)
  /-- The outcome of entity `i` has to be written. -/
  | recording (i : Nat) (left : List Nat)
  /-- The runner itself has crashed when it was to start entity `i`. -/
  | collapsed (i : Nat) (left : List Nat)
  deriving DecidableEq, Repr

/-- The entities that the runner has still to start. -/
def Runner.left : Runner → List Nat
  | starting left | excusing _ left | recording _ left | collapsed _ left => left

/-- The entity that could not be started and whose signal is not raised yet. -/
def Runner.excused? : Runner → Option Nat
  | excusing i _ | collapsed i _ => some i
  | _ => none

/-- The entity that could not be started and that the runner is occupied with. -/
def Runner.absentee? : Runner → Option Nat
  | starting _ => none
  | excusing i _ | recording i _ | collapsed i _ => some i

/-- Whether the runner has crashed. -/
def Runner.HasCollapsed : Runner → Bool
  | collapsed .. => true
  | _ => false

theorem Runner.absentee?_of_excused? {runner : Runner} {i : Nat} (h : runner.excused? = some i) :
    runner.absentee? = some i := by
  cases runner with
  | starting | recording => cases h
  | excusing j left | collapsed j left => exact h

/-- A case while it runs. -/
structure Meeting where
  /-- Whether the threads of the observers can have their names. -/
  namable : Bool
  barrier : Barrier
  phases : List Phase
  runner : Runner
  deriving DecidableEq, Repr

/-- A step of the runner or of the observer of an entity. -/
inductive Move where
  /-- Start the next entity. -/
  | start
  /-- Fail to start the next entity: its application is stopped and its queue closed. -/
  | refuse
  /-- Crash at the next entity, because of the name that its thread is to get. -/
  | collapse
  /-- Raise the signal of the entity that could not be started. -/
  | excuse
  /-- Write the outcome of the entity that could not be started. -/
  | record
  | act (i : Nat) (act : Act)
  deriving DecidableEq, Repr

/-- Whether a step belongs to the course of a case in which all entities are started, nobody gives
up waiting, and the observers come to the conclusions of `script`, if any. -/
def Move.Serves (script : Nat → Option Outcome) : Move → Bool
  | refuse | collapse => false
  | act i deed => deed.Serves (script i)
  | _ => true

namespace Meeting

/-- Entities before the first of them is started. -/
def ofRoles (namable : Bool) (roles : List Role) : Meeting :=
  ⟨namable, Barrier.ofRoles roles, roles.map (fun _ => .unborn), .starting (startOrder roles)⟩

/-- A case before the first entity is started. -/
def ofCase (case : Case) : Meeting :=
  ofRoles case.isNamable case.roles

/-- The case after a step, if somebody is ready for it. -/
def step? (meeting : Meeting) : Move → Option Meeting
  | .start =>
    match meeting.namable, meeting.runner with
    | true, .starting (i :: left) =>
      some { meeting with phases := meeting.phases.set i .started, runner := .starting left }
    | _, _ => none
  | .refuse =>
    match meeting.namable, meeting.runner with
    | true, .starting (i :: left) =>
      some { meeting with phases := meeting.phases.set i .absent, runner := .excusing i left }
    | _, _ => none
  | .collapse =>
    match meeting.namable, meeting.runner with
    | false, .starting (i :: left) =>
      some { meeting with phases := meeting.phases.set i .absent, runner := .collapsed i left }
    | _, _ => none
  | .excuse =>
    match meeting.runner with
    | .excusing i left =>
      let (guard, barrier) := meeting.barrier.guardFor i
      some { meeting with barrier := (barrier.release guard).2, runner := .recording i left }
    | _ => none
  | .record =>
    match meeting.runner with
    | .recording i left =>
      some { meeting with
        barrier := (meeting.barrier.settle i .topicNotCreated).2, runner := .starting left }
    | _ => none
  | .act i act => do
    let phase ← meeting.phases[i]?
    let (phase, barrier) ← phase.step? meeting.barrier i act
    some { meeting with barrier, phases := meeting.phases.set i phase }

/-- The case after some steps, if somebody is ready for each of them. -/
def run? (meeting : Meeting) : List Move → Option Meeting
  | [] => some meeting
  | move :: moves => (meeting.step? move).bind (run? · moves)

/-- All entities have come to the end. -/
def IsOver (meeting : Meeting) : Prop :=
  meeting.runner = .starting [] ∧ ∀ phase ∈ meeting.phases, phase.IsFinal = true

end Meeting

/-! ## What holds of one observer -/

namespace Phase

open Barrier

variable {barrier barrier' : Barrier} {i k : Nat} {phase phase' : Phase} {act : Act}

/-- What the barrier shows of entity `i` in a phase of its observer. -/
def Fits (barrier : Barrier) (i : Nat) : Phase → Prop
  | unborn | started => barrier.isRaised? i = some false
  | driving guard | concluded guard _ | unwinding guard =>
    barrier.isRaised? i = some false ∧ barrier.guards[guard]? = some (some i)
  | written guard =>
    barrier.isRaised? i = some false ∧ barrier.guards[guard]? = some (some i) ∧
      (barrier.outcomeOf? i).isSome
  | waiting peers =>
    barrier.isRaised? i = some true ∧ (barrier.outcomeOf? i).isSome ∧
      (∀ j ∈ peers, j ∈ barrier.waitSet i) ∧
      ∀ j ∈ barrier.waitSet i, j ∈ peers ∨ barrier.isRaised? j = some true
  | released timely | terminated timely | closed timely =>
    barrier.isRaised? i = some true ∧ (barrier.outcomeOf? i).isSome ∧
      (timely = true → barrier.peersRaised i = true)
  | crashed => barrier.isRaised? i = some true
  | absent => True

/-- What was done for one entity does not disturb what holds of another. -/
theorem Fits.of_touched (htouched : Touched i barrier barrier') (hk : k ≠ i)
    (h : phase.Fits barrier k) : phase.Fits barrier' k := by
  have hraised := htouched.others k hk
  have houtcome := htouched.outcomes k hk
  have hguard := fun guard => htouched.guards k guard hk
  -- what a phase says is about its own entity or about raised signals, and neither is taken back
  have hset : ∀ j, j ∈ barrier'.waitSet k ↔ j ∈ barrier.waitSet k := fun j =>
    waitSet_congr htouched.roles
  cases phase with
  | unborn | started | crashed => exact hraised.trans h
  | driving guard | concluded guard | unwinding guard => exact ⟨hraised.trans h.1, hguard _ h.2⟩
  | written guard =>
    obtain ⟨hfalse, hheld, hwritten⟩ := h
    exact ⟨hraised.trans hfalse, hguard _ hheld, by rwa [houtcome]⟩
  | waiting peers =>
    obtain ⟨htrue, hwritten, hpeers, hseen⟩ := h
    refine ⟨hraised.trans htrue, by rwa [houtcome], fun j hj => (hset j).mpr (hpeers j hj), ?_⟩
    intro j hj
    exact (hseen j ((hset j).mp hj)).imp_right (htouched.raised j)
  | released timely | terminated timely | closed timely =>
    obtain ⟨htrue, hwritten, hseen⟩ := h
    refine ⟨hraised.trans htrue, by rwa [houtcome], fun htimely => ?_⟩
    exact htouched.peersRaised (hseen htimely)
  | absent => trivial

/-- What an observer does for its entity leads to a phase that fits again. -/
theorem step?_fits (hfits : phase.Fits barrier i)
    (hstep : phase.step? barrier i act = some (phase', barrier')) :
    Touched i barrier barrier' ∧ phase'.Fits barrier' i ∧ phase' ≠ .unborn ∧ phase' ≠ .absent := by
  cases phase with
  | started =>
    cases act with
    | arm =>
      cases hstep
      exact ⟨touched_guardFor, ⟨hfits, guards_guardFor⟩, by simp, by simp⟩
    | _ => cases hstep
  | driving guard =>
    cases act with
    | conclude outcome | crash =>
      cases hstep
      exact ⟨.refl i barrier, hfits, by simp, by simp⟩
    | _ => cases hstep
  | concluded guard outcome =>
    obtain ⟨hfalse, hheld⟩ := hfits
    cases act with
    | crash =>
      cases hstep
      exact ⟨.refl i barrier, ⟨hfalse, hheld⟩, by simp, by simp⟩
    | write =>
      cases hstep
      refine ⟨touched_settle outcome, ⟨?_, ?_, ?_⟩, by simp, by simp⟩
      · rwa [isRaised?_settle]
      · rwa [guards_settle]
      · exact isSome_outcomeOf?_settle (lt_of_isRaised? hfalse) outcome
    | _ => cases hstep
  | written guard =>
    obtain ⟨hfalse, hheld, hwritten⟩ := hfits
    cases act with
    | crash =>
      cases hstep
      exact ⟨.refl i barrier, ⟨hfalse, hheld⟩, by simp, by simp⟩
    | raise =>
      cases hstep
      have htouched := touched_release hheld
      -- at first all signals are still to be seen
      have hset : ∀ j, j ∈ (barrier.release guard).2.waitSet i ↔ j ∈ barrier.waitSet i := fun j =>
        waitSet_congr htouched.roles
      refine ⟨htouched, ⟨?_, ?_, fun j => (hset j).mpr, fun j hj => .inl ((hset j).mp hj)⟩,
        by simp, by simp⟩
      · exact isRaised?_release (lt_of_isRaised? hfalse) hheld
      · rwa [outcomeOf?_release hheld]
    | _ => cases hstep
  | waiting peers =>
    obtain ⟨htrue, hwritten, hpeers, hseen⟩ := hfits
    cases act with
    | pass =>
      obtain ⟨phase', hpass, heq⟩ := Option.map_eq_some_iff.mp hstep
      cases heq
      refine ⟨.refl i barrier, ?_⟩
      cases peers with
      | nil =>
        cases hpass
        have hall : barrier.peersRaised i = true :=
          peersRaised_iff.mpr fun j hj => (hseen j hj).resolve_left (by simp)
        exact ⟨⟨htrue, hwritten, fun _ => hall⟩, by simp⟩
      | cons peer peers =>
        rw [pass?, Option.ite_none_right_eq_some] at hpass
        obtain ⟨hpeer, hpass⟩ := hpass
        cases hpass
        refine ⟨⟨htrue, hwritten, fun j hj => hpeers j (List.mem_cons_of_mem _ hj), ?_⟩, by simp⟩
        intro j hj
        -- the peer looked at has raised its signal, and the others are still to be seen
        rcases hseen j hj with hmem | hraised
        · rcases List.mem_cons.mp hmem with rfl | hmem
          · exact .inr hpeer
          · exact .inl hmem
        · exact .inr hraised
    | giveUp =>
      cases hstep
      exact ⟨.refl i barrier, ⟨htrue, hwritten, by simp⟩, by simp, by simp⟩
    | crash =>
      cases hstep
      exact ⟨.refl i barrier, htrue, by simp, by simp⟩
    | _ => cases hstep
  | released timely =>
    cases act with
    | terminate =>
      cases hstep
      exact ⟨.refl i barrier, hfits, by simp, by simp⟩
    | crash =>
      cases hstep
      exact ⟨.refl i barrier, hfits.1, by simp, by simp⟩
    | _ => cases hstep
  | terminated timely =>
    cases act with
    | close =>
      cases hstep
      exact ⟨.refl i barrier, hfits, by simp, by simp⟩
    | crash =>
      cases hstep
      exact ⟨.refl i barrier, hfits.1, by simp, by simp⟩
    | _ => cases hstep
  | unwinding guard =>
    cases act with
    | raise =>
      cases hstep
      obtain ⟨hfalse, hheld⟩ := hfits
      refine ⟨touched_release hheld, ?_, by simp, by simp⟩
      exact isRaised?_release (lt_of_isRaised? hfalse) hheld
    | _ => cases hstep
  | unborn | closed | crashed | absent => cases act <;> cases hstep

/-- An observer can go on towards a conclusion unless its work is over, has not begun, or waits for
a signal. -/
theorem exists_step (barrier : Barrier) (i : Nat) (conclusion : Option Outcome) (phase : Phase) :
    phase.IsFinal = true ∨ phase = .unborn ∨
      (∃ peer peers, phase = .waiting (peer :: peers) ∧ barrier.isRaised? peer ≠ some true) ∨
      ∃ act : Act, act.Serves conclusion = true ∧ (phase.step? barrier i act).isSome = true := by
  cases phase with
  | unborn => exact .inr (.inl rfl)
  | started => exact .inr (.inr (.inr ⟨.arm, rfl, rfl⟩))
  | driving guard =>
    cases conclusion with
    | none => exact .inr (.inr (.inr ⟨.crash, rfl, rfl⟩))
    | some outcome => exact .inr (.inr (.inr ⟨.conclude outcome, by simp [Act.Serves], rfl⟩))
  | concluded guard outcome => exact .inr (.inr (.inr ⟨.write, rfl, rfl⟩))
  | written guard => exact .inr (.inr (.inr ⟨.raise, rfl, rfl⟩))
  | waiting peers =>
    refine .inr (.inr ?_)
    cases peers with
    | nil => exact .inr ⟨.pass, rfl, rfl⟩
    | cons peer peers =>
      -- the only entity that cannot go on waits for a signal that is not raised
      by_cases hpeer : barrier.isRaised? peer = some true
      · refine .inr ⟨.pass, rfl, ?_⟩
        simp [step?, pass?, hpeer]
      · exact .inl ⟨peer, peers, rfl, hpeer⟩
  | released timely => exact .inr (.inr (.inr ⟨.terminate, rfl, rfl⟩))
  | terminated timely => exact .inr (.inr (.inr ⟨.close, rfl, rfl⟩))
  | unwinding guard => exact .inr (.inr (.inr ⟨.raise, rfl, rfl⟩))
  | closed | crashed | absent => exact .inl rfl

end Phase

/-! ## What holds of a case -/

namespace Meeting

open Barrier

variable {roles : List Role} {meeting meeting' : Meeting} {move : Move}

/-- What holds of a case all the time while it runs. -/
structure Sound (roles : List Role) (meeting : Meeting) : Prop where
  cast : meeting.barrier.roles = roles
  length : meeting.phases.length = roles.length
  fits : ∀ (i : Nat) (phase : Phase),
    meeting.phases[i]? = some phase → phase.Fits meeting.barrier i
  nodup : meeting.runner.left.Nodup
  unborn : ∀ i : Nat, meeting.phases[i]? = some .unborn ↔ i ∈ meeting.runner.left
  absent : ∀ i : Nat, meeting.phases[i]? = some .absent →
    meeting.barrier.isRaised? i = some true ∨ meeting.runner.excused? = some i
  absentee : ∀ i, meeting.runner.absentee? = some i → meeting.phases[i]? = some .absent
  upright : meeting.namable = true → meeting.runner.HasCollapsed = false

/-- A new meeting is sound. -/
theorem sound_ofRoles (namable : Bool) (roles : List Role) :
    (ofRoles namable roles).Sound roles where
  cast := Barrier.roles_ofRoles roles
  length := List.length_map _
  fits i phase h := by
    rw [ofRoles, List.getElem?_map] at h
    obtain ⟨role, hrole, rfl⟩ := Option.map_eq_some_iff.mp h
    rw [Phase.Fits, ofRoles, isRaised?_ofRoles, hrole, Option.map_some]
  nodup := nodup_startOrder
  unborn i := by
    rw [ofRoles, Runner.left, mem_startOrder, List.getElem?_map, Option.map_eq_some_iff]
    constructor
    · rintro ⟨role, hrole, -⟩
      exact (List.getElem?_eq_some_iff.mp hrole).1
    · intro hlt
      exact ⟨_, List.getElem?_eq_getElem hlt, rfl⟩
  absent i h := by
    rw [ofRoles, List.getElem?_map] at h
    obtain ⟨role, -, hphase⟩ := Option.map_eq_some_iff.mp h
    exact nomatch hphase
  absentee i h := by
    simp [ofRoles, Runner.absentee?] at h
  upright _ := rfl

/-- A phase that was set is that of its own entity. -/
theorem getElem?_set_of_ne {phases : List Phase} {i k : Nat} (phase : Phase) (hk : k ≠ i) :
    (phases.set i phase)[k]? = phases[k]? :=
  List.getElem?_set_ne fun h => hk h.symm

theorem eq_of_getElem?_set {phases : List Phase} {i : Nat} {phase phase' : Phase}
    (h : (phases.set i phase)[i]? = some phase') : phase' = phase := by
  rw [List.getElem?_set_self'] at h
  cases hget : phases[i]? with
  | none => simp [hget] at h
  | some old =>
    rw [hget] at h
    exact (Option.some.inj h).symm

/-- What holds of all entities after a phase was set, if it holds of the new phase and of those of
the other entities. -/
theorem forall_getElem?_set {P : Nat → Phase → Prop} {phases : List Phase} {i : Nat} {new : Phase}
    (hown : P i new)
    (hothers : ∀ (k : Nat) (phase : Phase), k ≠ i → phases[k]? = some phase → P k phase) :
    ∀ (k : Nat) (phase : Phase), (phases.set i new)[k]? = some phase → P k phase := by
  intro k phase hphase
  by_cases hk : k = i
  · subst hk
    rwa [eq_of_getElem?_set hphase]
  · rw [getElem?_set_of_ne new hk] at hphase
    exact hothers k phase hk hphase

/-- What was done for entity `i` leaves all phases fitting if its own new phase does. -/
theorem fits_set {barrier barrier' : Barrier} {phases : List Phase} {i : Nat} {new : Phase}
    (hfits : ∀ (k : Nat) (phase : Phase), phases[k]? = some phase → phase.Fits barrier k)
    (htouched : Touched i barrier barrier') (hown : new.Fits barrier' i) :
    ∀ (k : Nat) (phase : Phase), (phases.set i new)[k]? = some phase → phase.Fits barrier' k :=
  forall_getElem?_set hown fun k phase hk hphase => (hfits k phase hphase).of_touched htouched hk

theorem Sound.lt (h : meeting.Sound roles) {i : Nat} {phase : Phase}
    (hphase : meeting.phases[i]? = some phase) : i < meeting.barrier.roles.length := by
  rw [h.cast, ← h.length]
  exact (List.getElem?_eq_some_iff.mp hphase).1

/-- The runner comes to the next entity: nothing happens at the barrier, and the entity is no
longer unborn. -/
theorem Sound.born (h : Sound roles meeting) {i : Nat} {left : List Nat}
    (hrunner : meeting.runner = .starting (i :: left)) {phase : Phase} (runner : Runner)
    (hne : phase ≠ .unborn) (hfits : phase.Fits meeting.barrier i) (hleft : runner.left = left)
    (habsent : phase = .absent → runner.excused? = some i)
    (habsentee : ∀ k, runner.absentee? = some k → k = i ∧ phase = .absent)
    (hupright : meeting.namable = true → runner.HasCollapsed = false) :
    Sound roles { meeting with phases := meeting.phases.set i phase, runner } := by
  have hnodup := h.nodup
  have hunborn := h.unborn
  rw [hrunner, Runner.left] at hnodup hunborn
  -- the entity at the head of what is left is the only one that changes
  have hi : meeting.phases[i]? = some .unborn := (hunborn i).mpr (List.mem_cons_self ..)
  have hset : (meeting.phases.set i phase)[i]? = some phase := by
    rw [List.getElem?_set_self', hi]
    rfl
  refine ⟨h.cast, by rw [List.length_set, h.length], fits_set h.fits (.refl i _) hfits, ?_,
    fun k => ?_, fun k hk => ?_, ?_, hupright⟩
  · rw [hleft]
    exact (List.nodup_cons.mp hnodup).2
  · rw [hleft]
    by_cases hk : k = i
    · subst hk
      rw [hset]
      exact iff_of_false (fun heq => hne (Option.some.inj heq)) (List.nodup_cons.mp hnodup).1
    · rw [getElem?_set_of_ne phase hk, hunborn k, List.mem_cons]
      exact or_iff_right hk
  · by_cases hki : k = i
    · subst hki
      rw [hset] at hk
      exact .inr (habsent (Option.some.inj hk))
    · rw [getElem?_set_of_ne phase hki] at hk
      refine .inl ((h.absent k hk).resolve_right ?_)
      rw [hrunner]
      simp [Runner.excused?]
  · intro k hk
    obtain ⟨rfl, rfl⟩ := habsentee k hk
    exact hset

/-- The runner does something at the barrier for an entity that could not be started. -/
theorem Sound.served (h : Sound roles meeting) {i : Nat}
    (hi : meeting.runner.absentee? = some i) {barrier' : Barrier} (runner : Runner)
    (htouched : Touched i meeting.barrier barrier')
    (hraised : barrier'.isRaised? i = some true) (hleft : runner.left = meeting.runner.left)
    (habsentee : ∀ k, runner.absentee? = some k → k = i)
    (hupright : runner.HasCollapsed = false) :
    Sound roles { meeting with barrier := barrier', runner } := by
  -- the runner acts for the absent entity; the others only see its signal
  have habsent := h.absentee i hi
  refine ⟨htouched.roles.trans h.cast, h.length, fun k phase hphase => ?_, ?_, ?_,
    fun k hk => .inl ?_, fun k hk => ?_, fun _ => hupright⟩
  · by_cases hki : k = i
    · subst hki
      rw [habsent] at hphase
      cases hphase
      exact trivial
    · exact (h.fits k phase hphase).of_touched htouched hki
  · rw [hleft]
    exact h.nodup
  · rw [hleft]
    exact h.unborn
  · by_cases hki : k = i
    · rw [hki]
      exact hraised
    · refine htouched.raised k ((h.absent k hk).resolve_right fun hexcused => hki ?_)
      rw [Runner.absentee?_of_excused? hexcused] at hi
      exact Option.some.inj hi
  · rw [habsentee k hk]
    exact habsent

/-- An observer does something for its entity. -/
theorem Sound.acted (h : Sound roles meeting) {i : Nat} {phase phase' : Phase} {act : Act}
    {barrier' : Barrier} (hphase : meeting.phases[i]? = some phase)
    (hstep : phase.step? meeting.barrier i act = some (phase', barrier')) :
    Sound roles { meeting with
      barrier := barrier', phases := meeting.phases.set i phase' } := by
  obtain ⟨htouched, hfits, hunborn, habsent⟩ := Phase.step?_fits (h.fits i phase hphase) hstep
  -- neither has an observer that could act
  have hwas : phase ≠ .unborn ∧ phase ≠ .absent := by
    constructor <;> rintro rfl <;> cases act <;> cases hstep
  have hset : (meeting.phases.set i phase')[i]? = some phase' := by
    rw [List.getElem?_set_self', hphase]
    rfl
  refine ⟨htouched.roles.trans h.cast, by rw [List.length_set, h.length],
    fits_set h.fits htouched hfits, h.nodup, ?_, ?_, ?_, h.upright⟩
  · intro k
    rw [← h.unborn k]
    by_cases hk : k = i
    · subst hk
      rw [hset, hphase]
      exact iff_of_false (fun heq => hunborn (Option.some.inj heq)) fun heq =>
        hwas.1 (Option.some.inj heq)
    · rw [getElem?_set_of_ne phase' hk]
  · intro k hk
    by_cases hki : k = i
    · subst hki
      rw [hset] at hk
      exact absurd (Option.some.inj hk) habsent
    · rw [getElem?_set_of_ne phase' hki] at hk
      exact (h.absent k hk).imp_left (htouched.raised k)
  · intro k hk
    by_cases hki : k = i
    · subst hki
      have := h.absentee k hk
      rw [hphase] at this
      exact absurd (Option.some.inj this) hwas.2
    · rw [getElem?_set_of_ne phase' hki]
      exact h.absentee k hk

/-- Who is ready for a step, and what the step does. -/
inductive Makes (meeting : Meeting) : Move → Meeting → Prop where
  | start {i : Nat} {left : List Nat} (hnamable : meeting.namable = true)
    (hrunner : meeting.runner = .starting (i :: left)) :
    Makes meeting .start
      { meeting with phases := meeting.phases.set i .started, runner := .starting left }
  | refuse {i : Nat} {left : List Nat} (hnamable : meeting.namable = true)
    (hrunner : meeting.runner = .starting (i :: left)) :
    Makes meeting .refuse
      { meeting with phases := meeting.phases.set i .absent, runner := .excusing i left }
  | collapse {i : Nat} {left : List Nat} (hnamable : meeting.namable = false)
    (hrunner : meeting.runner = .starting (i :: left)) :
    Makes meeting .collapse
      { meeting with phases := meeting.phases.set i .absent, runner := .collapsed i left }
  | excuse {i : Nat} {left : List Nat} (hrunner : meeting.runner = .excusing i left) :
    Makes meeting .excuse
      { meeting with
        barrier := ((meeting.barrier.guardFor i).2.release (meeting.barrier.guardFor i).1).2
        runner := .recording i left }
  | record {i : Nat} {left : List Nat} (hrunner : meeting.runner = .recording i left) :
    Makes meeting .record
      { meeting with
        barrier := (meeting.barrier.settle i .topicNotCreated).2, runner := .starting left }
  | act {i : Nat} {act : Act} {phase phase' : Phase} {barrier' : Barrier}
    (hphase : meeting.phases[i]? = some phase)
    (hact : phase.step? meeting.barrier i act = some (phase', barrier')) :
    Makes meeting (.act i act)
      { meeting with barrier := barrier', phases := meeting.phases.set i phase' }

/-- What a move does, told by its kind. The step lemmas below go by these kinds and not by the
definition of a step. -/
theorem makes_of_step? (hstep : meeting.step? move = some meeting') :
    meeting.Makes move meeting' := by
  cases move with
  | start | refuse | collapse =>
    rw [step?] at hstep
    split at hstep
    next i left hnamable hrunner =>
      cases hstep
      constructor
      · exact hnamable
      · exact hrunner
    next => cases hstep
  | excuse | record =>
    rw [step?] at hstep
    split at hstep
    next i left hrunner =>
      cases hstep
      constructor
      exact hrunner
    next => cases hstep
  | act i act =>
    simp only [step?, Option.bind_eq_bind, Option.bind_eq_some_iff] at hstep
    obtain ⟨phase, hphase, ⟨phase', barrier'⟩, hact, heq⟩ := hstep
    cases heq
    exact .act hphase hact

/-- Whether the threads can have their names does not change. -/
theorem namable_of_step? (hstep : meeting.step? move = some meeting') :
    meeting'.namable = meeting.namable := by
  cases makes_of_step? hstep <;> rfl

/-- Every step leads from a sound case to a sound one. -/
theorem Sound.step (h : Sound roles meeting) (hstep : meeting.step? move = some meeting') :
    Sound roles meeting' := by
  cases makes_of_step? hstep with
  | @start i left hnamable hrunner =>
    have hi : meeting.phases[i]? = some .unborn := by
      rw [h.unborn, hrunner]
      exact List.mem_cons_self ..
    refine h.born hrunner _ (by simp) ?_ rfl (by simp) (by simp [Runner.absentee?]) fun _ => rfl
    exact h.fits i .unborn hi
  | refuse hnamable hrunner =>
    exact h.born hrunner _ (by simp) trivial rfl (fun _ => rfl)
      (fun k hk => ⟨(Option.some.inj hk).symm, rfl⟩) fun _ => rfl
  | collapse hnamable hrunner =>
    refine h.born hrunner _ (by simp) trivial rfl (fun _ => rfl)
      (fun k hk => ⟨(Option.some.inj hk).symm, rfl⟩) fun htrue => ?_
    exact absurd (htrue.symm.trans hnamable) (by decide)
  | @excuse i left hrunner =>
    have hi : meeting.runner.absentee? = some i := by
      rw [hrunner]
      rfl
    have hheld : (meeting.barrier.guardFor i).2.guards[(meeting.barrier.guardFor i).1]? =
        some (some i) := guards_guardFor
    have hlt := h.lt (h.absentee i hi)
    refine h.served hi _ (touched_guardFor.trans (touched_release hheld))
      (isRaised?_release hlt hheld) ?_ (fun k hk => (Option.some.inj hk).symm) rfl
    rw [hrunner]
    rfl
  | @record i left hrunner =>
    have hi : meeting.runner.absentee? = some i := by
      rw [hrunner]
      rfl
    -- the signal was raised before, by the step that excused the entity
    have hraised : meeting.barrier.isRaised? i = some true := by
      refine (h.absent i (h.absentee i hi)).resolve_right ?_
      rw [hrunner]
      simp [Runner.excused?]
    refine h.served hi _ (touched_settle _) ?_ ?_ (by simp [Runner.absentee?]) rfl
    · rwa [isRaised?_settle]
    · rw [hrunner]
      rfl
  | act hphase hact => exact h.acted hphase hact

/-- A case is sound after any number of steps. -/
theorem Sound.run {moves : List Move} (h : Sound roles meeting)
    (hrun : meeting.run? moves = some meeting') : Sound roles meeting' := by
  induction moves generalizing meeting with
  | nil =>
    cases hrun
    exact h
  | cons move moves ih =>
    obtain ⟨next, hstep, hrest⟩ := Option.bind_eq_some_iff.mp hrun
    exact ih (h.step hstep) hrest

/-- An observer is ready for a step. -/
theorem exists_move {script : Nat → Option Outcome} {i : Nat} {phase : Phase} {act : Act}
    (hphase : meeting.phases[i]? = some phase) (hserves : act.Serves (script i) = true)
    (hact : (phase.step? meeting.barrier i act).isSome = true) :
    ∃ move : Move, move.Serves script = true ∧ (meeting.step? move).isSome = true := by
  obtain ⟨⟨phase', barrier'⟩, hstep⟩ := Option.isSome_iff_exists.mp hact
  refine ⟨.act i act, hserves, ?_⟩
  simp [step?, hphase, hstep]

/-- When all entities have been started, one whose signal is not raised can go on. -/
theorem Sound.exists_move_of_not_raised (h : Sound roles meeting) (script : Nat → Option Outcome)
    (hrunner : meeting.runner = .starting []) {j : Nat} (hj : j < meeting.phases.length)
    (hraised : meeting.barrier.isRaised? j ≠ some true) :
    ∃ move : Move, move.Serves script = true ∧ (meeting.step? move).isSome = true := by
  have hphase := List.getElem?_eq_getElem hj
  generalize meeting.phases[j] = phase at hphase
  have hfits := h.fits j phase hphase
  rcases Phase.exists_step meeting.barrier j (script j) phase with
    hfinal | rfl | ⟨peer, peers, rfl, -⟩ | ⟨act, hserves, hact⟩
  · cases phase with
    | closed timely => exact absurd hfits.1 hraised
    | crashed => exact absurd hfits hraised
    | absent =>
      refine absurd ((h.absent j hphase).resolve_right ?_) hraised
      rw [hrunner]
      simp [Runner.excused?]
    | _ => cases hfinal
  · rw [h.unborn, hrunner] at hphase
    cases hphase
  · exact absurd hfits.1 hraised
  · exact exists_move hphase hserves hact

/-- Unless the case is over somebody is ready for a step, whatever the observers are to come to, if
the threads can have their names. -/
theorem Sound.exists_move (h : Sound roles meeting) (hnamable : meeting.namable = true)
    (script : Nat → Option Outcome) (hopen : ¬ meeting.IsOver) :
    ∃ move : Move, move.Serves script = true ∧ (meeting.step? move).isSome = true := by
  cases hrunner : meeting.runner with
  | excusing i left => exact ⟨.excuse, rfl, by simp [step?, hrunner]⟩
  | recording i left => exact ⟨.record, rfl, by simp [step?, hrunner]⟩
  | collapsed i left =>
    have hupright := h.upright hnamable
    rw [hrunner] at hupright
    cases hupright
  | starting left =>
    cases left with
    | cons i left => exact ⟨.start, rfl, by simp [step?, hnamable, hrunner]⟩
    | nil =>
      -- the runner is done, so there is an entity that is not
      have hbusy : ∃ phase ∈ meeting.phases, phase.IsFinal ≠ true := by
        refine Classical.byContradiction fun hnone => hopen ⟨hrunner, fun phase hmem => ?_⟩
        exact Classical.byContradiction fun hne => hnone ⟨phase, hmem, hne⟩
      obtain ⟨phase, hmem, hbusy⟩ := hbusy
      obtain ⟨i, hphase⟩ := List.getElem?_of_mem hmem
      rcases Phase.exists_step meeting.barrier i (script i) phase with
        hfinal | rfl | ⟨peer, peers, rfl, hpeer⟩ | ⟨act, hserves, hact⟩
      · exact absurd hfinal hbusy
      · rw [h.unborn, hrunner] at hphase
        cases hphase
      · -- it waits for an entity that has not raised its signal, and which can go on itself
        have hwaits := (h.fits i _ hphase).2.2.1 peer (List.mem_cons_self ..)
        obtain ⟨own, other, -, hother, -⟩ := mem_waitSet.mp hwaits
        have hlt := (List.getElem?_eq_some_iff.mp hother).1
        rw [h.cast, ← h.length] at hlt
        exact h.exists_move_of_not_raised script hrunner hlt hpeer
      · exact Meeting.exists_move hphase hserves hact

/-- Of two publishers the second has yet to be started; one subscriber crashed, and another could
not be started. The first publisher has seen both signals. -/
def deserted : Meeting where
  namable := true
  barrier :=
    ⟨[⟨.publisher, true, some .ok⟩, ⟨.subscriber, true, none⟩,
      ⟨.subscriber, true, some .topicNotCreated⟩, ⟨.publisher, false, none⟩], [none, none, none]⟩
  phases := [.terminated true, .crashed, .absent, .unborn]
  runner := .starting [3]

/-- A publisher and a subscriber. -/
def couple (name : String) : Case :=
  ⟨name, none, [⟨.publisher, "-t Square", .ok⟩, ⟨.subscriber, "-t Square", .ok⟩], .noCheck, none⟩

end Meeting

end PubSubTrials.Parting
