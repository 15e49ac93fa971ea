import PubSubTrials.Proofs.Barriers

/-!
# What a barrier remembers

The state of a barrier is told by what was done at it (`Operation`), in whatever order and however
many guards an entity had: a signal is raised once an operation was done for it that raises it
(`RaisedIn`), and a post has the outcome that was written for it first (`settled?`). Each operation
carries this on (`Remembers.step`). A guard that is used up has raised its signal before, so that
using it once more is of no consequence.
-/

namespace PubSubTrials.Barrier

/-- What is done at a barrier. -/
inductive Operation where
  | raise (i : Nat)
  /-- A guard for an entity is handed out. -/
  | handOut (i : Nat)
  /-- A guard, given by its number, is finished, dropped, or lost in a crash. -/
  | release (guard : Nat)
  /-- Whoever is handed a guard for an entity crashes at once. -/
  | crash (i : Nat)
  | settle (i : Nat) (outcome : Outcome)
  deriving DecidableEq, Repr

/-- A barrier at which one more thing was done. -/
def step (barrier : Barrier) : Operation → Barrier
  | .raise i => barrier.raise i
  | .handOut i => (barrier.guardFor i).2
  | .release guard => (barrier.release guard).2
  | .crash i => ((barrier.guardFor i).2.release (barrier.guardFor i).1).2
  | .settle i outcome => (barrier.settle i outcome).2

/-- The barrier of some roles after a history. -/
def after (roles : List Role) (history : List Operation) : Barrier :=
  history.foldl step (ofRoles roles)

/-! ## Histories -/

/-- The entity of the guard that an operation hands out, if it does. -/
def Operation.guarded? : Operation → Option Nat
  | .handOut i | .crash i => some i
  | _ => none

/-- The entities of the guards that were handed out, in the order of their numbers. -/
def guarded (history : List Operation) : List Nat :=
  history.filterMap Operation.guarded?

/-- The entity that an operation is for, if it comes after a history; none if it is for a guard that
was not handed out. -/
def Operation.entity? (history : List Operation) : Operation → Option Nat
  | .raise i | .handOut i | .crash i | .settle i _ => some i
  | .release guard => (guarded history)[guard]?

/-- Whether an operation raises the signal of its entity. -/
def Operation.isRaising : Operation → Bool
  | .raise _ | .release _ | .crash _ => true
  | .handOut _ | .settle _ _ => false

/-- The outcome that an operation writes for an entity, if it does. -/
def Operation.settles? (i : Nat) : Operation → Option Outcome
  | .settle j outcome => if j = i then some outcome else none
  | _ => none

/-- Among the operations of a history there is one that was to raise the signal of an entity. -/
def RaisedIn (history : List Operation) (i : Nat) : Prop :=
  ∃ earlier operation later, history = earlier ++ operation :: later ∧
    operation.isRaising = true ∧ operation.entity? earlier = some i

/-- The first outcome that was written for an entity in a history, if there is one. -/
def settled? (history : List Operation) (i : Nat) : Option Outcome :=
  history.findSome? (Operation.settles? i)

theorem guarded_concat (history : List Operation) (operation : Operation) :
    guarded (history ++ [operation]) = guarded history ++ operation.guarded?.toList := by
  unfold guarded
  rw [List.filterMap_append]
  cases operation <;> rfl

/-- One more operation counts only for what has not been settled. -/
theorem settled?_concat (history : List Operation) (operation : Operation) (i : Nat) :
    settled? (history ++ [operation]) i = (settled? history i).or (operation.settles? i) := by
  unfold settled?
  rw [List.findSome?_append, List.findSome?_singleton]

theorem RaisedIn.append {history : List Operation} {i : Nat} (h : RaisedIn history i)
    (more : List Operation) : RaisedIn (history ++ more) i := by
  obtain ⟨earlier, operation, later, rfl, hraising, hentity⟩ := h
  refine ⟨earlier, operation, later ++ more, ?_, hraising, hentity⟩
  rw [List.append_assoc, List.cons_append]

/-- One more operation may raise one more signal. -/
theorem raisedIn_concat {history : List Operation} {operation : Operation} {i : Nat} :
    RaisedIn (history ++ [operation]) i ↔
      RaisedIn history i ∨ operation.isRaising = true ∧ operation.entity? history = some i := by
  constructor
  · rintro ⟨earlier, other, later, heq, hraising, hentity⟩
    -- the operation that counts is the last one, or one of the history before it
    rcases List.eq_nil_or_concat later with rfl | ⟨front, last, rfl⟩
    · obtain ⟨rfl, hlast⟩ := List.append_inj' heq rfl
      obtain rfl := List.singleton_inj.mp hlast
      exact .inr ⟨hraising, hentity⟩
    · left
      have hsplit : history ++ [operation] = (earlier ++ other :: front) ++ [last] := by
        rw [heq, List.concat_eq_append, List.append_assoc, List.cons_append]
      exact ⟨earlier, other, front, (List.append_inj' hsplit rfl).1, hraising, hentity⟩
  · rintro (h | ⟨hraising, hentity⟩)
    · exact h.append [operation]
    · exact ⟨history, operation, [], rfl, hraising, hentity⟩

theorem not_raisedIn_nil (i : Nat) : ¬ RaisedIn [] i := by
  rintro ⟨earlier, operation, later, heq, -⟩
  cases earlier <;> cases heq

/-! ## What an operation changes -/

section

variable {barrier : Barrier} {i : Nat}

/-- A guard in use raises its signal; any other one does nothing. -/
theorem release_cases (barrier : Barrier) (guard : Nat) :
    (∃ i, barrier.guards[guard]? = some (some i) ∧ barrier.release guard =
      (true, { barrier.raise i with guards := barrier.guards.set guard none })) ∨
    ((∀ i, barrier.guards[guard]? ≠ some (some i)) ∧ barrier.release guard = (false, barrier)) := by
  unfold release
  split
  · next i h => exact .inl ⟨i, h, rfl⟩
  · next h => exact .inr ⟨h, rfl⟩

/-- A crash raises the signal, and the guard that was handed out is used up. -/
theorem step_crash (barrier : Barrier) (i : Nat) :
    barrier.step (.crash i) = { barrier.raise i with guards := barrier.guards ++ [none] } := by
  have hused : (barrier.guards ++ [some i]).set barrier.guards.length none =
      barrier.guards ++ [none] := by
    rw [List.set_append_right _ _ (Nat.le_refl _), Nat.sub_self, List.set_cons_zero]
  rw [step, release_of_some guards_guardFor]
  show (⟨_, (barrier.guards ++ [some i]).set barrier.guards.length none⟩ : Barrier) = _
  rw [hused]
  rfl

/-- An entity with a post has its signal raised by raising it; nobody else has. -/
theorem isRaised?_raise_eq_some_true {k : Nat} :
    (barrier.raise i).isRaised? k = some true ↔
      barrier.isRaised? k = some true ∨ i = k ∧ k < barrier.roles.length := by
  rw [isRaised?_raise, length_roles]
  by_cases hik : i = k
  · rw [if_pos hik, Option.map_eq_some_iff]
    constructor
    · rintro ⟨post, hpost, -⟩
      exact .inr ⟨hik, (List.getElem?_eq_some_iff.mp hpost).1⟩
    · rintro (h | ⟨-, hlt⟩)
      · obtain ⟨post, hpost, -⟩ := Option.map_eq_some_iff.mp h
        exact ⟨post, hpost, rfl⟩
      · exact ⟨_, List.getElem?_eq_getElem hlt, rfl⟩
  · rw [if_neg hik, or_iff_left fun h => hik h.1]

end

/-- Guards that are as a history has left them. -/
structure Accounts (history : List Operation) (guards : List (Option Nat)) : Prop where
  length : guards.length = (guarded history).length
  unused : ∀ guard i : Nat, guards[guard]? = some (some i) → (guarded history)[guard]? = some i
  /-- The signals of guards that are used up were raised. -/
  used : ∀ guard i : Nat, guards[guard]? = some none → (guarded history)[guard]? = some i →
    RaisedIn history i

namespace Accounts

variable {history : List Operation} {guards : List (Option Nat)} {operation : Operation}

theorem keep (h : Accounts history guards) (hnone : operation.guarded? = none) :
    Accounts (history ++ [operation]) guards := by
  have hguarded : guarded (history ++ [operation]) = guarded history := by
    rw [guarded_concat, hnone, Option.toList_none, List.append_nil]
  refine ⟨by rw [hguarded, h.length], fun guard i hi => ?_, fun guard i hi hfor => ?_⟩
  · rw [hguarded]
    exact h.unused guard i hi
  · rw [hguarded] at hfor
    exact (h.used guard i hi hfor).append [operation]

/-- A new guard comes last; if it is used up at once its signal is raised. -/
theorem extend {i : Nat} {state : Option Nat} (h : Accounts history guards)
    (hsome : operation.guarded? = some i)
    (hstate : state = some i ∨ state = none ∧ RaisedIn (history ++ [operation]) i) :
    Accounts (history ++ [operation]) (guards ++ [state]) := by
  have hguarded : guarded (history ++ [operation]) = guarded history ++ [i] := by
    rw [guarded_concat, hsome, Option.toList_some]
  -- a guard in the longer list is one of the old ones or the one handed out last
  have hcases : ∀ (guard : Nat) (other : Option Nat), (guards ++ [state])[guard]? = some other →
      guards[guard]? = some other ∧ (guarded history ++ [i])[guard]? = (guarded history)[guard]? ∨
        state = other ∧ (guarded history ++ [i])[guard]? = some i := by
    intro guard other hother
    by_cases hlt : guard < guards.length
    · left
      rw [List.getElem?_append_left hlt] at hother
      exact ⟨hother, List.getElem?_append_left (by rw [← h.length]; exact hlt)⟩
    · right
      rw [List.getElem?_append_right (Nat.le_of_not_lt hlt), List.getElem?_singleton] at hother
      split at hother
      · next hzero =>
        have hlast : guard = (guarded history).length := by
          have hlength := h.length
          omega
        rw [hlast, List.getElem?_concat_length]
        exact ⟨Option.some.inj hother, rfl⟩
      · cases hother
  refine ⟨?_, fun guard j hj => ?_, fun guard j hj hfor => ?_⟩
  · rw [hguarded, List.length_append, List.length_append, h.length]
    rfl
  · rw [hguarded]
    rcases hcases guard _ hj with ⟨hold, hsame⟩ | ⟨rfl, hnew⟩
    · rw [hsame]
      exact h.unused guard j hold
    · rcases hstate with hi | ⟨hnone, -⟩
      · rw [hnew, hi]
      · cases hnone
  · rw [hguarded] at hfor
    rcases hcases guard _ hj with ⟨hold, hsame⟩ | ⟨rfl, hnew⟩
    · rw [hsame] at hfor
      exact (h.used guard j hold hfor).append [operation]
    · obtain rfl : i = j := Option.some.inj (hnew.symm.trans hfor)
      rcases hstate with hi | ⟨-, hraised⟩
      · cases hi
      · exact hraised

/-- A guard in use is used up. -/
theorem release {guard i : Nat} (h : Accounts history guards)
    (hi : guards[guard]? = some (some i)) :
    Accounts (history ++ [.release guard]) (guards.set guard none) := by
  have hkept : Accounts (history ++ [.release guard]) guards := h.keep rfl
  refine ⟨by rw [List.length_set, hkept.length], fun other j hj => ?_, fun other j hj hfor => ?_⟩
  · by_cases hsame : guard = other
    · subst hsame
      rw [List.getElem?_set_self' , hi] at hj
      cases hj
    · rw [List.getElem?_set_ne hsame] at hj
      exact hkept.unused other j hj
  · by_cases hsame : guard = other
    · subst hsame
      obtain rfl : i = j := Option.some.inj ((hkept.unused guard i hi).symm.trans hfor)
      exact raisedIn_concat.mpr (.inr ⟨rfl, h.unused guard i hi⟩)
    · rw [List.getElem?_set_ne hsame] at hj
      exact hkept.used other j hj hfor

end Accounts

/-- A barrier that is as a history has left it. -/
structure Remembers (cast : List Role) (history : List Operation) (barrier : Barrier) : Prop where
  roles : barrier.roles = cast
  raised : ∀ i, barrier.isRaised? i = some true ↔ RaisedIn history i ∧ i < cast.length
  outcome : ∀ i < cast.length, barrier.outcomeOf? i = settled? history i
  guards : Accounts history barrier.guards

theorem remembers_ofRoles (roles : List Role) : Remembers roles [] (ofRoles roles) where
  roles := roles_ofRoles roles
  raised i := by
    refine iff_of_false ?_ fun h => not_raisedIn_nil i h.1
    rw [isRaised?_ofRoles]
    cases roles[i]? <;> simp
  outcome i _ := outcomeOf?_ofRoles roles i
  guards := by
    refine ⟨rfl, fun guard i h => ?_, fun guard i h => ?_⟩
    · cases h
    · cases h

namespace Remembers

variable {cast : List Role} {history : List Operation} {barrier : Barrier} {operation : Operation}
  {i : Nat}

theorem raised_raise (h : Remembers cast history barrier) (hraising : operation.isRaising = true)
    (hentity : operation.entity? history = some i) (k : Nat) :
    (barrier.raise i).isRaised? k = some true ↔
      RaisedIn (history ++ [operation]) k ∧ k < cast.length := by
  rw [isRaised?_raise_eq_some_true, h.raised, h.roles, raisedIn_concat, hentity, ← or_and_right,
    and_iff_right hraising, Option.some.injEq]

/-- An operation that finds the signal of its entity raised, or raises none, raises none. -/
theorem raised_keep (h : Remembers cast history barrier)
    (hidle : operation.isRaising = true → ∀ k, operation.entity? history = some k →
      RaisedIn history k) (k : Nat) :
    barrier.isRaised? k = some true ↔ RaisedIn (history ++ [operation]) k ∧ k < cast.length := by
  rw [h.raised, raisedIn_concat, or_iff_left_of_imp fun hraising => hidle hraising.1 k hraising.2]

theorem outcome_keep (h : Remembers cast history barrier)
    (hnone : ∀ k, operation.settles? k = none) {k : Nat} (hlt : k < cast.length) :
    barrier.outcomeOf? k = settled? (history ++ [operation]) k := by
  rw [h.outcome k hlt, settled?_concat, hnone, Option.or_none]

/-- A guard that is not in use was not handed out, or its signal was raised. -/
theorem raisedIn_of_not_inUse (h : Remembers cast history barrier) {guard : Nat}
    (hfree : ∀ i, barrier.guards[guard]? ≠ some (some i)) (k : Nat)
    (hfor : (guarded history)[guard]? = some k) : RaisedIn history k := by
  have hlt : guard < barrier.guards.length := by
    rw [h.guards.length]
    exact (List.getElem?_eq_some_iff.mp hfor).1
  cases hstate : barrier.guards[guard] with
  | none =>
    exact h.guards.used guard k (by rw [List.getElem?_eq_getElem hlt, hstate]) hfor
  | some j => exact absurd (by rw [List.getElem?_eq_getElem hlt, hstate]) (hfree j)

/-- The first outcome stays. -/
theorem outcome_settle (h : Remembers cast history barrier) (outcome : Outcome) {k : Nat}
    (hlt : k < cast.length) :
    (barrier.settle i outcome).2.outcomeOf? k =
      settled? (history ++ [.settle i outcome]) k := by
  have hwritten := h.outcome k hlt
  rw [settled?_concat, ← hwritten, outcomeOf?_settle, Operation.settles?]
  by_cases hik : i = k
  · rw [if_pos hik, if_pos hik, outcomeOf?]
    rw [← h.roles, length_roles] at hlt
    rw [List.getElem?_eq_getElem hlt, Option.map_some, Option.bind_some]
    cases barrier.posts[k].outcome <;> rfl
  · rw [if_neg hik, if_neg hik, Option.or_none]

/-- Whatever is done, the barrier goes on to be as the history has left it. -/
theorem step (h : Remembers cast history barrier) (operation : Operation) :
    Remembers cast (history ++ [operation]) (barrier.step operation) := by
  cases operation with
  | raise i =>
    refine ⟨roles_raise.trans h.roles, h.raised_raise rfl rfl, fun k hlt => ?_, h.guards.keep rfl⟩
    exact (outcomeOf?_raise k).trans (h.outcome_keep (fun _ => rfl) hlt)
  | handOut i =>
    refine ⟨h.roles, h.raised_keep fun hraising => ?_, fun k hlt => ?_, ?_⟩
    · cases hraising
    · exact h.outcome_keep (fun _ => rfl) hlt
    · exact h.guards.extend rfl (.inl rfl)
  | release guard =>
    rw [Barrier.step]
    obtain ⟨i, hi, hrelease⟩ | ⟨hfree, hrelease⟩ := release_cases barrier guard
    · have hfor : (guarded history)[guard]? = some i := h.guards.unused guard i hi
      rw [hrelease]
      refine ⟨roles_raise.trans h.roles, h.raised_raise rfl hfor, fun k hlt => ?_,
        h.guards.release hi⟩
      exact (outcomeOf?_raise k).trans (h.outcome_keep (fun _ => rfl) hlt)
    · -- the history counts a second release too, but the first one has raised the signal
      rw [hrelease]
      refine ⟨h.roles, h.raised_keep fun _ => h.raisedIn_of_not_inUse hfree, fun k hlt => ?_,
        h.guards.keep rfl⟩
      exact h.outcome_keep (fun _ => rfl) hlt
  | crash i =>
    rw [step_crash]
    refine ⟨roles_raise.trans h.roles, h.raised_raise rfl rfl, fun k hlt => ?_, ?_⟩
    · exact (outcomeOf?_raise k).trans (h.outcome_keep (fun _ => rfl) hlt)
    · refine h.guards.extend rfl (.inr ⟨rfl, ?_⟩)
      exact raisedIn_concat.mpr (.inr ⟨rfl, rfl⟩)
  | settle i outcome =>
    refine ⟨(roles_settle outcome).trans h.roles, fun k => ?_, fun k hlt => ?_, ?_⟩
    · rw [Barrier.step, isRaised?_settle]
      exact h.raised_keep (fun hraising => by cases hraising) k
    · exact h.outcome_settle outcome hlt
    · rw [Barrier.step, guards_settle]
      exact h.guards.keep rfl

/-- The step lemma along further operations, by induction over them. -/
theorem run (h : Remembers cast history barrier) (more : List Operation) :
    Remembers cast (history ++ more) (more.foldl Barrier.step barrier) := by
  induction more generalizing history barrier with
  | nil => rwa [List.append_nil]
  | cons operation rest ih =>
    have hrest := ih (h.step operation)
    rwa [List.append_assoc] at hrest

end Remembers

/-- Whatever has been done, a barrier remembers it. -/
theorem remembers_after (roles : List Role) (history : List Operation) :
    Remembers roles history (after roles history) :=
  (remembers_ofRoles roles).run history

/-! ## Whom an operation concerns -/

namespace Remembers

variable {cast : List Role} {history : List Operation} {barrier : Barrier} {operation : Operation}

/-- An operation changes the post of its entity alone. -/
theorem posts_step_of_ne (h : Remembers cast history barrier) {k : Nat}
    (hk : operation.entity? history ≠ some k) :
    (barrier.step operation).posts[k]? = barrier.posts[k]? := by
  -- every operation is about one entity, if about any
  have hraise : ∀ i, i ≠ k → (barrier.raise i).posts[k]? = barrier.posts[k]? := by
    intro i hi
    rw [posts_raise]
    simp only [hi, if_false, Option.map_id']
  cases operation with
  | raise i => exact hraise i fun heq => hk (congrArg some heq)
  | handOut i => rfl
  | release guard =>
    rw [Barrier.step]
    obtain ⟨i, hi, hrelease⟩ | ⟨-, hrelease⟩ := release_cases barrier guard
    · rw [hrelease]
      refine hraise i fun heq => hk ?_
      rw [← heq]
      exact h.guards.unused guard i hi
    · rw [hrelease]
  | crash i =>
    rw [step_crash]
    exact hraise i fun heq => hk (congrArg some heq)
  | settle i outcome =>
    have hne : i ≠ k := fun heq => hk (congrArg some heq)
    rw [Barrier.step, posts_settle]
    simp only [hne, if_false, Option.map_id']

/-- An operation for an entity without a post changes no post. -/
theorem posts_step_of_outside (h : Remembers cast history barrier)
    (houtside : ∀ i, operation.entity? history = some i → cast.length ≤ i) :
    (barrier.step operation).posts = barrier.posts := by
  refine List.ext_getElem? fun k => ?_
  by_cases hk : operation.entity? history = some k
  · have hle := houtside k hk
    have hbefore := h.roles
    have hafter := (h.step operation).roles
    rw [← hbefore, length_roles] at hle
    rw [List.getElem?_eq_none hle, List.getElem?_eq_none]
    rwa [← length_roles, hafter, ← hbefore, length_roles]
  · exact h.posts_step_of_ne hk

end Remembers

variable {barrier : Barrier} {i j : Nat}

/-- Waiting is mutual. -/
theorem mem_waitSet_comm : j ∈ barrier.waitSet i ↔ i ∈ barrier.waitSet j := by
  rw [mem_waitSet, mem_waitSet]
  constructor
  · rintro ⟨own, other, hown, hother, hne⟩
    exact ⟨other, own, hother, hown, hne.symm⟩
  · rintro ⟨own, other, hown, hother, hne⟩
    exact ⟨other, own, hother, hown, hne.symm⟩

/-- Nobody waits for itself. -/
theorem not_mem_waitSet_self : i ∉ barrier.waitSet i := by
  rw [mem_waitSet]
  rintro ⟨own, other, hown, hother, hne⟩
  exact hne (Option.some.inj (hother.symm.trans hown))

/-- An outcome is taken for a post that has none; otherwise nothing happens. -/
theorem settle_cases (barrier : Barrier) (i : Nat) (outcome : Outcome) :
    (barrier.settle i outcome).1 =
        (if i < barrier.roles.length then some (barrier.outcomeOf? i).isNone else none) ∧
      ((barrier.settle i outcome).1 ≠ some true → (barrier.settle i outcome).2 = barrier) := by
  unfold settle outcomeOf?
  rw [length_roles]
  cases hpost : barrier.posts[i]? with
  | none =>
    rw [if_neg (Nat.not_lt_of_le (List.getElem?_eq_none_iff.mp hpost))]
    exact ⟨rfl, fun _ => rfl⟩
  | some post =>
    rw [if_pos (List.getElem?_eq_some_iff.mp hpost).1, Option.bind_some]
    dsimp only
    cases post.outcome with
    | none => exact ⟨rfl, fun h => absurd rfl h⟩
    | some written => exact ⟨rfl, fun _ => rfl⟩

/-- Whatever was done at a barrier: a signal is raised just if something was done for its entity
that raises it, and it does not fall again. An entity waits for those of the other role, who wait
for it, and it has waited long enough just when all of their signals are raised. What is done for an
entity without a post, or with a guard that was never handed out, changes no post. A post has the
first outcome that was written for it, and refuses every later one. -/
theorem signals_of_history (roles : List Role) (history : List Operation) :
    let barrier := after roles history
    (∀ j, barrier.isRaised? j = some true ↔ RaisedIn history j ∧ j < roles.length) ∧
    (∀ j later, barrier.isRaised? j = some true →
      (after roles (history ++ later)).isRaised? j = some true) ∧
    (∀ i j, j ∈ barrier.waitSet i ↔
      ∃ own other, roles[i]? = some own ∧ roles[j]? = some other ∧ other ≠ own) ∧
    (∀ i j, j ∈ barrier.waitSet i ↔ i ∈ barrier.waitSet j) ∧
    (∀ i, i ∉ barrier.waitSet i) ∧
    (∀ i, barrier.peersRaised i = true ↔
      ∀ j ∈ barrier.waitSet i, barrier.isRaised? j = some true) ∧
    (∀ operation : Operation,
      (∀ i, operation.entity? history = some i → roles.length ≤ i) →
        (barrier.step operation).posts = barrier.posts) ∧
    (∀ i < roles.length, barrier.outcomeOf? i = settled? history i) ∧
    ∀ i outcome,
      (barrier.settle i outcome).1 =
        (if i < roles.length then some (settled? history i).isNone else none) ∧
      ((barrier.settle i outcome).1 ≠ some true → (barrier.settle i outcome).2 = barrier) := by
  intro barrier
  have h : Remembers roles history barrier := remembers_after roles history
  refine ⟨h.raised, ?_, ?_, fun _ _ => mem_waitSet_comm, fun _ => not_mem_waitSet_self,
    fun _ => peersRaised_iff, fun _ => h.posts_step_of_outside, h.outcome, ?_⟩
  · -- a longer history only adds operations behind
    intro j later hraised
    obtain ⟨hbefore, hlt⟩ := (h.raised j).mp hraised
    exact ((remembers_after roles (history ++ later)).raised j).mpr ⟨hbefore.append later, hlt⟩
  · intro i j
    rw [mem_waitSet, h.roles]
  · intro i outcome
    obtain ⟨hanswer, hrefused⟩ := settle_cases barrier i outcome
    refine ⟨?_, hrefused⟩
    rw [hanswer, h.roles]
    by_cases hlt : i < roles.length
    · rw [if_pos hlt, if_pos hlt, h.outcome i hlt]
    · rw [if_neg hlt, if_neg hlt]

end PubSubTrials.Barrier
