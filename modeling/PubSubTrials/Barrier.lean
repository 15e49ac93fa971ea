import PubSubTrials.Case

/-!
# The completion barrier

Every entity of a case has a post at the barrier. It raises the signal of its post once it has
been observed to the end, and its application is only stopped after the signals of all posts of
the other role are raised, so nobody loses a partner that is still being observed. A guard is a
promise to raise a signal: it does so when it is finished, dropped or lost in a crash. A post
also keeps the outcome of its entity, which is written once.
-/

namespace PubSubTrials

/-- The place of one entity at the barrier. -/
structure Post where
  role : Role
  raised : Bool
  outcome : Option Outcome
  deriving DecidableEq, Repr

/-- The posts of a case, in the order of its entities, and the guards handed out so far: the
entity each one answers for, or none once it was used up. -/
structure Barrier where
  posts : List Post
  guards : List (Option Nat)
  deriving DecidableEq, Repr

namespace Barrier

/-- A barrier at which nobody has arrived. -/
def ofRoles (roles : List Role) : Barrier :=
  ⟨roles.map (fun role => ⟨role, false, none⟩), []⟩

/-- Whether an entity's signal is raised; none for an entity without a post. -/
def isRaised? (barrier : Barrier) (i : Nat) : Option Bool :=
  barrier.posts[i]?.map Post.raised

/-- The entities that entity `i` waits for: those of the other role. -/
def waitSet (barrier : Barrier) (i : Nat) : List Nat :=
  match barrier.posts[i]? with
  | none => []
  | some own =>
    (List.range barrier.posts.length).filter (fun j =>
      (barrier.posts[j]?.map Post.role).any (· != own.role))

/-- Whether every signal that entity `i` waits for is raised. -/
def peersRaised (barrier : Barrier) (i : Nat) : Bool :=
  (barrier.waitSet i).all (fun j => barrier.isRaised? j == some true)

/-- Raise the signal of entity `i`, if it has a post. -/
def raise (barrier : Barrier) (i : Nat) : Barrier :=
  { barrier with posts := barrier.posts.modify i (fun post => { post with raised := true }) }

/-- Hand out a guard for entity `i`; guards are numbered from zero. -/
def guardFor (barrier : Barrier) (i : Nat) : Nat × Barrier :=
  (barrier.guards.length, { barrier with guards := barrier.guards ++ [some i] })

/-- Use up a guard, which raises its signal; `false` if it was used up before. -/
def release (barrier : Barrier) (guard : Nat) : Bool × Barrier :=
  match barrier.guards[guard]? with
  | some (some i) => (true, { barrier.raise i with guards := barrier.guards.set guard none })
  | _ => (false, barrier)

/-- Write the outcome of entity `i`; `false`, changing nothing, if it was written before. -/
def settle (barrier : Barrier) (i : Nat) (outcome : Outcome) : Option Bool × Barrier :=
  match barrier.posts[i]? with
  | none => (none, barrier)
  | some post =>
    match post.outcome with
    | some _ => (some false, barrier)
    | none =>
      (some true,
        { barrier with posts := barrier.posts.set i { post with outcome := some outcome } })

/-- The outcome written for entity `i`, if any. -/
def outcomeOf? (barrier : Barrier) (i : Nat) : Option Outcome :=
  barrier.posts[i]?.bind Post.outcome

end Barrier

end PubSubTrials
