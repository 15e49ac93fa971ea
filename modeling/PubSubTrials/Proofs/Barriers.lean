import PubSubTrials.Barrier

/-!
# What the operations of a barrier change

Each operation on behalf of entity `i` is described by what can be seen afterwards: the roles of
the posts, the signals, the outcomes written, and whom the guards answer for. `Touched i` collects
what all of them leave alone, and is all that another entity has to know about them.
-/

namespace PubSubTrials.Barrier

variable {barrier : Barrier} {i j : Nat}

/-- The roles of the entities. -/
def roles (barrier : Barrier) : List Role :=
  barrier.posts.map Post.role

@[simp] theorem length_roles (barrier : Barrier) : barrier.roles.length = barrier.posts.length :=
  List.length_map _

@[simp] theorem roles_ofRoles (roles : List Role) : (ofRoles roles).roles = roles := by
  simp [Barrier.roles, ofRoles, Function.comp_def]

theorem isRaised?_ofRoles (roles : List Role) (i : Nat) :
    (ofRoles roles).isRaised? i = roles[i]?.map (fun _ => false) := by
  simp [isRaised?, ofRoles, Function.comp_def]

theorem outcomeOf?_ofRoles (roles : List Role) (i : Nat) : (ofRoles roles).outcomeOf? i = none := by
  rw [outcomeOf?, ofRoles, List.getElem?_map]
  cases roles[i]? <;> rfl

/-- An entity waits for exactly the entities of the other role. -/
theorem mem_waitSet :
    j ∈ barrier.waitSet i ↔
      ∃ own other, barrier.roles[i]? = some own ∧ barrier.roles[j]? = some other ∧ other ≠ own := by
  have hroles : ∀ k, barrier.roles[k]? = barrier.posts[k]?.map Post.role := fun k =>
    List.getElem?_map ..
  rw [waitSet, hroles, hroles]
  cases hi : barrier.posts[i]? with
  | none => simp
  | some own =>
    cases hj : barrier.posts[j]? with
    | none => simp [hj]
    | some other =>
      obtain ⟨hlt, hother⟩ := List.getElem?_eq_some_iff.mp hj
      simp [hother, hlt]

/-- The wait sets depend on the roles alone. -/
theorem waitSet_congr {barrier' : Barrier} (h : barrier'.roles = barrier.roles) :
    j ∈ barrier'.waitSet i ↔ j ∈ barrier.waitSet i := by
  rw [mem_waitSet, mem_waitSet, h]

/-- An entity has waited to the end when the signals of all its peers are raised. -/
theorem peersRaised_iff :
    barrier.peersRaised i = true ↔ ∀ j ∈ barrier.waitSet i, barrier.isRaised? j = some true := by
  simp [peersRaised]

/-- Nobody waits for more entities than there are. -/
theorem length_waitSet_le : (barrier.waitSet i).length ≤ barrier.roles.length := by
  rw [length_roles, waitSet]
  cases barrier.posts[i]? with
  | none => exact Nat.zero_le _
  | some own =>
    have hfilter := List.length_filter_le (fun j =>
      (barrier.posts[j]?.map Post.role).any (· != own.role)) (List.range barrier.posts.length)
    rwa [List.length_range] at hfilter

/-! ## Raising a signal -/

theorem posts_raise (k : Nat) :
    (barrier.raise i).posts[k]? =
      barrier.posts[k]?.map (fun post => if i = k then { post with raised := true } else post) := by
  rw [raise, List.getElem?_modify]
  split <;> simp_all

@[simp] theorem roles_raise : (barrier.raise i).roles = barrier.roles := by
  refine List.ext_getElem? fun k => ?_
  rw [roles, roles, List.getElem?_map, List.getElem?_map, posts_raise, Option.map_map]
  congr 1
  funext post
  simp only [Function.comp_apply]
  split <;> rfl

@[simp] theorem guards_raise : (barrier.raise i).guards = barrier.guards := rfl

/-- A raised signal stays raised, and only one is raised. -/
theorem isRaised?_raise (k : Nat) :
    (barrier.raise i).isRaised? k =
      if i = k then barrier.posts[k]?.map (fun _ => true) else barrier.isRaised? k := by
  rw [isRaised?, posts_raise, Option.map_map]
  split
  · rfl
  · rw [isRaised?]
    rfl

@[simp] theorem outcomeOf?_raise (k : Nat) :
    (barrier.raise i).outcomeOf? k = barrier.outcomeOf? k := by
  rw [outcomeOf?, outcomeOf?, posts_raise]
  cases barrier.posts[k]? with
  | none => rfl
  | some post =>
    simp only [Option.map_some, Option.bind_some]
    split <;> rfl

/-! ## Writing an outcome -/

/-- Writing an outcome changes one post, and leaves an outcome that stands there already. -/
theorem posts_settle (outcome : Outcome) (k : Nat) :
    (barrier.settle i outcome).2.posts[k]? =
      barrier.posts[k]?.map (fun post =>
        if i = k then { post with outcome := some (post.outcome.getD outcome) } else post) := by
  rw [settle]
  cases hpost : barrier.posts[i]? with
  | none =>
    by_cases hik : i = k
    · subst hik
      simp [hpost]
    · simp [hik]
  | some post =>
    obtain ⟨hlt, hget⟩ := List.getElem?_eq_some_iff.mp hpost
    -- a post that has an outcome is left as it is
    obtain ⟨role, raised, _ | written⟩ := post
    · by_cases hik : i = k
      · subst hik
        simp [hget, hlt]
      · simp [hik]
    · by_cases hik : i = k
      · subst hik
        simp [hpost]
      · simp [hik]

@[simp] theorem roles_settle (outcome : Outcome) :
    (barrier.settle i outcome).2.roles = barrier.roles := by
  refine List.ext_getElem? fun k => ?_
  rw [roles, roles, List.getElem?_map, List.getElem?_map, posts_settle, Option.map_map]
  congr 1
  funext post
  simp only [Function.comp_apply]
  split <;> rfl

@[simp] theorem guards_settle (outcome : Outcome) :
    (barrier.settle i outcome).2.guards = barrier.guards := by
  rw [settle]
  split
  · rfl
  · split <;> rfl

@[simp] theorem isRaised?_settle (outcome : Outcome) (k : Nat) :
    (barrier.settle i outcome).2.isRaised? k = barrier.isRaised? k := by
  rw [isRaised?, isRaised?, posts_settle, Option.map_map]
  congr 1
  funext post
  simp only [Function.comp_apply]
  split <;> rfl

/-- The first outcome written for an entity is the one that counts. -/
theorem outcomeOf?_settle (outcome : Outcome) (k : Nat) :
    (barrier.settle i outcome).2.outcomeOf? k =
      if i = k then barrier.posts[k]?.map (fun post => post.outcome.getD outcome)
      else barrier.outcomeOf? k := by
  rw [outcomeOf?, posts_settle]
  cases hpost : barrier.posts[k]? with
  | none => simp [outcomeOf?, hpost]
  | some post =>
    simp only [Option.map_some, Option.bind_some, outcomeOf?, hpost]
    split <;> rfl

/-! ## Guards -/

@[simp] theorem posts_guardFor : (barrier.guardFor i).2.posts = barrier.posts := rfl

/-- A guard is numbered after those handed out before. -/
theorem guards_guardFor :
    (barrier.guardFor i).2.guards[(barrier.guardFor i).1]? = some (some i) := by
  simp [guardFor]

/-- Guards handed out before stay in use. -/
theorem guards_guardFor_of_some {guard : Nat} (h : barrier.guards[guard]? = some (some j)) :
    (barrier.guardFor i).2.guards[guard]? = some (some j) := by
  have hlt : guard < barrier.guards.length := (List.getElem?_eq_some_iff.mp h).1
  simp only [guardFor]
  rwa [List.getElem?_append_left hlt]

/-- A guard in use raises the signal that it answers for, and is used up. -/
theorem release_of_some {guard : Nat} (h : barrier.guards[guard]? = some (some i)) :
    (barrier.release guard).2 =
      { barrier.raise i with guards := barrier.guards.set guard none } := by
  rw [release, h]

/-! ## What the others see -/

/-- A barrier after something was done for entity `i`: nothing of the other entities has changed,
and no signal has fallen. -/
structure Touched (i : Nat) (barrier barrier' : Barrier) : Prop where
  roles : barrier'.roles = barrier.roles
  raised : ∀ k, barrier.isRaised? k = some true → barrier'.isRaised? k = some true
  others : ∀ k, k ≠ i → barrier'.isRaised? k = barrier.isRaised? k
  outcomes : ∀ k, k ≠ i → barrier'.outcomeOf? k = barrier.outcomeOf? k
  guards : ∀ k guard : Nat, k ≠ i → barrier.guards[guard]? = some (some k) →
    barrier'.guards[guard]? = some (some k)

theorem Touched.refl (i : Nat) (barrier : Barrier) : Touched i barrier barrier :=
  ⟨rfl, fun _ h => h, fun _ _ => rfl, fun _ _ => rfl, fun _ _ _ h => h⟩

/-- What is done for one entity in two steps touches nobody else either. -/
theorem Touched.trans {barrier' barrier'' : Barrier} (h : Touched i barrier barrier')
    (h' : Touched i barrier' barrier'') : Touched i barrier barrier'' where
  roles := h'.roles.trans h.roles
  raised k hk := h'.raised k (h.raised k hk)
  others k hk := (h'.others k hk).trans (h.others k hk)
  outcomes k hk := (h'.outcomes k hk).trans (h.outcomes k hk)
  guards k guard hk hg := h'.guards k guard hk (h.guards k guard hk hg)

/-- No signal falls that an entity has waited for. -/
theorem Touched.peersRaised {barrier' : Barrier} (h : Touched i barrier barrier') {k : Nat}
    (hk : barrier.peersRaised k = true) : barrier'.peersRaised k = true := by
  rw [peersRaised_iff] at hk ⊢
  exact fun j hj => h.raised j (hk j ((waitSet_congr h.roles).mp hj))

/-- Writing an outcome touches the entity it is written for. -/
theorem touched_settle (outcome : Outcome) : Touched i barrier (barrier.settle i outcome).2 where
  roles := roles_settle outcome
  raised k h := by rwa [isRaised?_settle]
  others k _ := isRaised?_settle outcome k
  outcomes k hk := by rw [outcomeOf?_settle, if_neg fun h => hk h.symm]
  guards k guard _ h := by rwa [guards_settle]

theorem touched_guardFor : Touched i barrier (barrier.guardFor i).2 where
  roles := rfl
  raised _ h := h
  others _ _ := rfl
  outcomes _ _ := rfl
  guards _ _ _ h := guards_guardFor_of_some h

/-- Letting go of a guard touches the entity that it answers for, whoever holds it. -/
theorem touched_release {guard : Nat} (h : barrier.guards[guard]? = some (some i)) :
    Touched i barrier (barrier.release guard).2 := by
  rw [release_of_some h]
  have hraised : ∀ k, ({ barrier.raise i with guards := barrier.guards.set guard none } :
      Barrier).isRaised? k = (barrier.raise i).isRaised? k := fun _ => rfl
  refine ⟨roles_raise, fun k hk => ?_, fun k hk => ?_, fun k _ => outcomeOf?_raise k, ?_⟩
  · rw [hraised, isRaised?_raise]
    split
    · obtain ⟨post, hpost, -⟩ := Option.map_eq_some_iff.mp hk
      rw [hpost, Option.map_some]
    · exact hk
  · rw [hraised, isRaised?_raise, if_neg fun h => hk h.symm]
  · intro k other hk hother
    -- the guard that is used up answers for `i`, so it is not one of another entity
    have hne : guard ≠ other := by
      rintro rfl
      rw [h] at hother
      exact hk (Option.some.inj (Option.some.inj hother)).symm
    rw [List.getElem?_set_ne hne]
    exact hother

theorem lt_of_isRaised? {raised : Bool} (h : barrier.isRaised? i = some raised) :
    i < barrier.roles.length := by
  obtain ⟨post, hpost, -⟩ := Option.map_eq_some_iff.mp h
  rw [length_roles]
  exact (List.getElem?_eq_some_iff.mp hpost).1

/-- Once the guard of an entity is released its signal is raised. -/
theorem isRaised?_release {guard : Nat} (hlt : i < barrier.roles.length)
    (h : barrier.guards[guard]? = some (some i)) :
    (barrier.release guard).2.isRaised? i = some true := by
  rw [length_roles] at hlt
  have hraise : (barrier.raise i).isRaised? i = some true := by
    rw [isRaised?_raise, if_pos rfl, List.getElem?_eq_getElem hlt, Option.map_some]
  rw [release_of_some h]
  exact hraise

/-- Once an outcome is written for an entity it has one. -/
theorem isSome_outcomeOf?_settle (hlt : i < barrier.roles.length) (outcome : Outcome) :
    ((barrier.settle i outcome).2.outcomeOf? i).isSome = true := by
  rw [length_roles] at hlt
  rw [outcomeOf?_settle, if_pos rfl, List.getElem?_eq_getElem hlt, Option.map_some]
  rfl

/-- The outcome written for an entity that had none is its outcome. -/
theorem outcomeOf?_settle_of_none (hlt : i < barrier.roles.length)
    (h : barrier.outcomeOf? i = none) (outcome : Outcome) :
    (barrier.settle i outcome).2.outcomeOf? i = some outcome := by
  rw [length_roles] at hlt
  rw [outcomeOf?, List.getElem?_eq_getElem hlt, Option.bind_some] at h
  rw [outcomeOf?_settle, if_pos rfl, List.getElem?_eq_getElem hlt, Option.map_some, h]
  rfl

/-- Releasing a guard does not touch outcomes. -/
theorem outcomeOf?_release {guard : Nat} (h : barrier.guards[guard]? = some (some i)) (k : Nat) :
    (barrier.release guard).2.outcomeOf? k = barrier.outcomeOf? k := by
  rw [release_of_some h]
  exact outcomeOf?_raise k

end PubSubTrials.Barrier
