import PubSubTrials.Case

/-!
# The order in which entities are started

Subscribers are started before publishers, so that they listen when the first sample is sent; the
entities of one role are started in the order of their declaration.
-/

namespace PubSubTrials

variable {role : Role} {roles : List Role} {i : Nat}

/-- The entities of a role, by their position among all entities. -/
def indicesOf (role : Role) (roles : List Role) : List Nat :=
  (List.range roles.length).filter (fun i => roles[i]? == some role)

/-- All entities, by their position, in the order in which they are started. -/
def startOrder (roles : List Role) : List Nat :=
  indicesOf .subscriber roles ++ indicesOf .publisher roles

theorem mem_indicesOf : i ∈ indicesOf role roles ↔ roles[i]? = some role := by
  rw [indicesOf, List.mem_filter, List.mem_range, beq_iff_eq]
  refine ⟨fun h => h.2, fun h => ⟨?_, h⟩⟩
  exact (List.getElem?_eq_some_iff.mp h).1

theorem nodup_indicesOf : (indicesOf role roles).Nodup :=
  List.nodup_range.filter _

/-- Every entity is started. -/
theorem mem_startOrder : i ∈ startOrder roles ↔ i < roles.length := by
  rw [startOrder, List.mem_append, mem_indicesOf, mem_indicesOf]
  constructor
  · rintro (h | h) <;> exact (List.getElem?_eq_some_iff.mp h).1
  · intro h
    rw [List.getElem?_eq_getElem h]
    cases roles[i] with
    | publisher => exact .inr rfl
    | subscriber => exact .inl rfl

/-- No entity is started twice. -/
theorem nodup_startOrder : (startOrder roles).Nodup := by
  refine List.nodup_append.mpr ⟨nodup_indicesOf, nodup_indicesOf, fun i hi j hj hij => ?_⟩
  rw [mem_indicesOf] at hi hj
  rw [← hij, hi] at hj
  exact absurd (Option.some.inj hj) (by decide)

/-- The order of the launches goes over every place once. -/
theorem perm_startOrder (roles : List Role) :
    (startOrder roles).Perm (List.range roles.length) := by
  rw [List.perm_ext_iff_of_nodup nodup_startOrder List.nodup_range]
  intro i
  rw [mem_startOrder, List.mem_range]

theorem length_startOrder (roles : List Role) : (startOrder roles).length = roles.length := by
  rw [(perm_startOrder roles).length_eq, List.length_range]

/-- One entity more in front moves the places by one. -/
theorem indicesOf_cons (role first : Role) (roles : List Role) :
    indicesOf role (first :: roles) =
      (if first = role then [0] else []) ++ (indicesOf role roles).map (· + 1) := by
  rw [indicesOf, List.length_cons, List.range_succ_eq_map, List.filter_cons, List.filter_map]
  have htail : (fun i => (first :: roles)[i]? == some role) ∘ Nat.succ =
      fun i => roles[i]? == some role := by
    funext i
    rw [Function.comp_apply, List.getElem?_cons_succ]
  rw [htail, indicesOf]
  by_cases h : first = role <;> simp [h]

/-- What stands at the positions of a role, among things each of which has a role. -/
theorem filterMap_indicesOf {α : Type} (f : α → Role) (role : Role) (xs : List α) :
    (indicesOf role (xs.map f)).filterMap (fun i => xs[i]?) =
      xs.filter (fun x => f x == role) := by
  induction xs with
  | nil => rfl
  | cons x xs ih =>
    rw [List.map_cons, indicesOf_cons, List.filterMap_append, List.filterMap_map,
      List.filter_cons]
    have htail : (fun i => (x :: xs)[i]?) ∘ (· + 1) = fun i => xs[i]? := by
      funext i
      rw [Function.comp_apply, List.getElem?_cons_succ]
    rw [htail, ih]
    by_cases h : f x = role <;> simp [h]

end PubSubTrials
