import PubSubTrials.Files.Path

/-!
# Components of paths

A path below another one has the components of that one and then its own (`components_join`), if it
is one step that is a name. So two such paths are the same just if their names are equal.
-/

namespace PubSubTrials.Path

/-- Two paths are the same when they lead through the same components. -/
theorem same_iff {a b : Path} : a.same b = true ↔ a.components = b.components :=
  beq_iff_eq

theorem same_self (path : Path) : path.same path = true :=
  same_iff.mpr rfl

/-- Texts before and after a slash are cut apart. -/
theorem cutFrom_slash (word front back : List Char) :
    cutFrom word (front ++ '/' :: back) = cutFrom word front ++ cutFrom [] back := by
  induction front generalizing word with
  | nil => rfl
  | cons c front ih =>
    by_cases hc : c = '/'
    · rw [List.cons_append, cutFrom, if_pos hc, cutFrom, if_pos hc, ih, List.cons_append]
    · rw [List.cons_append, cutFrom, if_neg hc, cutFrom, if_neg hc, ih]

/-- A text without a slash is one piece. -/
theorem cutFrom_of_not_mem {text : List Char} (h : '/' ∉ text) (word : List Char) :
    cutFrom word text = [String.ofList (word.reverse ++ text)] := by
  induction text generalizing word with
  | nil => rw [cutFrom, List.append_nil]
  | cons c text ih =>
    have hc : c ≠ '/' := fun heq => h (heq ▸ List.mem_cons_self)
    rw [cutFrom, if_neg hc, ih (fun hmem => h (List.mem_cons_of_mem _ hmem)), List.reverse_cons,
      List.append_assoc, List.singleton_append]

/-- Whether a path is one step that is a name. -/
structure IsName (path : Path) : Prop where
  noSlash : '/' ∉ path.text.toList
  ne_empty : path.text ≠ ""
  ne_current : path.text ≠ "."
  ne_parent : path.text ≠ ".."

variable {base name : Path}

theorem IsName.steps_eq (h : name.IsName) : name.steps = [name.text] := by
  rw [steps, cutFrom_of_not_mem h.noSlash, List.reverse_nil, List.nil_append,
    String.ofList_toList, List.filter_cons_of_pos (by simp [h.ne_empty]), List.filter_nil]

theorem IsName.isAbsolute_eq (h : name.IsName) : name.isAbsolute = false := by
  rw [isAbsolute, decide_eq_false_iff_not]
  exact fun hhead => h.noSlash (List.mem_of_mem_head? hhead)

/-- What is joined to a path stands behind a slash, unless that path is empty. -/
theorem join_cases (base : Path) (h : name.isAbsolute = false) :
    (base.text = "" ∧ base.join name = name) ∨
      (∃ front, base.text.toList = front ++ ['/'] ∧
        (base.join name).text.toList = front ++ '/' :: name.text.toList) ∨
      (base.text.toList ≠ [] ∧
        (base.join name).text.toList = base.text.toList ++ '/' :: name.text.toList) := by
  rw [join, if_neg (by rw [h]; exact Bool.false_ne_true)]
  by_cases hempty : base.text = ""
  · exact .inl ⟨hempty, by rw [if_pos (.inl hempty), hempty, String.empty_append]⟩
  · have hlist : base.text.toList ≠ [] := fun hnil => hempty (String.toList_eq_nil_iff.mp hnil)
    by_cases hslash : base.endsInSlash = true
    · obtain ⟨front, hfront⟩ := List.getLast?_eq_some_iff.mp (of_decide_eq_true hslash)
      refine .inr (.inl ⟨front, hfront, ?_⟩)
      rw [if_pos (.inr hslash), String.toList_append, hfront, List.append_assoc,
        List.singleton_append]
    · refine .inr (.inr ⟨hlist, ?_⟩)
      rw [if_neg (fun hor => hor.elim hempty hslash), String.toList_append, String.toList_append,
        List.append_assoc]
      rfl

/-- What is joined to a path adds its steps to those of the path. -/
theorem steps_join (h : name.isAbsolute = false) :
    (base.join name).steps = base.steps ++ name.steps := by
  rcases join_cases base h with ⟨hempty, heq⟩ | ⟨front, hbase, heq⟩ | ⟨-, heq⟩
  · have hnone : base.steps = [] := by rw [steps, hempty]; rfl
    rw [heq, hnone, List.nil_append]
  · -- what stands behind the last slash of the base is empty, and so no step
    rw [steps, steps, steps, heq, hbase, cutFrom_slash, cutFrom_slash, List.filter_append,
      List.filter_append]
    simp [cutFrom]
  · rw [steps, steps, steps, heq, cutFrom_slash, List.filter_append]

/-- What is joined under a path is as absolute as that path. -/
theorem isAbsolute_join (h : name.isAbsolute = false) :
    (base.join name).isAbsolute = base.isAbsolute := by
  rcases join_cases base h with ⟨hempty, heq⟩ | ⟨front, hbase, heq⟩ | ⟨hne, heq⟩
  · rw [heq, h, isAbsolute, hempty]
    rfl
  · rw [isAbsolute, isAbsolute, heq, hbase]
    cases front <;> rfl
  · rw [isAbsolute, isAbsolute, heq]
    obtain ⟨c, rest, hcons⟩ := List.exists_cons_of_ne_nil hne
    rw [hcons]
    rfl

theorem inner_append (first second : List String) :
    inner (first ++ second) = inner first ++ inner second := by
  rw [inner, inner, inner, List.filter_append, List.map_append]

theorem IsName.inner_eq (h : name.IsName) : inner [name.text] = [.name name.text] := by
  rw [inner, List.filter_cons_of_pos (by simp [h.ne_current]), List.filter_nil, List.map_singleton,
    if_neg h.ne_parent]

/-- A name that is joined to a path is its last component. -/
theorem components_join (h : name.IsName) :
    (base.join name).components = base.components ++ [.name name.text] := by
  rw [components, components, isAbsolute_join h.isAbsolute_eq, steps_join h.isAbsolute_eq,
    h.steps_eq]
  by_cases habsolute : base.isAbsolute = true
  · rw [if_pos habsolute, if_pos habsolute, inner_append, h.inner_eq, List.cons_append]
  · rw [if_neg habsolute, if_neg habsolute]
    -- a dot counts only as the first step, so it matters whether the base has one
    cases base.steps with
    | nil =>
      rw [List.nil_append]
      split
      · next heq => exact absurd (List.cons.inj heq).1 h.ne_current
      · exact h.inner_eq
    | cons step rest =>
      by_cases hcurrent : step = "."
      · subst hcurrent
        show Component.current :: inner (rest ++ [name.text]) =
          (Component.current :: inner rest) ++ [.name name.text]
        rw [inner_append, h.inner_eq, List.cons_append]
      · rw [List.cons_append]
        split
        · next heq => exact absurd (List.cons.inj heq).1 hcurrent
        · split
          · next heq => exact absurd (List.cons.inj heq).1 hcurrent
          · rw [← List.cons_append, inner_append, h.inner_eq]

end PubSubTrials.Path
