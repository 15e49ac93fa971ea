import Mathlib.Data.List.Forall2
import PubSubTrials.Proofs.Catalogues

/-!
# What is selected

A selection names suites and cases of a catalogue. The suites that it names are those to look
through, or all suites if it names none (`Catalogue.IsEligible`); each case that it names is the
first one of this name in them (`IsFirstNamed`). `Catalogue.select_spec` says when a selection is
granted, what is selected then, and which name is to blame if it is refused.

Cases that are found stay the first ones of their names when suites are added at the end
(`IsFirstNamed.append`), so a selection by cases alone does not change with further suite files.
-/

namespace PubSubTrials

/-! ## Traversals that may fail -/

/-- The first of several elements that does not have a property. -/
def IsFirstWithout {α : Type} (p : α → Prop) (xs : List α) (x : α) : Prop :=
  ∃ front rest, xs = front ++ x :: rest ∧ (∀ y ∈ front, p y) ∧ ¬ p x

section Traversals

variable {ε α β : Type} {f : α → Except ε β}

/-- A traversal succeeds with what it answers for each element. -/
theorem mapM_eq_ok_iff {xs : List α} {ys : List β} :
    xs.mapM f = .ok ys ↔ List.Forall₂ (fun x y => f x = .ok y) xs ys := by
  induction xs generalizing ys with
  | nil =>
    rw [List.mapM_nil, List.forall₂_nil_left_iff]
    exact ⟨fun h => (Except.ok.inj h).symm, fun h => congrArg Except.ok h.symm⟩
  | cons x xs ih =>
    rw [List.mapM_cons, List.forall₂_cons_left_iff]
    cases hfirst : f x with
    | error error =>
      -- one element without an answer leaves the traversal without one
      refine iff_of_false (by intro h; cases h) ?_
      rintro ⟨y, ys, hy, -⟩
      cases hy
    | ok first =>
      cases hrest : xs.mapM f with
      | error error =>
        refine iff_of_false (by intro h; cases h) ?_
        rintro ⟨y, others, -, hothers, -⟩
        rw [ih.mpr hothers] at hrest
        cases hrest
      | ok others =>
        constructor
        · intro h
          exact ⟨first, others, rfl, ih.mp hrest, (Except.ok.inj h).symm⟩
        · rintro ⟨y, others', hy, hothers, rfl⟩
          obtain rfl := Except.ok.inj hy
          obtain rfl := Except.ok.inj (hrest.symm.trans (ih.mpr hothers))
          rfl

/-- A traversal fails as it does at the first element at which it fails. -/
theorem exists_of_mapM_eq_error {xs : List α} {error : ε} (h : xs.mapM f = .error error) :
    ∃ x, IsFirstWithout (fun x => ∃ y, f x = .ok y) xs x ∧ f x = .error error := by
  induction xs with
  | nil => cases h
  | cons x xs ih =>
    rw [List.mapM_cons] at h
    cases hfirst : f x with
    | error other =>
      rw [hfirst] at h
      obtain rfl := Except.error.inj h
      -- the elements behind it are not looked at
      have hfails : ¬ ∃ y, f x = .ok y := by
        rintro ⟨y, hy⟩
        rw [hfirst] at hy
        cases hy
      exact ⟨x, ⟨[], xs, rfl, List.forall_mem_nil _, hfails⟩, hfirst⟩
    | ok first =>
      cases hrest : xs.mapM f with
      | ok others =>
        rw [hfirst, hrest] at h
        cases h
      | error other =>
        rw [hfirst, hrest] at h
        obtain rfl := Except.error.inj h
        obtain ⟨z, ⟨front, rest, rfl, hfront, hz⟩, hfails⟩ := ih hrest
        exact ⟨z, ⟨x :: front, rest, rfl, List.forall_mem_cons.mpr ⟨⟨first, hfirst⟩, hfront⟩, hz⟩,
          hfails⟩

/-- A traversal succeeds when every element has an answer. -/
theorem exists_mapM_eq_ok_iff {xs : List α} :
    (∃ ys, xs.mapM f = .ok ys) ↔ ∀ x ∈ xs, ∃ y, f x = .ok y := by
  cases hall : xs.mapM f with
  | error error =>
    obtain ⟨x, ⟨front, rest, rfl, -, hfails⟩, -⟩ := exists_of_mapM_eq_error hall
    refine iff_of_false (by rintro ⟨ys, hys⟩; cases hys) fun hevery => ?_
    exact hfails (hevery x (List.mem_append_right _ List.mem_cons_self))
  | ok ys =>
    refine iff_of_true ⟨ys, rfl⟩ ?_
    have hpairs := mapM_eq_ok_iff.mp hall
    clear hall
    induction hpairs with
    | nil => exact List.forall_mem_nil _
    | cons hpair _ ih => exact List.forall_mem_cons.mpr ⟨⟨_, hpair⟩, ih⟩

theorem IsFirstWithout.congr {p q : α → Prop} {xs : List α} {x : α} (h : IsFirstWithout p xs x)
    (hsame : ∀ y, p y ↔ q y) : IsFirstWithout q xs x := by
  obtain ⟨front, rest, heq, hfront, hx⟩ := h
  exact ⟨front, rest, heq, fun y hy => (hsame y).mp (hfront y hy), (hsame x).not.mp hx⟩

end Traversals

/-! ## The first case of a name -/

/-- A case of this name is in one of several suites. -/
def HasCase (suites : List Suite) (name : String) : Prop :=
  ∃ suite ∈ suites, ∃ case ∈ suite.cases, case.name = name

/-- A case has this name, and neither an earlier suite nor an earlier case of its own suite has
it. -/
def IsFirstNamed (suites : List Suite) (name : String) (case : Case) : Prop :=
  ∃ earlier suite later, suites = earlier ++ suite :: later ∧ ¬ HasCase earlier name ∧
    ∃ before after, suite.cases = before ++ case :: after ∧ (∀ other ∈ before, other.name ≠ name) ∧
      case.name = name

theorem IsFirstNamed.append {suites : List Suite} {name : String} {case : Case}
    (h : IsFirstNamed suites name case) (added : List Suite) :
    IsFirstNamed (suites ++ added) name case := by
  obtain ⟨earlier, suite, later, rfl, hearlier, hcase⟩ := h
  refine ⟨earlier, suite, later ++ added, ?_, hearlier, hcase⟩
  rw [List.append_assoc, List.cons_append]

namespace Suite

theorem case?_eq_none_iff (suite : Suite) (name : String) :
    suite.case? name = none ↔ ∀ case ∈ suite.cases, case.name ≠ name := by
  unfold case?
  rw [List.find?_eq_none]
  simp only [decide_eq_true_eq]

theorem case?_eq_some_iff {suite : Suite} {name : String} {case : Case} :
    suite.case? name = some case ↔
      ∃ before after, suite.cases = before ++ case :: after ∧
        (∀ other ∈ before, other.name ≠ name) ∧ case.name = name := by
  unfold case?
  rw [List.find?_eq_some_iff_append]
  simp only [decide_eq_true_eq, Bool.not_eq_true', decide_eq_false_iff_not]
  constructor
  · rintro ⟨hname, before, after, heq, hbefore⟩
    exact ⟨before, after, heq, hbefore, hname⟩
  · rintro ⟨before, after, heq, hbefore, hname⟩
    exact ⟨hname, before, after, heq, hbefore⟩

end Suite

namespace Catalogue

theorem findSome?_case?_eq_none_iff (suites : List Suite) (name : String) :
    suites.findSome? (fun suite => suite.case? name) = none ↔ ¬ HasCase suites name := by
  rw [List.findSome?_eq_none_iff]
  simp only [Suite.case?_eq_none_iff, HasCase, not_exists, not_and]

/-- The case selected is the first of its name among the suites. -/
theorem caseIn_eq_ok_iff {suites : List Suite} {name : String} {case : Case} :
    caseIn suites name = .ok case ↔ IsFirstNamed suites name case := by
  have hfind : caseIn suites name = .ok case ↔
      suites.findSome? (fun suite => suite.case? name) = some case := by
    unfold caseIn
    cases suites.findSome? (fun suite => suite.case? name) with
    | none => simp
    | some found => simp
  rw [hfind, List.findSome?_eq_some_iff]
  constructor
  · rintro ⟨earlier, suite, later, heq, hcase, hearlier⟩
    refine ⟨earlier, suite, later, heq, ?_, Suite.case?_eq_some_iff.mp hcase⟩
    rwa [← findSome?_case?_eq_none_iff, List.findSome?_eq_none_iff]
  · rintro ⟨earlier, suite, later, heq, hearlier, hcase⟩
    refine ⟨earlier, suite, later, heq, Suite.case?_eq_some_iff.mpr hcase, ?_⟩
    rwa [← findSome?_case?_eq_none_iff, List.findSome?_eq_none_iff] at hearlier

theorem caseIn_eq_error_iff {suites : List Suite} {name : String} {error : SuiteError} :
    caseIn suites name = .error error ↔ ¬ HasCase suites name ∧ error = .unknownCase name := by
  rw [← findSome?_case?_eq_none_iff]
  unfold caseIn
  cases suites.findSome? (fun suite => suite.case? name) with
  | none => simp [eq_comm]
  | some found => simp

theorem exists_caseIn_eq_ok_iff (suites : List Suite) (name : String) :
    (∃ case, caseIn suites name = .ok case) ↔ HasCase suites name := by
  by_cases hcase : HasCase suites name
  · refine iff_of_true ?_ hcase
    cases hfound : caseIn suites name with
    | ok case => exact ⟨case, rfl⟩
    | error error => exact absurd hcase (caseIn_eq_error_iff.mp hfound).1
  · refine iff_of_false ?_ hcase
    rintro ⟨case, hfound⟩
    rw [caseIn_eq_error_iff.mpr ⟨hcase, rfl⟩] at hfound
    cases hfound

/-! ## Eligible suites -/

/-- The suites to look through: those of the given names in their order, or all suites if no names
are given. -/
def IsEligible (catalogue : Catalogue) (names : List String) (suites : List Suite) : Prop :=
  if names = [] then suites = catalogue.suites
  else List.Forall₂ (fun name suite => suite ∈ catalogue.suites ∧ suite.name = name) names suites

variable {catalogue : Catalogue}

theorem get_eq_error_iff {name : String} {error : SuiteError} :
    catalogue.get name = .error error ↔ name ∉ catalogue.names ∧ error = .unknownSuite name := by
  have hnone : catalogue.suites.find? (fun suite => suite.name = name) = none ↔
      name ∉ catalogue.names := by
    simp [names]
  rw [← hnone]
  unfold get
  cases catalogue.suites.find? (fun suite => suite.name = name) with
  | none => simp [eq_comm]
  | some found => simp

theorem eq_of_name_eq (h : catalogue.names.Nodup) {first second : Suite}
    (hfirst : first ∈ catalogue.suites) (hsecond : second ∈ catalogue.suites)
    (hname : first.name = second.name) : first = second :=
  List.inj_on_of_nodup_map h hfirst hsecond hname

/-- A suite is got by its name, which no other suite has. -/
theorem get_eq_ok_iff (h : catalogue.names.Nodup) {name : String} {suite : Suite} :
    catalogue.get name = .ok suite ↔ suite ∈ catalogue.suites ∧ suite.name = name := by
  have hfound : ∀ found, catalogue.get name = .ok found →
      found ∈ catalogue.suites ∧ found.name = name := by
    intro found hget
    refine ⟨mem_of_get hget, ?_⟩
    unfold get at hget
    split at hget
    · rename_i other hfind
      obtain rfl := Except.ok.inj hget
      simpa using List.find?_some hfind
    · cases hget
  refine ⟨hfound suite, fun ⟨hmem, hname⟩ => ?_⟩
  cases hget : catalogue.get name with
  | error error =>
    exact absurd (hname ▸ List.mem_map_of_mem hmem) (get_eq_error_iff.mp hget).1
  | ok found =>
    obtain ⟨hfoundmem, hfoundname⟩ := hfound found hget
    rw [eq_of_name_eq h hfoundmem hmem (hfoundname.trans hname.symm)]

theorem exists_get_eq_ok_iff (name : String) :
    (∃ suite, catalogue.get name = .ok suite) ↔ name ∈ catalogue.names := by
  cases hget : catalogue.get name with
  | ok suite =>
    refine iff_of_true ⟨suite, rfl⟩ ?_
    by_contra hunknown
    rw [get_eq_error_iff.mpr ⟨hunknown, rfl⟩] at hget
    cases hget
  | error error =>
    refine iff_of_false ?_ (get_eq_error_iff.mp hget).1
    rintro ⟨suite, hsuite⟩
    cases hsuite

/-- The suites named are eligible in the order in which they are named, or all are when none is
named. -/
theorem eligible_eq_ok_iff (h : catalogue.names.Nodup) {names : List String}
    {suites : List Suite} :
    catalogue.eligible names = .ok suites ↔ catalogue.IsEligible names suites := by
  unfold eligible IsEligible
  by_cases hnames : names = []
  · rw [if_pos hnames, hnames, List.isEmpty_nil, if_pos rfl, Except.ok.injEq]
    exact eq_comm
  · rw [if_neg hnames, if_neg (by simpa using hnames), mapM_eq_ok_iff]
    simp only [get_eq_ok_iff h]

/-- The error is about the first name that the catalogue does not have. -/
theorem eligible_eq_error {names : List String} {error : SuiteError}
    (h : catalogue.eligible names = .error error) :
    ∃ name, IsFirstWithout (· ∈ catalogue.names) names name ∧ error = .unknownSuite name := by
  unfold eligible at h
  split at h
  · cases h
  · obtain ⟨name, hfirst, hget⟩ := exists_of_mapM_eq_error h
    exact ⟨name, hfirst.congr exists_get_eq_ok_iff, (get_eq_error_iff.mp hget).2⟩

/-- There are suites to look through just if all names are known. -/
theorem exists_eligible_eq_ok_iff (names : List String) :
    (∃ suites, catalogue.eligible names = .ok suites) ↔
      ∀ name ∈ names, name ∈ catalogue.names := by
  unfold eligible
  by_cases hnames : names = []
  · subst hnames
    rw [List.isEmpty_nil, if_pos rfl]
    exact iff_of_true ⟨_, rfl⟩ (List.forall_mem_nil _)
  · rw [if_neg (by simpa using hnames), exists_mapM_eq_ok_iff]
    simp only [exists_get_eq_ok_iff]

/-- A suite is looked through if it is in the catalogue, and if its name is given where there are
names. -/
theorem IsEligible.mem_iff (h : catalogue.names.Nodup) {names : List String} {suites : List Suite}
    (hsuites : catalogue.IsEligible names suites) (suite : Suite) :
    suite ∈ suites ↔ suite ∈ catalogue.suites ∧ (names = [] ∨ suite.name ∈ names) := by
  unfold IsEligible at hsuites
  by_cases hnames : names = []
  · rw [if_pos hnames] at hsuites
    rw [hsuites, and_iff_left (.inl hnames)]
  · rw [if_neg hnames] at hsuites
    rw [or_iff_right hnames]
    clear hnames
    induction hsuites with
    | nil => simp
    | @cons _ found _ suites hfound _ ih =>
      obtain ⟨hmem, rfl⟩ := hfound
      rw [List.mem_cons, List.mem_cons, ih]
      constructor
      · rintro (rfl | ⟨hsuite, hname⟩)
        · exact ⟨hmem, .inl rfl⟩
        · exact ⟨hsuite, .inr hname⟩
      · rintro ⟨hsuite, hname | hname⟩
        · exact .inl (eq_of_name_eq h hsuite hmem hname)
        · exact .inr ⟨hsuite, hname⟩

/-! ## Selections -/

/-- Among eligible suites all cases are selected, or those named. -/
theorem select_of_eligible {suites : List Suite} {selection : Selection}
    (h : catalogue.eligible selection.suites = .ok suites) :
    catalogue.select selection =
      if selection.cases = [] then .ok (suites.flatMap Suite.cases)
      else selection.cases.mapM (caseIn suites) := by
  unfold select
  rw [h]
  simp only [List.isEmpty_iff]

theorem exists_eligible_of_select {selection : Selection} {cases : List Case}
    (h : catalogue.select selection = .ok cases) :
    ∃ suites, catalogue.eligible selection.suites = .ok suites := by
  unfold select at h
  split at h
  · cases h
  · exact ⟨_, by assumption⟩

/-- A selection is granted if all suites are known and each case is found in one of them. -/
theorem exists_select_eq_ok_iff (h : catalogue.names.Nodup) (selection : Selection) :
    (∃ cases, catalogue.select selection = .ok cases) ↔
      (∀ name ∈ selection.suites, name ∈ catalogue.names) ∧
      ∀ name ∈ selection.cases, ∃ suite ∈ catalogue.suites,
        (selection.suites = [] ∨ suite.name ∈ selection.suites) ∧
        ∃ case ∈ suite.cases, case.name = name := by
  rw [← exists_eligible_eq_ok_iff]
  constructor
  · rintro ⟨cases, hselect⟩
    obtain ⟨suites, heligible⟩ := exists_eligible_of_select hselect
    refine ⟨⟨suites, heligible⟩, fun name hname => ?_⟩
    -- which suites are eligible decides where the names are looked for
    have hsuites := (eligible_eq_ok_iff h).mp heligible
    rw [select_of_eligible heligible, if_neg (List.ne_nil_of_mem hname)] at hselect
    obtain ⟨suite, hsuite, hcase⟩ := (exists_caseIn_eq_ok_iff suites name).mp
      (exists_mapM_eq_ok_iff.mp ⟨cases, hselect⟩ name hname)
    obtain ⟨hmem, hgiven⟩ := (hsuites.mem_iff h suite).mp hsuite
    exact ⟨suite, hmem, hgiven, hcase⟩
  · rintro ⟨⟨suites, heligible⟩, hcases⟩
    have hsuites := (eligible_eq_ok_iff h).mp heligible
    rw [select_of_eligible heligible]
    by_cases hnone : selection.cases = []
    · rw [if_pos hnone]
      exact ⟨_, rfl⟩
    · rw [if_neg hnone, exists_mapM_eq_ok_iff]
      intro name hname
      obtain ⟨suite, hmem, hgiven, hcase⟩ := hcases name hname
      rw [exists_caseIn_eq_ok_iff]
      exact ⟨suite, (hsuites.mem_iff h suite).mpr ⟨hmem, hgiven⟩, hcase⟩

/-- What a selection comes to. -/
theorem cases_of_select (h : catalogue.names.Nodup) {selection : Selection} {cases : List Case}
    (hselect : catalogue.select selection = .ok cases) :
    ∃ suites, catalogue.IsEligible selection.suites suites ∧
      if selection.cases = [] then cases = suites.flatMap Suite.cases
      else List.Forall₂ (IsFirstNamed suites) selection.cases cases := by
  obtain ⟨suites, heligible⟩ := exists_eligible_of_select hselect
  refine ⟨suites, (eligible_eq_ok_iff h).mp heligible, ?_⟩
  rw [select_of_eligible heligible] at hselect
  by_cases hnone : selection.cases = []
  · rw [if_pos hnone] at hselect ⊢
    exact (Except.ok.inj hselect).symm
  · rw [if_neg hnone] at hselect ⊢
    have hfound := mapM_eq_ok_iff.mp hselect
    simp only [caseIn_eq_ok_iff] at hfound
    exact hfound

/-- Which name a refused selection is refused for. -/
theorem error_of_select (h : catalogue.names.Nodup) {selection : Selection} {error : SuiteError}
    (hselect : catalogue.select selection = .error error) :
    (∃ name, IsFirstWithout (· ∈ catalogue.names) selection.suites name ∧
      error = .unknownSuite name) ∨
    ∃ suites name, catalogue.IsEligible selection.suites suites ∧
      IsFirstWithout (HasCase suites) selection.cases name ∧ error = .unknownCase name := by
  cases heligible : catalogue.eligible selection.suites with
  | error other =>
    unfold select at hselect
    rw [heligible] at hselect
    obtain rfl := Except.error.inj hselect
    exact .inl (eligible_eq_error heligible)
  | ok suites =>
    rw [select_of_eligible heligible] at hselect
    by_cases hnone : selection.cases = []
    · rw [if_pos hnone] at hselect
      cases hselect
    · rw [if_neg hnone] at hselect
      obtain ⟨name, hfirst, hcase⟩ := exists_of_mapM_eq_error hselect
      refine .inr ⟨suites, name, (eligible_eq_ok_iff h).mp heligible, ?_,
        (caseIn_eq_error_iff.mp hcase).2⟩
      exact hfirst.congr (exists_caseIn_eq_ok_iff suites)

/-- Suite files add suites at the end. -/
theorem exists_suites_of_addFiles {σ : Type} [FileStore σ] {store : σ} {files : List Path}
    {grown : Catalogue} (h : catalogue.addFiles store files = .ok grown) :
    ∃ added, grown.suites = catalogue.suites ++ added := by
  induction files generalizing catalogue with
  | nil =>
    obtain rfl := Except.ok.inj h
    exact ⟨[], (List.append_nil _).symm⟩
  | cons path rest ih =>
    unfold addFiles at h
    split at h
    · cases h
    · rename_i suite _
      split at h
      · cases h
      · rename_i larger hadd
        obtain ⟨-, -, rfl⟩ := add_eq_ok_iff.mp hadd
        obtain ⟨added, hadded⟩ := ih h
        refine ⟨suite :: added, ?_⟩
        rw [hadded, List.append_assoc, List.singleton_append]

/-- A selection by cases alone comes to the same with further suites at the end. -/
theorem select_append {selection : Selection} {cases : List Case} {grown : Catalogue}
    {added : List Suite} (hsuites : selection.suites = []) (hcases : selection.cases ≠ [])
    (hselect : catalogue.select selection = .ok cases)
    (hgrown : grown.suites = catalogue.suites ++ added) : grown.select selection = .ok cases := by
  have hall : ∀ other : Catalogue, other.eligible selection.suites = .ok other.suites := by
    intro other
    unfold eligible
    rw [hsuites, List.isEmpty_nil, if_pos rfl]
  rw [select_of_eligible (hall catalogue), if_neg hcases, mapM_eq_ok_iff] at hselect
  rw [select_of_eligible (hall grown), if_neg hcases, mapM_eq_ok_iff, hgrown]
  refine hselect.imp fun name case hcase => ?_
  exact caseIn_eq_ok_iff.mpr ((caseIn_eq_ok_iff.mp hcase).append added)

/-- A selection from a catalogue whose suites have different names is granted just if all suites
are known and each case is found in a suite that is looked through. Without cases it comes to all
cases of these suites, and otherwise to the first case of each name. It is refused for the first
suite that is not known or, if all are, for the first case that is not found. A selection by cases
alone comes to the same if suite files are added. -/
theorem select_spec (h : catalogue.names.Nodup) (selection : Selection) :
    ((∃ cases, catalogue.select selection = .ok cases) ↔
      (∀ name ∈ selection.suites, name ∈ catalogue.names) ∧
      ∀ name ∈ selection.cases, ∃ suite ∈ catalogue.suites,
        (selection.suites = [] ∨ suite.name ∈ selection.suites) ∧
        ∃ case ∈ suite.cases, case.name = name) ∧
    (∀ cases, catalogue.select selection = .ok cases →
      ∃ suites, catalogue.IsEligible selection.suites suites ∧
        if selection.cases = [] then cases = suites.flatMap Suite.cases
        else List.Forall₂ (IsFirstNamed suites) selection.cases cases) ∧
    (∀ error, catalogue.select selection = .error error →
      (∃ name, IsFirstWithout (· ∈ catalogue.names) selection.suites name ∧
        error = .unknownSuite name) ∨
      ∃ suites name, catalogue.IsEligible selection.suites suites ∧
        IsFirstWithout (HasCase suites) selection.cases name ∧ error = .unknownCase name) ∧
    ∀ cases, selection.suites = [] → selection.cases ≠ [] →
      catalogue.select selection = .ok cases →
        ∀ (σ : Type) [FileStore σ] (store : σ) (files : List Path) (grown : Catalogue),
          catalogue.addFiles store files = .ok grown → grown.select selection = .ok cases := by
  refine ⟨exists_select_eq_ok_iff h selection, fun cases => cases_of_select h,
    fun error => error_of_select h, ?_⟩
  intro cases hsuites hcases hselect σ _ store files grown hadd
  -- files only add suites behind, and the first case of a name stays the first
  obtain ⟨added, hgrown⟩ := exists_suites_of_addFiles hadd
  exact select_append hsuites hcases hselect hgrown

/-- A case of a publisher alone. -/
def soloCase (name : String) (parameters : String) : Case :=
  ⟨name, none, [⟨.publisher, parameters, .ok⟩], .noCheck, none⟩

/-- Two suites with a case of the same name. -/
def overlapping : Catalogue :=
  ⟨[⟨"basic", none, [soloCase "Match" "-t Square"]⟩,
    ⟨"extra", none, [soloCase "Order" "-t Square", soloCase "Match" "-t Circle"]⟩]⟩

/-- The suite that is named first gives the case that both suites have. -/
theorem select_spec_overlapping :
    overlapping.names.Nodup ∧
    overlapping.select ⟨["extra", "basic"], ["Match", "Order", "Match"], []⟩ =
      .ok [soloCase "Match" "-t Circle", soloCase "Order" "-t Square",
        soloCase "Match" "-t Circle"] ∧
    ∃ suites, overlapping.IsEligible ["extra", "basic"] suites ∧
      List.Forall₂ (IsFirstNamed suites) ["Match", "Order", "Match"]
        [soloCase "Match" "-t Circle", soloCase "Order" "-t Square",
          soloCase "Match" "-t Circle"] := by
  have hnodup : overlapping.names.Nodup := by decide
  have hselect : overlapping.select ⟨["extra", "basic"], ["Match", "Order", "Match"], []⟩ =
      .ok [soloCase "Match" "-t Circle", soloCase "Order" "-t Square",
        soloCase "Match" "-t Circle"] := rfl
  exact ⟨hnodup, hselect, (select_spec hnodup _).2.1 _ hselect⟩

end Catalogue

end PubSubTrials
