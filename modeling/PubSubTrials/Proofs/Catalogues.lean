import Mathlib.Data.List.Nodup
import PubSubTrials.Proofs.Launches
import PubSubTrials.Proofs.Series

/-!
# Sound catalogues

A suite is accepted if its cases can be run and their names differ (`Suite.validate_eq_ok_iff`).
A catalogue takes accepted suites only, whether they are offered one by one or come from files, so
its suites stay sound (`isSound_of_isReached`). What is selected from it can be run, and with time
to wait: a run or a matrix never ends because of an invalid case, and never asks a theatre for a
performance in no time (`upkeep`).
-/

namespace PubSubTrials

/-! ## Suites -/

namespace Suite

/-- Cases have no fault if each of them can be run, and their names are new and differ. -/
theorem faultFrom?_eq_none_iff (suite : String) (earlier : List String) (cases : List Case) :
    faultFrom? suite earlier cases = none ↔
      (∀ case ∈ cases, case.fault? = none) ∧ (∀ case ∈ cases, case.name ∉ earlier) ∧
        (cases.map Case.name).Nodup := by
  induction cases generalizing earlier with
  | nil => simp [faultFrom?]
  | cons case rest ih =>
    unfold faultFrom?
    cases hfault : case.fault? with
    | some fault => simp [hfault]
    | none =>
      by_cases htaken : case.name ∈ earlier
      · simp [htaken]
      · -- the rest must not use the name of this case either
        have hnames : (∀ other ∈ rest, other.name ∉ case.name :: earlier) ↔
            (∀ other ∈ rest, other.name ∉ earlier) ∧ case.name ∉ rest.map Case.name := by
          simp only [List.mem_cons, not_or, List.mem_map, not_exists, not_and]
          grind
        simp only [List.contains_iff_mem, htaken, if_false, ih, hnames, List.forall_mem_cons,
          hfault, List.map_cons, List.nodup_cons, not_false_eq_true]
        grind

theorem validate_eq_ok_iff_fault? (suite : Suite) :
    suite.validate = .ok () ↔ suite.fault? = none := by
  unfold validate
  cases suite.fault? with
  | none => simp
  | some fault => simp

/-- A suite is accepted if its cases can be run and their names differ. -/
theorem validate_eq_ok_iff (suite : Suite) :
    suite.validate = .ok () ↔
      (∀ case ∈ suite.cases, case.validate = .ok ()) ∧ (suite.cases.map Case.name).Nodup := by
  have hcases : (∀ case ∈ suite.cases, case.validate = .ok ()) ↔
      ∀ case ∈ suite.cases, case.fault? = none := by
    simp only [Case.validate_eq_ok_iff]
  rw [validate_eq_ok_iff_fault?, fault?, faultFrom?_eq_none_iff, hcases]
  simp

end Suite

/-! ## Catalogues -/

namespace Catalogue

/-- A catalogue whose suites can be told apart and are all accepted. -/
structure IsSound (catalogue : Catalogue) : Prop where
  names_nodup : catalogue.names.Nodup
  validate_eq_ok : ∀ suite ∈ catalogue.suites, suite.validate = .ok ()

/-- Offer a suite to a catalogue: its answer, and what it holds then. -/
def offer (catalogue : Catalogue) (suite : Suite) : Except SuiteError Unit × Catalogue :=
  match catalogue.add suite with
  | .error error => (.error error, catalogue)
  | .ok grown => (.ok (), grown)

/-- What a catalogue holds after suites were offered to it one by one. -/
def offerAll (catalogue : Catalogue) (suites : List Suite) : Catalogue :=
  suites.foldl (fun catalogue suite => (catalogue.offer suite).2) catalogue

/-- A suite is added at the end if it has a new name and is accepted. -/
theorem add_eq_ok_iff {catalogue grown : Catalogue} {suite : Suite} :
    catalogue.add suite = .ok grown ↔
      suite.name ∉ catalogue.names ∧ suite.validate = .ok () ∧
        grown = ⟨catalogue.suites ++ [suite]⟩ := by
  unfold add
  rw [Suite.validate_eq_ok_iff_fault?]
  by_cases hname : suite.name ∈ catalogue.names
  · simp [hname]
  · cases hfault : suite.fault? with
    | some fault => simp [hname]
    | none =>
      simp only [List.contains_iff_mem, hname, if_false, not_false_eq_true, true_and,
        Except.ok.injEq]
      exact eq_comm

theorem offer_of_add_ok {catalogue grown : Catalogue} {suite : Suite}
    (h : catalogue.add suite = .ok grown) : catalogue.offer suite = (.ok (), grown) := by
  simp only [offer, h]

theorem offer_of_add_error {catalogue : Catalogue} {suite : Suite} {error : SuiteError}
    (h : catalogue.add suite = .error error) :
    catalogue.offer suite = (.error error, catalogue) := by
  simp only [offer, h]

/-- A suite is taken if it has a new name and is accepted; one that is refused leaves no trace. -/
theorem offer_spec (catalogue : Catalogue) (suite : Suite) :
    ((catalogue.offer suite).1 = .ok () ↔
      suite.name ∉ catalogue.names ∧ suite.validate = .ok ()) ∧
    ((catalogue.offer suite).1 ≠ .ok () → (catalogue.offer suite).2 = catalogue) := by
  cases hadd : catalogue.add suite with
  | ok grown =>
    obtain ⟨hname, hvalid, -⟩ := add_eq_ok_iff.mp hadd
    rw [offer_of_add_ok hadd]
    exact ⟨iff_of_true rfl ⟨hname, hvalid⟩, fun h => absurd rfl h⟩
  | error error =>
    have hrefused : ¬ (suite.name ∉ catalogue.names ∧ suite.validate = .ok ()) := by
      intro ⟨hname, hvalid⟩
      rw [add_eq_ok_iff.mpr ⟨hname, hvalid, rfl⟩] at hadd
      cases hadd
    rw [offer_of_add_error hadd]
    exact ⟨iff_of_false (by intro h; cases h) hrefused, fun _ => rfl⟩

namespace IsSound

variable {catalogue : Catalogue}

theorem empty : Catalogue.empty.IsSound :=
  ⟨List.nodup_nil, by intro suite hsuite; cases hsuite⟩

/-- The suites that come with the program are valid and have different names. -/
theorem builtin : Catalogue.builtin.IsSound := by
  refine ⟨by decide, ?_⟩
  intro suite hsuite
  simp only [Catalogue.builtin, List.mem_cons, List.not_mem_nil, or_false] at hsuite
  rw [Suite.validate_eq_ok_iff_fault?]
  rcases hsuite with rfl | rfl
  · decide +kernel
  · decide +kernel

theorem add (h : catalogue.IsSound) {suite : Suite} {grown : Catalogue}
    (hadd : catalogue.add suite = .ok grown) : grown.IsSound := by
  obtain ⟨hname, hvalid, rfl⟩ := add_eq_ok_iff.mp hadd
  refine ⟨?_, ?_⟩
  · simp only [names, List.map_append, List.map_cons, List.map_nil]
    refine List.nodup_append.mpr ⟨h.names_nodup, List.nodup_singleton _, ?_⟩
    intro old hold new hnew heq
    obtain rfl := List.mem_singleton.mp hnew
    exact hname (heq ▸ hold)
  · intro other hother
    rcases List.mem_append.mp hother with hold | hnew
    · exact h.validate_eq_ok other hold
    · rw [List.mem_singleton.mp hnew]
      exact hvalid

theorem offer (h : catalogue.IsSound) (suite : Suite) : (catalogue.offer suite).2.IsSound := by
  cases hadd : catalogue.add suite with
  | error error =>
    rw [offer_of_add_error hadd]
    exact h
  | ok grown =>
    rw [offer_of_add_ok hadd]
    exact h.add hadd

theorem offerAll (h : catalogue.IsSound) (suites : List Suite) :
    (catalogue.offerAll suites).IsSound := by
  unfold Catalogue.offerAll
  induction suites generalizing catalogue with
  | nil => exact h
  | cons suite rest ih => exact ih (h.offer suite)

variable {σ : Type} [FileStore σ] {store : σ}

/-- A catalogue stays sound when suites are added from files. -/
theorem addFiles (h : catalogue.IsSound) {files : List Path} {grown : Catalogue}
    (hadd : catalogue.addFiles store files = .ok grown) : grown.IsSound := by
  induction files generalizing catalogue with
  | nil =>
    obtain rfl := Except.ok.inj hadd
    exact h
  | cons path rest ih =>
    unfold Catalogue.addFiles at hadd
    split at hadd
    · cases hadd
    · split at hadd
      · cases hadd
      · exact ih (h.add (by assumption)) hadd

/-- Every case of a sound catalogue can be run. -/
theorem case_validate (h : catalogue.IsSound) {suite : Suite} (hsuite : suite ∈ catalogue.suites)
    {case : Case} (hcase : case ∈ suite.cases) : case.validate = .ok () :=
  ((Suite.validate_eq_ok_iff suite).mp (h.validate_eq_ok suite hsuite)).1 case hcase

end IsSound

/-- Whether a catalogue comes about by offers to no suites or to the built-in ones, or from
files. -/
def IsReached {σ : Type} [FileStore σ] (store : σ) (catalogue : Catalogue) : Prop :=
  (∃ suites, catalogue = empty.offerAll suites) ∨
    (∃ suites, catalogue = builtin.offerAll suites) ∨
    ∃ files, withFiles store files = .ok catalogue

/-- Every catalogue that the program can come to is sound, by induction over how it came to it. -/
theorem isSound_of_isReached {σ : Type} [FileStore σ] {store : σ} {catalogue : Catalogue}
    (h : catalogue.IsReached store) : catalogue.IsSound := by
  rcases h with ⟨suites, rfl⟩ | ⟨suites, rfl⟩ | ⟨files, hfiles⟩
  · exact IsSound.empty.offerAll suites
  · exact IsSound.builtin.offerAll suites
  · exact IsSound.builtin.addFiles hfiles

/-! ## Selections -/

/-- What a traversal returns comes from an element on which it was successful. -/
theorem exists_of_mem_mapM {ε α β : Type} {f : α → Except ε β} {xs : List α} {ys : List β}
    (h : xs.mapM f = .ok ys) {y : β} (hy : y ∈ ys) : ∃ x ∈ xs, f x = .ok y := by
  induction xs generalizing ys with
  | nil =>
    obtain rfl := Except.ok.inj h
    cases hy
  | cons x rest ih =>
    rw [List.mapM_cons] at h
    cases hfirst : f x with
    | error error =>
      rw [hfirst] at h
      cases h
    | ok first =>
      cases hrest : rest.mapM f with
      | error error =>
        rw [hfirst, hrest] at h
        cases h
      | ok others =>
        rw [hfirst, hrest] at h
        obtain rfl := Except.ok.inj h
        rcases List.mem_cons.mp hy with rfl | hmem
        · exact ⟨x, List.mem_cons_self, hfirst⟩
        · obtain ⟨other, hother, hy⟩ := ih hrest hmem
          exact ⟨other, List.mem_cons_of_mem _ hother, hy⟩

theorem mem_of_get {catalogue : Catalogue} {name : String} {suite : Suite}
    (h : catalogue.get name = .ok suite) : suite ∈ catalogue.suites := by
  unfold get at h
  split at h
  · obtain rfl := Except.ok.inj h
    exact List.mem_of_find?_eq_some (by assumption)
  · cases h

theorem mem_of_eligible {catalogue : Catalogue} {names : List String} {suites : List Suite}
    (h : catalogue.eligible names = .ok suites) {suite : Suite} (hsuite : suite ∈ suites) :
    suite ∈ catalogue.suites := by
  unfold eligible at h
  split at h
  · rwa [Except.ok.inj h]
  · obtain ⟨name, -, hget⟩ := exists_of_mem_mapM h hsuite
    exact mem_of_get hget

/-- A case that is found by its name is one of a suite. -/
theorem exists_of_caseIn {suites : List Suite} {name : String} {case : Case}
    (h : caseIn suites name = .ok case) : ∃ suite ∈ suites, case ∈ suite.cases := by
  unfold caseIn at h
  split at h
  · obtain rfl := Except.ok.inj h
    obtain ⟨suite, hsuite, hcase⟩ := List.exists_of_findSome?_eq_some (by assumption)
    exact ⟨suite, hsuite, List.mem_of_find?_eq_some hcase⟩
  · cases h

/-- Every selected case is one of a suite of the catalogue. -/
theorem exists_of_select {catalogue : Catalogue} {selection : Selection} {cases : List Case}
    (h : catalogue.select selection = .ok cases) {case : Case} (hcase : case ∈ cases) :
    ∃ suite ∈ catalogue.suites, case ∈ suite.cases := by
  unfold select at h
  split at h
  · cases h
  · rename_i suites heligible
    suffices hsuites : ∃ suite ∈ suites, case ∈ suite.cases by
      obtain ⟨suite, hsuite, hmem⟩ := hsuites
      exact ⟨suite, mem_of_eligible heligible hsuite, hmem⟩
    split at h
    · obtain rfl := Except.ok.inj h
      exact List.mem_flatMap.mp hcase
    · obtain ⟨name, -, hname⟩ := exists_of_mem_mapM h hcase
      exact exists_of_caseIn hname

theorem IsSound.validate_of_select {catalogue : Catalogue} (h : catalogue.IsSound)
    {selection : Selection} {cases : List Case} (hselect : catalogue.select selection = .ok cases)
    {case : Case} (hcase : case ∈ cases) : case.validate = .ok () := by
  obtain ⟨suite, hsuite, hmem⟩ := exists_of_select hselect hcase
  exact h.case_validate hsuite hmem

end Catalogue

/-- The cases of a selection can be run. -/
theorem Selection.validate_of_resolve {σ : Type} [FileStore σ] {store : σ} {selection : Selection}
    {cases : List Case} (h : selection.resolve store = .ok cases) {case : Case}
    (hcase : case ∈ cases) : case.validate = .ok () := by
  unfold resolve at h
  split at h
  · cases h
  · rename_i catalogue hcatalogue
    cases hselect : catalogue.select selection with
    | error error =>
      rw [hselect] at h
      cases h
    | ok selected =>
      rw [hselect] at h
      obtain rfl := Except.ok.inj h
      exact (Catalogue.IsSound.builtin.addFiles hcatalogue).validate_of_select hselect hcase

/-! ## Stage timeouts -/

/-- Whether two theatres give the same performances to whoever has time to wait for them. -/
def Theatre.AgreesInTime {σ : Type} (first second : Theatre σ) : Prop :=
  ∀ patience : Duration, 0 < patience.nanoseconds → first patience = second patience

/-- A case that can be run waits for its entities with options that are accepted. -/
theorem RunOptions.timeoutFor_pos {options : RunOptions} (hoptions : options.validate = .ok ())
    {case : Case} (hcase : case.validate = .ok ()) :
    0 < (options.settings.timeoutFor case).nanoseconds := by
  unfold Settings.timeoutFor
  cases htimeout : case.timeout with
  | none =>
    have hseconds : options.timeoutSeconds ≠ 0 := by
      unfold validate at hoptions
      intro hzero
      rw [if_pos hzero] at hoptions
      cases hoptions
    simp only [Option.getD_none, settings, Duration.ofSeconds, Duration.perSecond]
    omega
  | some timeout =>
    have hvalid := (Case.fault?_eq_none_iff case).mp ((Case.validate_eq_ok_iff case).mp hcase)
    have hnonzero : timeout.nanoseconds ≠ 0 := by
      intro hzero
      apply hvalid.2.1
      rw [htimeout, Duration.zero, ← hzero]
    exact Nat.pos_of_ne_zero hnonzero

section

variable {σ : Type} {first second : Theatre σ}

/-- Launching asks a theatre only for the time that the case is given, so theatres that agree there
launch alike. -/
theorem Trial.startRole_congr {settings : Settings} {case : Case}
    (h : first (settings.timeoutFor case) = second (settings.timeoutFor case)) (role : Role)
    (launched : Nat) (seats : List Seat) (state : σ) :
    startRole settings first case role launched seats state =
      startRole settings second case role launched seats state := by
  induction seats generalizing launched state with
  | nil => rfl
  | cons seat rest ih =>
    unfold startRole
    rw [h]
    simp only [ih]

/-- A case asks for performances with the timeout that it has in a run. -/
theorem Trial.runIn_congr {settings : Settings} {case : Case}
    (h : first (settings.timeoutFor case) = second (settings.timeoutFor case)) (state : σ) :
    runIn settings first case state = runIn settings second case state := by
  unfold runIn seatsIn
  simp only [startRole_congr h]

theorem Series.run_congr {settings : Settings} {cases : List Case}
    (h : ∀ case ∈ cases, first (settings.timeoutFor case) = second (settings.timeoutFor case))
    (shutdown : Shutdown) (state : σ) :
    run settings first cases shutdown state = run settings second cases shutdown state := by
  induction cases generalizing shutdown state with
  | nil => rfl
  | cons case rest ih =>
    unfold run
    have hfirst := Trial.runIn_congr (h case List.mem_cons_self)
    have hrest := ih (fun other hother => h other (List.mem_cons_of_mem _ hother))
    simp only [hfirst, hrest]

end

/-! ## Runs -/

theorem eq_error_of_map_eq_error {ε α β : Type} {f : α → β} {answer : Except ε α} {error : ε}
    (h : answer.map f = .error error) : answer = .error error := by
  cases answer with
  | error other => rw [Except.error.inj h]
  | ok x => cases h

section

variable {σ : Type} {theatre : Theatre σ} {settings : Settings}

/-- Whether a run has no result because something crashed: an observer, or the run itself. -/
def RunError.IsCrash : RunError → Prop
  | invalidCase _ => False
  | observerCrashed .. | unnamable _ => True

/-- A case that can be run has no result only if something crashed. -/
theorem Trial.isCrash_of_runIn_error {case : Case} (hvalid : case.validate = .ok ()) {state : σ}
    {error : RunError} (h : (runIn settings theatre case state).1.2 = .error error) :
    error.IsCrash := by
  cases hnamable : case.isNamable with
  | true =>
    rw [runIn_of_isNamable hvalid hnamable] at h
    simp only [play, conclude] at h
    split at h
    · cases h
      trivial
    · cases h
  | false =>
    obtain ⟨i, entity, label, -, -, -, hrun⟩ :=
      runIn_of_not_isNamable settings theatre state hvalid hnamable
    rw [hrun] at h
    cases h
    trivial

/-- A series of cases that can be run has no result only if something crashed. -/
theorem Series.isCrash_of_run_error {cases : List Case}
    (hvalid : ∀ case ∈ cases, case.validate = .ok ()) {shutdown : Shutdown} {state : σ}
    {error : RunError} (h : (run settings theatre cases shutdown state).result = .error error) :
    error.IsCrash := by
  induction cases generalizing shutdown state with
  | nil => cases h
  | cons case rest ih =>
    have hfirst := hvalid case List.mem_cons_self
    have hrest : ∀ other ∈ rest, other.validate = .ok () :=
      fun other hother => hvalid other (List.mem_cons_of_mem _ hother)
    unfold run at h
    split at h
    · cases h
    · split at h
      · rename_i events error' next hrun
        obtain rfl := Except.error.inj h
        have hresult : (Trial.runIn settings theatre case state).1.2 = .error error' := by
          rw [hrun]
        exact Trial.isCrash_of_runIn_error hfirst hresult
      · exact ih hrest (eq_error_of_map_eq_error h)

end

section

variable {σ : Type} [FileStore σ] {settings : Settings} {cases : List Case}

theorem Pairing.run_congr (around : Surroundings σ)
    {theatre : Implementation → Implementation → Theatre σ} {pairing : Pairing}
    (h : ∀ case ∈ cases,
      around.theatre pairing.publisher pairing.subscriber (settings.timeoutFor case) =
        theatre pairing.publisher pairing.subscriber (settings.timeoutFor case))
    (directory : Option Path) :
    pairing.run around settings cases directory =
      pairing.run { around with theatre } settings cases directory := by
  unfold run
  simp only [Series.run_congr h]

/-- A pairing runs into no invalid case if there is none. -/
theorem Pairing.run_ne_invalidCase (hvalid : ∀ case ∈ cases, case.validate = .ok ())
    {around : Surroundings σ} {directory : Option Path} {pairing : Pairing} (fault : CaseError) :
    (pairing.run around settings cases directory).result ≠ .error (.run (.invalidCase fault)) := by
  intro h
  unfold run at h
  dsimp only at h
  split at h
  · rename_i error hseries
    have hcrash := Series.isCrash_of_run_error hvalid hseries
    cases h
    exact hcrash
  · split at h
    · cases h
    · split at h
      · cases h
      · cases h

/-- Theatres that agree on the times of all cases make one matrix. -/
theorem Matrix.run_congr {output : Option Path} {pairings : List Pairing}
    {around : Surroundings σ} {theatre : Implementation → Implementation → Theatre σ}
    (h : ∀ publisher subscriber, ∀ case ∈ cases,
      around.theatre publisher subscriber (settings.timeoutFor case) =
        theatre publisher subscriber (settings.timeoutFor case)) :
    run settings cases output pairings around =
      run settings cases output pairings { around with theatre } := by
  induction pairings generalizing around with
  | nil => rfl
  | cons pairing rest ih =>
    have hfirst : ∀ shutdown,
        pairing.run { around with shutdown } settings cases (directory output pairing) =
          pairing.run { around with shutdown, theatre } settings cases
            (directory output pairing) :=
      fun shutdown => Pairing.run_congr { around with shutdown } (h _ _) _
    have hrest : ∀ shutdown files,
        run settings cases output rest { around with shutdown, files } =
          run settings cases output rest { around with shutdown, files, theatre } :=
      fun shutdown files => ih h
    unfold run
    simp only [hfirst, hrest]

/-- A matrix runs into no invalid case if there is none. -/
theorem Matrix.run_ne_invalidCase (hvalid : ∀ case ∈ cases, case.validate = .ok ())
    {output : Option Path} {pairings : List Pairing} {around : Surroundings σ}
    (fault : CaseError) :
    (run settings cases output pairings around).result ≠ .error (.run (.invalidCase fault)) := by
  induction pairings generalizing around with
  | nil => intro h; cases h
  | cons pairing rest ih =>
    intro h
    unfold run at h
    split at h
    · cases h
    · dsimp only at h
      split at h
      · rename_i error hpairing
        obtain rfl := Except.error.inj h
        exact Pairing.run_ne_invalidCase hvalid fault hpairing
      · split at h
        · cases h
        · exact ih (eq_error_of_map_eq_error h)

/-! ## Requests -/

theorem Catalogue.addFiles_ne_run {store : σ} {catalogue : Catalogue} {files : List Path}
    (error : RunError) : catalogue.addFiles store files ≠ .error (.run error) := by
  induction files generalizing catalogue with
  | nil => intro h; cases h
  | cons path rest ih =>
    unfold addFiles
    split
    · intro h; cases h
    · split
      · intro h; cases h
      · exact ih

theorem Selection.resolve_ne_run {store : σ} {selection : Selection} (error : RunError) :
    selection.resolve store ≠ .error (.run error) := by
  intro h
  unfold resolve at h
  split at h
  · rename_i other hfiles
    obtain rfl := Except.error.inj h
    exact Catalogue.addFiles_ne_run error hfiles
  · rename_i catalogue hcatalogue
    cases hselect : catalogue.select selection with
    | error other =>
      rw [hselect] at h
      cases h
    | ok selected =>
      rw [hselect] at h
      cases h

/-- No run ends because a case is invalid: every case it gets to has been validated. -/
theorem RunRequest.run_ne_invalidCase (request : RunRequest) (around : Surroundings σ)
    (fault : CaseError) : (request.run around).result ≠ .error (.run (.invalidCase fault)) := by
  unfold run
  split
  · intro h; cases h
  · split
    · rename_i error hresolve
      intro h
      obtain rfl : error = .run (.invalidCase fault) := Except.error.inj h
      exact Selection.resolve_ne_run _ hresolve
    · rename_i cases hresolve
      exact Pairing.run_ne_invalidCase
        (fun case hcase => Selection.validate_of_resolve hresolve hcase) fault

theorem MatrixRequest.run_ne_invalidCase (request : MatrixRequest) (around : Surroundings σ)
    (fault : CaseError) : (request.run around).result ≠ .error (.run (.invalidCase fault)) := by
  unfold run
  split
  · intro h; cases h
  · split
    · rename_i error hresolve
      intro h
      obtain rfl : error = .run (.invalidCase fault) := Except.error.inj h
      exact Selection.resolve_ne_run _ hresolve
    · rename_i cases hresolve
      exact Matrix.run_ne_invalidCase
        (fun case hcase => Selection.validate_of_resolve hresolve hcase) fault

theorem MatrixRequest.validate_options {request : MatrixRequest}
    {implementations : List Implementation} (h : request.validate = .ok implementations) :
    request.options.validate = .ok () := by
  unfold validate at h
  split at h
  · cases h
  · assumption

/-- A run asks for performances only if there is time to wait for them. -/
theorem RunRequest.run_congr (request : RunRequest) (around : Surroundings σ)
    {theatre : Implementation → Implementation → Theatre σ}
    (h : ∀ publisher subscriber,
      (around.theatre publisher subscriber).AgreesInTime (theatre publisher subscriber)) :
    request.run around = request.run { around with theatre } := by
  unfold run
  split
  · rfl
  · rename_i hvalid
    cases hresolve : request.selection.resolve around.files with
    | error error => rfl
    | ok cases =>
      apply Pairing.run_congr
      intro case hcase
      exact h _ _ _ (RunOptions.timeoutFor_pos hvalid
        (Selection.validate_of_resolve hresolve hcase))

/-- A matrix asks for performances only if there is time to wait for them. -/
theorem MatrixRequest.run_congr (request : MatrixRequest) (around : Surroundings σ)
    {theatre : Implementation → Implementation → Theatre σ}
    (h : ∀ publisher subscriber,
      (around.theatre publisher subscriber).AgreesInTime (theatre publisher subscriber)) :
    request.run around = request.run { around with theatre } := by
  unfold run
  split
  · rfl
  · rename_i implementations hvalid
    cases hresolve : request.selection.resolve around.files with
    | error error => rfl
    | ok cases =>
      apply Matrix.run_congr
      intro publisher subscriber case hcase
      exact h _ _ _ (RunOptions.timeoutFor_pos (validate_options hvalid)
        (Selection.validate_of_resolve hresolve hcase))

/-- Suites are accepted if their cases can be run and have different names. However a catalogue
comes about, its suites have different names and are accepted, it is left as it was by a suite that
it refuses, and what is selected from it can be run. A run or a matrix therefore never ends because
of an invalid case, the timeouts of its cases are not zero, and it goes the same way in any two
theatres that differ only in what they do in no time. -/
theorem Catalogue.upkeep {σ : Type} [FileStore σ] :
    (∀ suite : Suite, suite.validate = .ok () ↔
      (∀ case ∈ suite.cases, case.validate = .ok ()) ∧ (suite.cases.map Case.name).Nodup) ∧
    (∀ (store : σ) (catalogue : Catalogue), catalogue.IsReached store →
      catalogue.names.Nodup ∧
      (∀ suite ∈ catalogue.suites, suite.validate = .ok ()) ∧
      (∀ suite, ((catalogue.offer suite).1 = .ok () ↔
          suite.name ∉ catalogue.names ∧ suite.validate = .ok ()) ∧
        ((catalogue.offer suite).1 ≠ .ok () → (catalogue.offer suite).2 = catalogue)) ∧
      ∀ selection cases, catalogue.select selection = .ok cases →
        ∀ case ∈ cases, case.validate = .ok ()) ∧
    (∀ (store : σ) (options : RunOptions) (selection : Selection) (cases : List Case),
      options.validate = .ok () → selection.resolve store = .ok cases →
        ∀ case ∈ cases, 0 < (options.settings.timeoutFor case).nanoseconds) ∧
    (∀ (request : RunRequest) (around : Surroundings σ),
      (∀ fault, (request.run around).result ≠ .error (.run (.invalidCase fault))) ∧
      ∀ theatre, (∀ publisher subscriber,
        (around.theatre publisher subscriber).AgreesInTime (theatre publisher subscriber)) →
          request.run around = request.run { around with theatre }) ∧
    ∀ (request : MatrixRequest) (around : Surroundings σ),
      (∀ fault, (request.run around).result ≠ .error (.run (.invalidCase fault))) ∧
      ∀ theatre, (∀ publisher subscriber,
        (around.theatre publisher subscriber).AgreesInTime (theatre publisher subscriber)) →
          request.run around = request.run { around with theatre } := by
  refine ⟨Suite.validate_eq_ok_iff, ?_, ?_, ?_, ?_⟩
  · intro store catalogue hreached
    -- soundness holds of all catalogues that can be reached; the rest reads its parts off
    have hsound := isSound_of_isReached hreached
    refine ⟨hsound.names_nodup, hsound.validate_eq_ok, catalogue.offer_spec, ?_⟩
    intro selection cases hselect case hcase
    exact hsound.validate_of_select hselect hcase
  · intro store options selection cases hoptions hresolve case hcase
    exact RunOptions.timeoutFor_pos hoptions (Selection.validate_of_resolve hresolve hcase)
  · intro request around
    exact ⟨request.run_ne_invalidCase around, fun _ h => request.run_congr around h⟩
  · intro request around
    exact ⟨request.run_ne_invalidCase around, fun _ h => request.run_congr around h⟩

end

end PubSubTrials
