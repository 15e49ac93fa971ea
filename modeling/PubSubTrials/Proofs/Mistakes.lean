import PubSubTrials.Command.Program
import PubSubTrials.Proofs.Selections

/-!
# Mistakes in requests

Many things can be wrong with a request at once: its timeout, its implementations, its suite files,
and the names of the suites and cases that it selects. Here they are listed, all of them, in the
order in which they are looked for (`RunRequest.mistakes`, `MatrixRequest.mistakes`).

A command that is refused is refused for the first mistake of its request, and then it has done
nothing: whatever the applications would do and however often it may ask whether to stop, it hands
back what it found (`RefusesFirst`). Both commands check their requests before they go on, so one
lemma serves both (`RefusesFirst.of_checks`).
-/

namespace PubSubTrials

/-! ## The first of several mistakes -/

/-- A result that fails with the first of several mistakes, and is a success if there are none. -/
def Blames {ε α : Type} (result : Except ε α) (mistakes : List ε) : Prop :=
  match result with
  | .error error => mistakes.head? = some error
  | .ok _ => mistakes = []

namespace Blames

variable {ε ε' α β : Type} {result : Except ε α} {mistakes : List ε}

theorem error_iff {error : ε} :
    Blames (.error error : Except ε α) mistakes ↔ mistakes.head? = some error :=
  Iff.rfl

theorem ok_iff {x : α} : Blames (.ok x : Except ε α) mistakes ↔ mistakes = [] :=
  Iff.rfl

/-- Who is to blame does not depend on what is done with the answer. -/
theorem map (h : Blames result mistakes) (f : α → β) : Blames (result.map f) mistakes := by
  cases result with
  | error error => exact h
  | ok x => exact h

theorem mapError (h : Blames result mistakes) (f : ε → ε') :
    Blames (result.mapError f) (mistakes.map f) := by
  cases result with
  | error error =>
    rw [error_iff] at h
    rw [Except.mapError, error_iff, List.head?_map, h, Option.map_some]
  | ok x =>
    rw [ok_iff] at h
    rw [Except.mapError, ok_iff, h, List.map_nil]

theorem eq_error_iff (h : Blames result mistakes) (error : ε) :
    result = .error error ↔ mistakes.head? = some error := by
  cases result with
  | error first =>
    rw [error_iff] at h
    rw [h, Except.error.injEq, Option.some.injEq]
  | ok x =>
    rw [ok_iff] at h
    rw [h]
    exact iff_of_false (by intro herror; cases herror) (by intro herror; cases herror)

/-- What goes on after a success blames what is wrong with it. -/
theorem bind (h : Blames result mistakes) {next : α → Except ε β} {later : List ε}
    (hnext : ∀ x, result = .ok x → Blames (next x) later) :
    Blames (result.bind next) (mistakes ++ later) := by
  cases result with
  | error error =>
    rw [error_iff] at h
    rw [Except.bind, error_iff, List.head?_append, h, Option.some_or]
  | ok x =>
    rw [ok_iff] at h
    rw [Except.bind, h, List.nil_append]
    exact hnext x rfl

end Blames

/-- What is found at each of several elements, which is looked at together with those before it. -/
def inTurn {α β : Type} (find : List α → α → List β) (earlier : List α) : List α → List β
  | [] => []
  | x :: rest => find earlier x ++ inTurn find (earlier ++ [x]) rest

/-- What every single step can find holds of all that is found. -/
theorem forall_mem_inTurn {α β : Type} {find : List α → α → List β} {p : β → Prop}
    (h : ∀ earlier x, ∀ y ∈ find earlier x, p y) (earlier xs : List α) :
    ∀ y ∈ inTurn find earlier xs, p y := by
  induction xs generalizing earlier with
  | nil => exact List.forall_mem_nil _
  | cons x rest ih => exact List.forall_mem_append.mpr ⟨h earlier x, ih (earlier ++ [x])⟩

theorem IsFirstWithout.head?_filter {α : Type} {p : α → Prop} [DecidablePred p] {xs : List α}
    {x : α} (h : IsFirstWithout p xs x) : (xs.filter fun y => ¬ p y).head? = some x := by
  obtain ⟨front, rest, rfl, hfront, hx⟩ := h
  rw [List.filter_append, List.filter_eq_nil_iff.mpr (by simpa using hfront), List.nil_append,
    List.filter_cons_of_pos (by simpa using hx), List.head?_cons]

theorem filter_not_eq_nil {α : Type} {p : α → Prop} [DecidablePred p] {xs : List α}
    (h : ∀ x ∈ xs, p x) : (xs.filter fun x => ¬ p x) = [] := by
  rw [List.filter_eq_nil_iff]
  simpa using h

/-! ## Refusals -/

/-- A failure that is due to the request: to its arguments, its suite files or its selection. -/
def CommandError.IsRefusal : CommandError → Prop
  | argument _ | load _ | suite _ => True
  | run _ | report _ => False

/-- Apart from invalid cases, refusals are told by their exit codes. -/
theorem CommandError.isRefusal_iff_exitCode {error : CommandError}
    (h : ∀ fault, error ≠ .run (.invalidCase fault)) :
    error.IsRefusal ↔ error.exitCode ∈ [1, 4, 5] := by
  cases error with
  | argument fault => exact iff_of_true trivial (by simp [exitCode])
  | load fault => exact iff_of_true trivial (by simp [exitCode])
  | suite fault => exact iff_of_true trivial (by cases fault <;> simp [exitCode])
  | report fault => exact iff_of_false id (by simp [exitCode])
  | run fault =>
    cases fault with
    | invalidCase fault => exact absurd rfl (h fault)
    | observerCrashed case label => exact iff_of_false id (by simp [exitCode])
    | unnamable thread => exact iff_of_false id (by simp [exitCode])

section

variable {σ α β : Type}

/-- A command is refused for the first mistake of its request, and is not refused if there is none;
what fails later has another exit code. A refused command has done nothing: there was no start, no
pause, no message and no report, and files and requests to stop are as they were. This is so in all
surroundings with these files, hence also where the request to stop would tell that it was asked,
being one after a number of questions. -/
structure RefusesFirst (run : Surroundings σ → Conclusion σ α)
    (mistakes : σ → List CommandError) : Prop where
  refused_iff : ∀ around error, (run around).result = .error error ∧ error.IsRefusal ↔
    (mistakes around.files).head? = some error
  exitCode_iff : ∀ around error, (run around).result = .error error →
    (error.IsRefusal ↔ error.exitCode ∈ [1, 4, 5])
  untouched : ∀ around error, (run around).result = .error error → error.IsRefusal →
    ∀ other, other.files = around.files →
      run other = ⟨[], other.shutdown, other.files, .error error⟩

/-- A command that goes on with what a check of its request gave. -/
def Surroundings.afterCheck (around : Surroundings σ)
    (checked : Except CommandError β) (proceed : β → Surroundings σ → Conclusion σ α) :
    Conclusion σ α :=
  match checked with
  | .error error => around.refuse error
  | .ok x => proceed x around

/-- A command that checks its request before it goes on, and that fails later only for reasons
that are no mistakes of the request. -/
theorem RefusesFirst.of_checks {run : Surroundings σ → Conclusion σ α}
    {mistakes : σ → List CommandError} {checked : σ → Except CommandError β}
    {proceed : β → Surroundings σ → Conclusion σ α}
    (hrun : ∀ around, run around = around.afterCheck (checked around.files) proceed)
    (hblames : ∀ store, Blames (checked store) (mistakes store))
    (hmistakes : ∀ store, ∀ mistake ∈ mistakes store, mistake.IsRefusal)
    (hproceed : ∀ x around error, (proceed x around).result = .error error → ¬ error.IsRefusal)
    (hvalid : ∀ around fault, (run around).result ≠ .error (.run (.invalidCase fault))) :
    RefusesFirst run mistakes := by
  have hfirst : ∀ around error, (run around).result = .error error ∧ error.IsRefusal ↔
      checked around.files = .error error := by
    intro around error
    rw [hrun around]
    constructor
    · rintro ⟨hresult, hrefusal⟩
      cases hchecked : checked around.files with
      | error first =>
        rw [hchecked] at hresult
        exact congrArg Except.error (Except.error.inj hresult)
      | ok x =>
        -- whatever fails behind the check is no refusal
        rw [hchecked] at hresult
        exact absurd hrefusal (hproceed x around error hresult)
    · intro hchecked
      have hhead := ((hblames around.files).eq_error_iff error).mp hchecked
      rw [hchecked]
      exact ⟨rfl, hmistakes around.files error (List.mem_of_head? hhead)⟩
  refine ⟨?_, ?_, ?_⟩
  · intro around error
    rw [hfirst, (hblames around.files).eq_error_iff]
  · intro around error hresult
    apply CommandError.isRefusal_iff_exitCode
    rintro fault rfl
    exact hvalid around fault hresult
  · intro around error hresult hrefusal other hfiles
    rw [hrun other, hfiles, (hfirst around error).mp ⟨hresult, hrefusal⟩, ← hfiles]
    rfl

theorem exitCode_not_mem (allPassed interrupted : Bool) :
    PubSubTrials.exitCode allPassed interrupted ∉ [1, 4, 5] := by
  cases interrupted <;> cases allPassed <;> decide

/-- The program ends with the exit code of a refusal just if there is a mistake, and then it shows
the first one and nothing else. -/
theorem RefusesFirst.ending {run : Surroundings FileTree → Conclusion FileTree α}
    {mistakes : FileTree → List CommandError} (h : RefusesFirst run mistakes)
    {exitCode : α → Nat} (hexit : ∀ result, exitCode result ∉ [1, 4, 5])
    (around : Surroundings FileTree) (level : Level) (text : α → String) :
    (((run around).ending level exitCode text).exitCode ∈ [1, 4, 5] ↔
      mistakes around.files ≠ []) ∧
    ∀ first, (mistakes around.files).head? = some first →
      (run around).ending level exitCode text = first.ending [] around.files := by
  -- a refused run has touched nothing, so it ends like one that was never begun
  have hshown : ∀ first, (mistakes around.files).head? = some first →
      (run around).ending level exitCode text = first.ending [] around.files := by
    intro first hfirst
    obtain ⟨hresult, hrefusal⟩ := (h.refused_iff around first).mpr hfirst
    rw [h.untouched around first hresult hrefusal around rfl]
    rfl
  refine ⟨⟨fun hcode hnone => ?_, fun hsome => ?_⟩, hshown⟩
  · unfold Conclusion.ending at hcode
    dsimp only at hcode
    split at hcode
    · exact hexit _ hcode
    · rename_i error hresult
      have hrefusal := (h.exitCode_iff around error hresult).mpr hcode
      have hfirst := (h.refused_iff around error).mp ⟨hresult, hrefusal⟩
      rw [hnone] at hfirst
      cases hfirst
  · have hfirst := List.head?_eq_some_head hsome
    obtain ⟨hresult, hrefusal⟩ := (h.refused_iff around _).mpr hfirst
    rw [hshown _ hfirst]
    exact (h.exitCode_iff around _ hresult).mp hrefusal

end

/-! ## Arguments -/

/-- What is wrong with options. -/
def RunOptions.mistakes (options : RunOptions) : List ArgumentError :=
  if options.timeoutSeconds < 1 then [.timeoutTooShort options.timeoutSeconds] else []

/-- Options are refused for their first mistake. -/
theorem RunOptions.validate_blames (options : RunOptions) :
    Blames options.validate options.mistakes := by
  unfold validate mistakes
  by_cases hzero : options.timeoutSeconds = 0
  · rw [if_pos hzero, if_pos (by omega)]
    rfl
  · rw [if_neg hzero, if_neg (by omega)]
    rfl

namespace Implementation

/-- The names of the implementations that texts give, as far as they give one. -/
def namesIn (texts : List String) : List String :=
  texts.filterMap (fun text => (parse text).toOption.map name)

/-- What is wrong with a text that follows others. -/
def mistakesAt (earlier : List String) (text : String) : List ArgumentError :=
  match parse text with
  | .error error => [error]
  | .ok implementation =>
    if implementation.name ∈ namesIn earlier then [.repeatedImplementation implementation.name]
    else []

/-- What is wrong with texts that should give implementations. -/
def mistakes (texts : List String) : List ArgumentError := inTurn mistakesAt [] texts

/-- Implementations are refused for the first mistake, names counting as taken that were used
earlier in the list. -/
theorem parseAllFrom_blames {earlier taken : List String}
    (htaken : ∀ name, name ∈ taken ↔ name ∈ namesIn earlier) (texts : List String) :
    Blames (parseAllFrom taken texts) (inTurn mistakesAt earlier texts) := by
  induction texts generalizing earlier taken with
  | nil => rfl
  | cons text rest ih =>
    unfold parseAllFrom inTurn mistakesAt
    cases hparse : parse text with
    | error error => rfl
    | ok implementation =>
      by_cases hrepeated : implementation.name ∈ taken
      · simp only [List.contains_iff_mem, hrepeated, (htaken _).mp hrepeated, if_true]
        rfl
      · simp only [List.contains_iff_mem, hrepeated, (htaken _).not.mp hrepeated, if_false,
          List.nil_append]
        refine (ih ?_).map _
        -- the name of this implementation is taken for the texts behind it
        intro name
        rw [List.mem_cons, htaken, namesIn, namesIn, List.filterMap_append, List.mem_append,
          or_comm]
        simp [hparse, Except.toOption]

theorem parseAll_blames (texts : List String) : Blames (parseAll texts) (mistakes texts) :=
  parseAllFrom_blames (by simp [namesIn]) texts

example : mistakes ["alpha=/opt/a", "beta", "alpha=/opt/b", "=/opt/c"] =
    [.malformedImplementation "beta", .repeatedImplementation "alpha",
      .malformedImplementation "=/opt/c"] := by
  decide +kernel

end Implementation

/-! ## Suite files -/

section

variable {σ : Type} [FileStore σ]

/-- The suite that is written in a file, sound or not. -/
def Suite.written (store : σ) (path : Path) : Except LoadError Suite :=
  match FileStore.read store path with
  | .error error => .error (.unreadable path.text error)
  | .ok text => (Json.decode readSuite text.toList).mapError (.malformed path.text)

/-- Loading is reading what is written and then validating it. -/
theorem Suite.load_eq_written (store : σ) (path : Path) :
    load store path = (written store path).bind fun suite =>
      match suite.fault? with
      | some fault => .error (.unsound path.text fault)
      | none => .ok suite := by
  unfold load written
  cases FileStore.read store path with
  | error error => rfl
  | ok text =>
    dsimp only
    unfold parse
    cases Json.decode readSuite text.toList with
    | error fault => rfl
    | ok suite => rfl

namespace Catalogue

/-- The built-in suites and those that are written in files, sound or not. -/
def offered (store : σ) (files : List Path) : Catalogue :=
  ⟨builtin.suites ++ files.filterMap (fun path => (Suite.written store path).toOption)⟩

/-- What is wrong with a file that follows others: it holds no suite, or the suite has a fault or
the name of a suite before it, or both. -/
def mistakesAt (store : σ) (earlier : List Path) (path : Path) : List CommandError :=
  match Suite.written store path with
  | .error error => [.load error]
  | .ok suite =>
    suite.fault?.toList.map (fun fault => .load (.unsound path.text fault)) ++
      if suite.name ∈ (offered store earlier).names then [.suite (.duplicateSuite suite.name)]
      else []

/-- Files are refused for the first mistake among them, each looked at with the suites offered so
far, by induction over the files. -/
theorem addFiles_blames (store : σ) (earlier files : List Path) :
    Blames ((offered store earlier).addFiles store files)
      (inTurn (mistakesAt store) earlier files) ∧
    ∀ grown, (offered store earlier).addFiles store files = .ok grown →
      grown = offered store (earlier ++ files) := by
  -- induction on the files; what was offered before is what the earlier ones have left
  induction files generalizing earlier with
  | nil =>
    refine ⟨rfl, ?_⟩
    intro grown hgrown
    rw [List.append_nil, ← Except.ok.inj hgrown]
  | cons path rest ih =>
    rw [addFiles, inTurn, mistakesAt, Suite.load_eq_written]
    cases hwritten : Suite.written store path with
    | error error => exact ⟨rfl, by intro grown hgrown; cases hgrown⟩
    | ok suite =>
      cases hfault : suite.fault? with
      | some fault =>
        simp only [Except.bind, hfault]
        exact ⟨rfl, by intro grown hgrown; cases hgrown⟩
      | none =>
        simp only [Except.bind, hfault, add, List.contains_iff_mem]
        by_cases hname : suite.name ∈ (offered store earlier).names
        · simp only [hname, if_true]
          exact ⟨rfl, by intro grown hgrown; cases hgrown⟩
        · -- the files behind this one are added to what is offered up to this one
          have hnext : offered store (earlier ++ [path]) =
              ⟨(offered store earlier).suites ++ [suite]⟩ := by
            simp [offered, hwritten, Except.toOption]
          have hrest := ih (earlier ++ [path])
          rw [hnext, List.append_assoc, List.singleton_append] at hrest
          simp only [hname, if_false, Option.toList_none, List.map_nil, List.nil_append]
          exact hrest

end Catalogue

/-! ## Selections -/

instance {suites : List Suite} {name : String} : Decidable (HasCase suites name) :=
  inferInstanceAs (Decidable (∃ suite ∈ suites, ∃ case ∈ suite.cases, case.name = name))

namespace Catalogue

/-- The suites to look through. -/
def suitesFor (catalogue : Catalogue) (selection : Selection) : List Suite :=
  catalogue.suites.filter fun suite => selection.suites = [] ∨ suite.name ∈ selection.suites

/-- What is wrong with a selection: names of suites that are not in the catalogue, and of cases
that are in none of the suites to look through. -/
def unknowns (catalogue : Catalogue) (selection : Selection) : List SuiteError :=
  (selection.suites.filter fun name => ¬ name ∈ catalogue.names).map .unknownSuite ++
  (selection.cases.filter fun name => ¬ HasCase (catalogue.suitesFor selection) name).map
    .unknownCase

theorem hasCase_suitesFor_iff (catalogue : Catalogue) (selection : Selection) (name : String) :
    HasCase (catalogue.suitesFor selection) name ↔ ∃ suite ∈ catalogue.suites,
      (selection.suites = [] ∨ suite.name ∈ selection.suites) ∧
      ∃ case ∈ suite.cases, case.name = name := by
  simp only [HasCase, suitesFor, List.mem_filter, decide_eq_true_eq, and_assoc]

/-- A selection is refused for the first name that is not known. -/
theorem select_blames {catalogue : Catalogue} (h : catalogue.names.Nodup)
    (selection : Selection) :
    Blames (catalogue.select selection) (catalogue.unknowns selection) := by
  cases hselect : catalogue.select selection with
  | ok cases =>
    obtain ⟨hsuites, hcases⟩ := (exists_select_eq_ok_iff h selection).mp ⟨cases, hselect⟩
    simp only [← hasCase_suitesFor_iff] at hcases
    rw [Blames.ok_iff, unknowns, filter_not_eq_nil hsuites, filter_not_eq_nil hcases]
    rfl
  | error error =>
    rw [Blames.error_iff, unknowns, List.head?_append, List.head?_map, List.head?_map]
    obtain ⟨name, hfirst, rfl⟩ | ⟨suites, name, heligible, hfirst, rfl⟩ :=
      error_of_select h hselect
    · rw [hfirst.head?_filter]
      rfl
    · -- a case is to blame only if all suites are known, so nothing is listed before it
      have hknown := (exists_eligible_eq_ok_iff selection.suites).mp
        ⟨suites, (eligible_eq_ok_iff h).mpr heligible⟩
      have hsame : ∀ name, HasCase suites name ↔
          HasCase (catalogue.suitesFor selection) name := by
        intro name
        rw [hasCase_suitesFor_iff]
        simp only [HasCase, heligible.mem_iff h, and_assoc]
      rw [filter_not_eq_nil hknown, (hfirst.congr hsame).head?_filter]
      rfl

end Catalogue

/-- What is wrong with a selection and its files. -/
def Selection.mistakes (store : σ) (selection : Selection) : List CommandError :=
  inTurn (Catalogue.mistakesAt store) [] selection.suiteFiles ++
    ((Catalogue.offered store selection.suiteFiles).unknowns selection).map .suite

/-- Resolving a selection reads the files first and selects then. -/
theorem Selection.resolve_eq_bind (store : σ) (selection : Selection) :
    selection.resolve store = (Catalogue.withFiles store selection.suiteFiles).bind
      fun catalogue => (catalogue.select selection).mapError .suite := by
  unfold resolve
  cases Catalogue.withFiles store selection.suiteFiles with
  | error error => rfl
  | ok catalogue => rfl

/-- The mistakes in the files come before the unknown names. -/
theorem Selection.resolve_blames (store : σ) (selection : Selection) :
    Blames (selection.resolve store) (selection.mistakes store) := by
  obtain ⟨hblames, hoffered⟩ := Catalogue.addFiles_blames store [] selection.suiteFiles
  rw [resolve_eq_bind]
  refine hblames.bind fun catalogue hcatalogue => ?_
  obtain rfl : catalogue = Catalogue.offered store selection.suiteFiles :=
    hoffered catalogue hcatalogue
  have hsound := Catalogue.IsSound.builtin.addFiles hcatalogue
  exact (Catalogue.select_blames hsound.names_nodup selection).mapError _

/-- What is wrong with arguments or with a selection is a reason to refuse a request. -/
theorem isRefusal_of_mem (arguments : List ArgumentError) (selection : Selection) (store : σ) :
    ∀ mistake ∈ arguments.map .argument ++ selection.mistakes store,
      mistake.IsRefusal := by
  refine List.forall_mem_append.mpr
    ⟨?_, List.forall_mem_append.mpr ⟨forall_mem_inTurn ?_ _ _, ?_⟩⟩
  · intro mistake hmistake
    obtain ⟨fault, -, rfl⟩ := List.mem_map.mp hmistake
    trivial
  · intro earlier path mistake hmistake
    unfold Catalogue.mistakesAt at hmistake
    split at hmistake
    · rw [List.mem_singleton.mp hmistake]
      trivial
    · rcases List.mem_append.mp hmistake with hunsound | htaken
      · obtain ⟨fault, -, rfl⟩ := List.mem_map.mp hunsound
        trivial
      · split at htaken
        · rw [List.mem_singleton.mp htaken]
          trivial
        · cases htaken
  · intro mistake hmistake
    obtain ⟨fault, -, rfl⟩ := List.mem_map.mp hmistake
    trivial

/-! ## Runs and matrices -/

/-- A pairing that has begun ends with no refusal. -/
theorem Pairing.not_isRefusal_of_run {around : Surroundings σ} {settings : Settings}
    {cases : List Case} {directory : Option Path} {pairing : Pairing} {error : CommandError}
    (h : (pairing.run around settings cases directory).result = .error error) :
    ¬ error.IsRefusal := by
  unfold run at h
  dsimp only at h
  split at h
  · rw [← Except.error.inj h]
    exact id
  · split at h
    · cases h
    · split at h
      · rw [← Except.error.inj h]
        exact id
      · cases h

theorem Matrix.not_isRefusal_of_run {settings : Settings} {cases : List Case}
    {output : Option Path} {pairings : List Pairing} {around : Surroundings σ}
    {error : CommandError}
    (h : (run settings cases output pairings around).result = .error error) :
    ¬ error.IsRefusal := by
  induction pairings generalizing around with
  | nil => cases h
  | cons pairing rest ih =>
    unfold run at h
    split at h
    · cases h
    · dsimp only at h
      split at h
      · rename_i hpairing
        rw [← Except.error.inj h]
        exact Pairing.not_isRefusal_of_run hpairing
      · split at h
        · cases h
        · exact ih (eq_error_of_map_eq_error h)

namespace RunRequest

/-- What is wrong with a run: its options, then its selection. -/
def mistakes (request : RunRequest) (store : σ) : List CommandError :=
  request.options.mistakes.map .argument ++ request.selection.mistakes store

/-- The cases of a run that is not refused. -/
def checked (request : RunRequest) (store : σ) : Except CommandError (List Case) :=
  (request.validate.mapError .argument).bind fun _ => request.selection.resolve store

theorem checked_blames (request : RunRequest) (store : σ) :
    Blames (request.checked store) (request.mistakes store) :=
  (request.options.validate_blames.mapError _).bind fun _ _ =>
    request.selection.resolve_blames store

/-- A run is its checks, and then the pairing with the cases selected. -/
theorem run_eq_checked (request : RunRequest) (around : Surroundings σ) :
    request.run around = around.afterCheck (request.checked around.files) fun cases around =>
      request.pairing.run around request.options.settings cases request.options.output := by
  unfold run checked
  cases request.validate with
  | error error => rfl
  | ok _ =>
    dsimp only [Except.mapError, Except.bind]
    cases request.selection.resolve around.files with
    | error error => rfl
    | ok cases => rfl

/-- A run is refused for its first mistake, before anything is done. -/
theorem refusesFirst (request : RunRequest) :
    RefusesFirst (request.run (σ := σ)) request.mistakes := by
  refine .of_checks request.run_eq_checked request.checked_blames (isRefusal_of_mem _ _) ?_
    request.run_ne_invalidCase
  intro cases around error hresult
  exact Pairing.not_isRefusal_of_run hresult

end RunRequest

namespace MatrixRequest

/-- What is wrong with a matrix: its options, then its implementations, then its selection. -/
def mistakes (request : MatrixRequest) (store : σ) : List CommandError :=
  (request.options.mistakes ++ Implementation.mistakes request.implementations).map .argument ++
    request.selection.mistakes store

/-- The implementations and the cases of a matrix that is not refused. -/
def checked (request : MatrixRequest) (store : σ) :
    Except CommandError (List Implementation × List Case) :=
  (request.validate.mapError .argument).bind fun implementations =>
    (request.selection.resolve store).map (implementations, ·)

/-- A matrix is validated in its options first and in its implementations then. -/
theorem validate_blames (request : MatrixRequest) :
    Blames request.validate
      (request.options.mistakes ++ Implementation.mistakes request.implementations) := by
  have hbind : request.validate =
      request.options.validate.bind fun _ => Implementation.parseAll request.implementations := by
    unfold validate
    cases request.options.validate with
    | error error => rfl
    | ok _ => rfl
  rw [hbind]
  exact request.options.validate_blames.bind fun _ _ => Implementation.parseAll_blames _

theorem checked_blames (request : MatrixRequest) (store : σ) :
    Blames (request.checked store) (request.mistakes store) :=
  (request.validate_blames.mapError _).bind fun _ _ =>
    (request.selection.resolve_blames store).map _

theorem run_eq_checked (request : MatrixRequest) (around : Surroundings σ) :
    request.run around = around.afterCheck (request.checked around.files) fun checked around =>
      Matrix.run request.options.settings checked.2 request.options.output
        (Matrix.pairings checked.1) around := by
  unfold run checked
  cases request.validate with
  | error error => rfl
  | ok implementations =>
    dsimp only [Except.mapError, Except.bind]
    cases request.selection.resolve around.files with
    | error error => rfl
    | ok cases => rfl

/-- A matrix is refused for its first mistake, before anything is done. -/
theorem refusesFirst (request : MatrixRequest) :
    RefusesFirst (request.run (σ := σ)) request.mistakes := by
  refine .of_checks request.run_eq_checked request.checked_blames (isRefusal_of_mem _ _) ?_
    request.run_ne_invalidCase
  intro checks around error hresult
  exact Matrix.not_isRefusal_of_run hresult

end MatrixRequest

/-- A run or a matrix with a mistake in its request is refused for the first one, before it has
done anything. The program then ends with one of three exit codes that it has in no other case; it
shows this mistake alone and leaves the files as they were. -/
theorem refused_for_first_mistake :
    (∀ request : RunRequest, RefusesFirst (σ := σ) request.run request.mistakes) ∧
    (∀ request : MatrixRequest, RefusesFirst (σ := σ) request.run request.mistakes) ∧
    (∀ (request : RunRequest) (moment : Timestamp) (files : FileTree),
      ((Request.execute moment files (.run request)).exitCode ∈ [1, 4, 5] ↔
        request.mistakes files ≠ []) ∧
      ∀ first, (request.mistakes files).head? = some first →
        Request.execute moment files (.run request) = first.ending [] files) ∧
    ∀ (request : MatrixRequest) (moment : Timestamp) (files : FileTree),
      ((Request.execute moment files (.matrix request)).exitCode ∈ [1, 4, 5] ↔
        request.mistakes files ≠ []) ∧
      ∀ first, (request.mistakes files).head? = some first →
        Request.execute moment files (.matrix request) = first.ending [] files := by
  refine ⟨RunRequest.refusesFirst, MatrixRequest.refusesFirst, ?_, ?_⟩
  · intro request moment files
    exact request.refusesFirst.ending (fun _ => exitCode_not_mem _ _)
      (request.options.surroundings moment files) _ _
  · intro request moment files
    exact request.refusesFirst.ending (fun _ => exitCode_not_mem _ _)
      (request.options.surroundings moment files) _ _

end

end PubSubTrials
