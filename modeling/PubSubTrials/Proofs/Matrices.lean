import Mathlib.Data.List.Nodup
import PubSubTrials.Proofs.Naming
import PubSubTrials.Proofs.Pairings
import PubSubTrials.Proofs.RoundTrip

/-!
# The reports of a matrix

A matrix writes one report for each pairing, under a path that is made of two names. A report stays
if no pairing after it has the same path, and is lost otherwise (`reports_of_run`): the text that is
read then shows other names. Names without slashes, without two hyphens in a row and without a
hyphen at the end give paths that all differ (`names_of_same_place`); names in general do not
(`report_of_twins_lost`).
-/

namespace PubSubTrials

/-! ## One report after the other -/

namespace PairingResult

/-- Who published and who subscribed. -/
def names (result : PairingResult) : String × String :=
  (result.publisher, result.subscriber)

/-- The report of a pairing. -/
def report (moment : Timestamp) (result : PairingResult) : Report :=
  .ofSeries result.series result.publisher result.subscriber moment

/-- The path of a pairing's report in a directory for reports. -/
def place (output : Path) (result : PairingResult) : Path :=
  Report.pathIn (output.join ⟨result.publisher ++ "--" ++ result.subscriber⟩)

/-- Whether a pairing's report is read under the path that the pairing names. -/
def IsStored {σ : Type} [FileStore σ] (store : σ) (moment : Timestamp) (result : PairingResult) :
    Prop :=
  ∃ path, result.reportPath = some path ∧
    FileStore.read store path = .ok (result.report moment).print

end PairingResult

section

variable {σ : Type} [FileStore σ] {memory : σ → MemoryFiles}

/-- A pairing that is never asked to stop and that has a result leaves its report behind, and no
other file is changed. -/
theorem Pairing.run_never (hmemory : InMemory memory) {around : Surroundings σ}
    {settings : Settings} {cases : List Case} {output : Path} {pairing : Pairing}
    (hkeeps : (around.theatre pairing.publisher pairing.subscriber).Keeps memory)
    (hnever : around.shutdown = .never) {result : PairingResult}
    (h : (pairing.run around settings cases (some (output.join ⟨pairing.directoryName⟩))).result =
      .ok result) :
    let ran := pairing.run around settings cases (some (output.join ⟨pairing.directoryName⟩))
    ran.shutdown = .never ∧ result.series.interrupted = false ∧ result.names = pairing.names ∧
      result.reportPath = some (result.place output) ∧
      ∀ other, FileStore.read ran.files other =
        if (result.place output).same other then .ok (result.report around.moment).print
        else FileStore.read around.files other := by
  intro after
  obtain ⟨series, before, hseries, rfl, rfl, hsave, hshutdown, -⟩ := exists_of_run_saved h
  obtain ⟨hstopped, hstate, hinterrupted⟩ :=
    Series.run_never hkeeps settings cases around.files
  -- the theatre keeps the files, so the report is all that is written
  have hcases : pairing.runCases around settings cases =
      Series.run settings (around.theatre pairing.publisher pairing.subscriber) cases .never
        around.files := by
    rw [runCases, hnever]
  rw [← hcases] at hstopped hstate hinterrupted
  obtain ⟨-, hread⟩ := Report.read_of_save hmemory hsave
  refine ⟨hshutdown.trans hstopped, hinterrupted series hseries, rfl, rfl, fun other => ?_⟩
  rw [hread]
  split
  · rw [if_pos (by assumption)]
    rfl
  · rw [if_neg (by assumption), hmemory.read_eq, hmemory.read_eq, hstate]

/-- What is read under a path after reports were written one after the other. -/
def PairingResult.readAfter (output : Path) (moment : Timestamp) (before : Except FileError String)
    (results : List PairingResult) (path : Path) : Except FileError String :=
  results.foldl (fun found result =>
    if (result.place output).same path then .ok (result.report moment).print else found) before

open PairingResult (readAfter)

/-- A matrix with a result that is never asked to stop starts with its first pairing. -/
theorem Matrix.run_cons_never {settings : Settings} {cases : List Case} {output : Option Path}
    {pairing : Pairing} {rest : List Pairing} {around : Surroundings σ}
    (hnever : around.shutdown = .never) {matrix : MatrixResult}
    (h : (run settings cases output (pairing :: rest) around).result = .ok matrix) :
    ∃ first result, first = pairing.run around settings cases (directory output pairing) ∧
      first.result = .ok result ∧
      (result.series.interrupted = false → ∃ next others,
        next = { around with shutdown := first.shutdown, files := first.files } ∧
        (run settings cases output rest next).result = .ok others ∧
        matrix = { others with pairings := result :: others.pairings } ∧
        (run settings cases output (pairing :: rest) around).files =
          (run settings cases output rest next).files) := by
  obtain ⟨theatre, moment, shutdown, files⟩ := around
  obtain rfl : shutdown = .never := hnever
  rw [run] at h ⊢
  simp only [Shutdown.check] at h ⊢
  generalize pairing.run ⟨theatre, moment, .never, files⟩ settings cases
    (directory output pairing) = first at h ⊢
  obtain ⟨journal, shutdown, files, answer⟩ := first
  cases answer with
  | error error => cases h
  | ok result =>
    refine ⟨_, result, rfl, rfl, fun hinterrupted => ?_⟩
    simp only [hinterrupted, Bool.false_eq_true, if_false] at h ⊢
    obtain ⟨others, hothers, rfl⟩ := eq_ok_of_map_eq_ok h
    exact ⟨_, others, rfl, hothers, rfl, rfl⟩

/-- A matrix that is never asked to stop and that has a result has run all its pairings, and has
written their reports in this order. -/
theorem Matrix.run_never (hmemory : InMemory memory) {settings : Settings} {cases : List Case}
    {output : Path} {pairings : List Pairing} {around : Surroundings σ}
    (hkeeps : ∀ publisher subscriber, (around.theatre publisher subscriber).Keeps memory)
    (hnever : around.shutdown = .never) {matrix : MatrixResult}
    (h : (run settings cases (some output) pairings around).result = .ok matrix) :
    matrix.interrupted = false ∧
      matrix.pairings.map PairingResult.names = pairings.map Pairing.names ∧
      (∀ result ∈ matrix.pairings, result.reportPath = some (result.place output)) ∧
      ∀ path, FileStore.read (run settings cases (some output) pairings around).files path =
        readAfter output around.moment (FileStore.read around.files path) matrix.pairings path := by
  induction pairings generalizing around matrix with
  | nil =>
    obtain rfl := Except.ok.inj h
    refine ⟨rfl, rfl, ?_, fun _ => rfl⟩
    intro result hmem
    cases hmem
  | cons pairing rest ih =>
    obtain ⟨first, result, rfl, hresult, hlater⟩ := run_cons_never hnever h
    obtain ⟨hstopped, hinterrupted, hnames, hpath, hread⟩ :=
      Pairing.run_never hmemory (hkeeps _ _) hnever hresult
    -- the next pairing finds the same surroundings, apart from the files
    obtain ⟨next, others, hnext, hothers, rfl, hfiles⟩ := hlater hinterrupted
    have hnextKeeps : ∀ publisher subscriber, (next.theatre publisher subscriber).Keeps memory := by
      rw [hnext]
      exact hkeeps
    have hnextNever : next.shutdown = .never := by
      rw [hnext]
      exact hstopped
    obtain ⟨hended, hnamesOthers, hpaths, hreadOthers⟩ := ih hnextKeeps hnextNever hothers
    refine ⟨hended, ?_, ?_, fun path => ?_⟩
    · rw [List.map_cons, List.map_cons, hnames, hnamesOthers]
    · intro other hmem
      rcases List.mem_cons.mp hmem with rfl | hmem
      · exact hpath
      · exact hpaths other hmem
    · rw [hfiles, hreadOthers, hnext]
      dsimp only
      rw [readAfter, readAfter, List.foldl_cons, ← hread path]
      rfl

end

/-! ## Whose report is read -/

namespace PairingResult

/-- Without a report under the path, what is read there is what was there before. -/
theorem readAfter_of_none_same {output path : Path} {moment : Timestamp}
    {results : List PairingResult}
    (h : ∀ result ∈ results, (result.place output).same path = false)
    (before : Except FileError String) :
    readAfter output moment before results path = before := by
  induction results generalizing before with
  | nil => rfl
  | cons result rest ih =>
    have hfirst : ¬ (result.place output).same path = true := by
      rw [h result List.mem_cons_self]
      exact Bool.false_ne_true
    rw [readAfter, List.foldl_cons, if_neg hfirst, ← readAfter]
    exact ih (fun other hother => h other (List.mem_cons_of_mem _ hother)) before

/-- Of the reports written under a path one is read there. -/
theorem readAfter_of_some_same {output path : Path} {moment : Timestamp}
    {results : List PairingResult}
    (h : ∃ result ∈ results, (result.place output).same path = true)
    (before : Except FileError String) :
    ∃ result ∈ results,
      readAfter output moment before results path = .ok (result.report moment).print := by
  induction results generalizing before with
  | nil =>
    obtain ⟨result, hmem, -⟩ := h
    cases hmem
  | cons result rest ih =>
    rw [readAfter, List.foldl_cons, ← readAfter]
    -- a later report under the path takes the place of this one
    by_cases hrest : ∃ other ∈ rest, (other.place output).same path = true
    · obtain ⟨last, hlast, hread⟩ := ih hrest
        (if (result.place output).same path then .ok (result.report moment).print else before)
      exact ⟨last, List.mem_cons_of_mem _ hlast, hread⟩
    · obtain ⟨other, hother, hsame⟩ := h
      obtain rfl : other = result :=
        (List.mem_cons.mp hother).resolve_right fun hmem => hrest ⟨other, hmem, hsame⟩
      refine ⟨other, List.mem_cons_self, ?_⟩
      rw [if_pos hsame, readAfter_of_none_same]
      exact fun later hlater => Bool.eq_false_iff.mpr fun heq => hrest ⟨later, hlater, heq⟩

end PairingResult

/-- The reports of pairings with plain names are at the same place only if the names are equal. -/
theorem PairingResult.names_of_same_place {output : Path} {first second : PairingResult}
    (hfirst : IsPlainName first.publisher ∧ IsPlainName first.subscriber)
    (hsecond : IsPlainName second.publisher ∧ IsPlainName second.subscriber)
    (h : (first.place output).same (second.place output) = true) : first.names = second.names := by
  have hfile : Report.fileName.IsName := ⟨by decide, by decide, by decide, by decide⟩
  have hcomponents := Path.same_iff.mp h
  rw [place, place, Report.pathIn, Report.pathIn, Path.components_join hfile,
    Path.components_join hfile, Path.components_join (isName_directory hfirst.1 hfirst.2),
    Path.components_join (isName_directory hsecond.1 hsecond.2)] at hcomponents
  have hlast := List.append_cancel_left (List.append_cancel_right hcomponents)
  have htext := Path.Component.name.inj (List.singleton_inj.mp hlast)
  have hlist := congrArg String.toList htext
  simp only [String.toList_append, List.append_assoc] at hlist
  obtain ⟨hpublisher, hsubscriber⟩ := hfirst.1.singleHyphened.eq_of_append
    hsecond.1.singleHyphened hlist
  exact Prod.ext (String.toList_inj.mp hpublisher) (String.toList_inj.mp hsubscriber)

/-! ## Reports of whole matrices -/

section

variable {σ : Type} [FileStore σ] {memory : σ → MemoryFiles}

/-- A pairing's report is read in the end if no later one was written under the same path. -/
theorem PairingResult.readAfter_eq_iff {output : Path} {moment : Timestamp}
    {earlier later : List PairingResult} {result : PairingResult}
    (hnew : result.names ∉ later.map names) (before : Except FileError String) :
    readAfter output moment before (earlier ++ result :: later) (result.place output) =
        .ok (result.report moment).print ↔
      ∀ other ∈ later, (other.place output).same (result.place output) = false := by
  rw [readAfter, List.foldl_append, List.foldl_cons, if_pos (Path.same_self _), ← readAfter]
  refine ⟨fun hread other hother => Bool.eq_false_iff.mpr fun hsame => hnew ?_,
    fun hnone => readAfter_of_none_same hnone _⟩
  obtain ⟨last, hlast, hreadLast⟩ :=
    readAfter_of_some_same ⟨other, hother, hsame⟩ (.ok (result.report moment).print)
  -- two equal texts show the same names
  have hprint : (last.report moment).print = (result.report moment).print :=
    Except.ok.inj (hreadLast.symm.trans hread)
  have hmoment : (last.report moment).generatedAt = (result.report moment).generatedAt := rfl
  obtain ⟨hpublisher, hsubscriber⟩ := Report.names_of_print_eq hmoment hprint
  exact List.mem_map.mpr ⟨last, hlast, Prod.ext hpublisher hsubscriber⟩

/-- A report is stored when its print is what is read under its path. -/
theorem PairingResult.isStored_iff {store : σ} {moment : Timestamp} {result : PairingResult}
    {path : Path} (h : result.reportPath = some path) :
    result.IsStored store moment ↔
      FileStore.read store path = .ok (result.report moment).print := by
  rw [IsStored, h]
  refine ⟨?_, fun hread => ⟨path, rfl, hread⟩⟩
  rintro ⟨other, hother, hread⟩
  obtain rfl := Option.some.inj hother
  exact hread

/-- A request that is carried out without being asked to stop has a result for every ordered pair of
its implementations, and writes their reports in this order. -/
theorem MatrixRequest.run_never (hmemory : InMemory memory) {request : MatrixRequest}
    {around : Surroundings σ} {implementations : List Implementation} {output : Path}
    (hvalid : request.validate = .ok implementations)
    (houtput : request.options.output = some output)
    (hkeeps : ∀ publisher subscriber, (around.theatre publisher subscriber).Keeps memory)
    (hnever : around.shutdown = .never) {matrix : MatrixResult}
    (h : (request.run around).result = .ok matrix) :
    matrix.pairings.map PairingResult.names =
        implementations.map Implementation.name ×ˢ implementations.map Implementation.name ∧
      (∀ result ∈ matrix.pairings, result.reportPath = some (result.place output)) ∧
      ∀ path, FileStore.read (request.run around).files path =
        PairingResult.readAfter output around.moment (FileStore.read around.files path)
          matrix.pairings path := by
  rw [run, hvalid] at h ⊢
  dsimp only at h ⊢
  split at h
  · cases h
  · rw [houtput] at h ⊢
    obtain ⟨-, hnames, hpaths, hread⟩ := Matrix.run_never hmemory hkeeps hnever h
    exact ⟨hnames.trans (Matrix.map_names_pairings implementations), hpaths, hread⟩

/-- No later pairing has the names of an earlier one. -/
theorem MatrixRequest.names_notMem_later {request : MatrixRequest}
    {implementations : List Implementation} (hvalid : request.validate = .ok implementations)
    {results earlier later : List PairingResult} {result : PairingResult}
    (hnames : results.map PairingResult.names =
      implementations.map Implementation.name ×ˢ implementations.map Implementation.name)
    (hsplit : results = earlier ++ result :: later) :
    result.names ∉ later.map PairingResult.names := by
  have hnodup := (nodup_of_validate hvalid).product (nodup_of_validate hvalid)
  rw [← hnames, hsplit, List.map_append, List.map_cons] at hnodup
  exact (List.nodup_cons.mp (List.nodup_append.mp hnodup).2.1).1

/-- A matrix of implementations with different names that runs to its end has one result for every
ordered pair of them. A result finds its own report under its path if and only if no later one has
the same path; if all names are plain, every result does. -/
theorem MatrixRequest.reports_of_run (hmemory : InMemory memory) {request : MatrixRequest}
    {around : Surroundings σ} {implementations : List Implementation} {output : Path}
    (hvalid : request.validate = .ok implementations)
    (houtput : request.options.output = some output)
    (hkeeps : ∀ publisher subscriber, (around.theatre publisher subscriber).Keeps memory)
    (hnever : around.shutdown = .never) {matrix : MatrixResult}
    (h : (request.run around).result = .ok matrix) :
    matrix.pairings.map PairingResult.names =
        implementations.map Implementation.name ×ˢ implementations.map Implementation.name ∧
      (∀ result ∈ matrix.pairings, result.reportPath = some (result.place output)) ∧
      (∀ earlier result later, matrix.pairings = earlier ++ result :: later →
        (result.IsStored (request.run around).files around.moment ↔
          ∀ other ∈ later, (other.place output).same (result.place output) = false)) ∧
      ((∀ implementation ∈ implementations, IsPlainName implementation.name) →
        ∀ result ∈ matrix.pairings,
          result.IsStored (request.run around).files around.moment) := by
  obtain ⟨hnames, hpaths, hread⟩ := run_never hmemory hvalid houtput hkeeps hnever h
  have hstored : ∀ earlier result later, matrix.pairings = earlier ++ result :: later →
      (result.IsStored (request.run around).files around.moment ↔
        ∀ other ∈ later, (other.place output).same (result.place output) = false) := by
    intro earlier result later hsplit
    have hmem : result ∈ matrix.pairings := hsplit ▸ List.mem_append_right _ List.mem_cons_self
    rw [PairingResult.isStored_iff (hpaths result hmem), hread, hsplit]
    exact PairingResult.readAfter_eq_iff (names_notMem_later hvalid hnames hsplit) _
  refine ⟨hnames, hpaths, hstored, fun hplain result hmem => ?_⟩
  obtain ⟨earlier, later, hsplit⟩ := List.append_of_mem hmem
  -- the names in a pairing are names of implementations
  have hplainNames : ∀ other ∈ matrix.pairings,
      IsPlainName other.publisher ∧ IsPlainName other.subscriber := by
    intro other hother
    have hpair : other.names ∈ matrix.pairings.map PairingResult.names :=
      List.mem_map_of_mem hother
    rw [hnames] at hpair
    obtain ⟨hpublisher, hsubscriber⟩ := List.mem_product.mp hpair
    obtain ⟨_, hfirst, heqFirst⟩ := List.mem_map.mp hpublisher
    obtain ⟨_, hsecond, heqSecond⟩ := List.mem_map.mp hsubscriber
    exact ⟨heqFirst ▸ hplain _ hfirst, heqSecond ▸ hplain _ hsecond⟩
  refine (hstored earlier result later hsplit).mpr fun other hother => ?_
  have hotherMem : other ∈ matrix.pairings :=
    hsplit ▸ List.mem_append_right _ (List.mem_cons_of_mem _ hother)
  -- plain names make one place only for the same pairing, which does not come again
  refine Bool.eq_false_iff.mpr fun hsame => names_notMem_later hvalid hnames hsplit ?_
  exact List.mem_map.mpr ⟨other, hother,
    PairingResult.names_of_same_place (hplainNames other hotherMem) (hplainNames result hmem) hsame⟩

end

/-- A matrix of two implementations, one of which is named like a pairing of the other one. -/
def MatrixRequest.twins : MatrixRequest where
  implementations := ["dds=/opt/dds", "dds--dds=/opt/twin"]
  selection := ⟨[], ["Test_Domain_0"], []⟩
  options := { RunOptions.standard with output := some ⟨"/out"⟩ }

/-- A matrix of two implementations with plain names. -/
def MatrixRequest.strangers : MatrixRequest where
  implementations := ["dds=/opt/dds", "-d-s=/opt/other"]
  selection := ⟨[], ["Test_Domain_0"], []⟩
  options := { RunOptions.standard with output := some ⟨"/out"⟩ }

/-- Surroundings with no files, in which no application can be started. -/
def Surroundings.bare : Surroundings MemoryFiles where
  theatre _ _ := Stage.theatre fun role parameters => .error (.noScript role parameters)
  moment := ⟨0⟩
  shutdown := .never
  files := .empty

theorem Surroundings.bare_keeps (publisher subscriber : Implementation) :
    (bare.theatre publisher subscriber).Keeps (id : MemoryFiles → MemoryFiles) :=
  fun _ _ _ _ => rfl

/-- Two implementations with plain names: all four reports are found. -/
theorem MatrixRequest.reports_of_run_strangers :
    strangers.validate = .ok [⟨"dds", ⟨"/opt/dds"⟩⟩, ⟨"-d-s", ⟨"/opt/other"⟩⟩] ∧
      strangers.options.output = some ⟨"/out"⟩ ∧
      (∀ publisher subscriber, (Surroundings.bare.theatre publisher subscriber).Keeps
        (id : MemoryFiles → MemoryFiles)) ∧
      Surroundings.bare.shutdown = .never ∧
      ∃ matrix, (strangers.run .bare).result = .ok matrix ∧
        matrix.pairings.map PairingResult.names =
          [("dds", "dds"), ("dds", "-d-s"), ("-d-s", "dds"), ("-d-s", "-d-s")] ∧
        ∀ result ∈ matrix.pairings,
          result.IsStored (strangers.run .bare).files Surroundings.bare.moment := by
  have hvalid : strangers.validate =
      .ok [⟨"dds", ⟨"/opt/dds"⟩⟩, ⟨"-d-s", ⟨"/opt/other"⟩⟩] := by decide
  have hplain : IsPlainName "dds" ∧ IsPlainName "-d-s" :=
    ⟨⟨by decide, by decide, by decide⟩, ⟨by decide, by decide, by decide⟩⟩
  have hended : (strangers.run .bare).result.isOk = true := by decide +kernel
  obtain ⟨matrix, hmatrix⟩ := eq_ok_of_isOk hended
  obtain ⟨hnames, -, -, hstored⟩ :=
    reports_of_run inMemory_memoryFiles hvalid rfl Surroundings.bare_keeps rfl hmatrix
  refine ⟨hvalid, rfl, Surroundings.bare_keeps, rfl, matrix, hmatrix, hnames, hstored ?_⟩
  intro implementation hmem
  rcases List.mem_cons.mp hmem with rfl | hmem
  · exact hplain.1
  · rcases List.mem_singleton.mp hmem with rfl
    exact hplain.2

/-- The reports of two pairings have the same path, so the first one is lost. -/
theorem MatrixRequest.report_of_twins_lost :
    twins.validate = .ok [⟨"dds", ⟨"/opt/dds"⟩⟩, ⟨"dds--dds", ⟨"/opt/twin"⟩⟩] ∧
      twins.options.output = some ⟨"/out"⟩ ∧ Surroundings.bare.shutdown = .never ∧
      ∃ matrix, (twins.run .bare).result = .ok matrix ∧
        ∃ first ∈ matrix.pairings, ∃ second ∈ matrix.pairings,
          first.names = ("dds", "dds--dds") ∧ second.names = ("dds--dds", "dds") ∧
          first.reportPath = second.reportPath ∧
          ¬ first.IsStored (twins.run .bare).files Surroundings.bare.moment := by
  have hvalid : twins.validate =
      .ok [⟨"dds", ⟨"/opt/dds"⟩⟩, ⟨"dds--dds", ⟨"/opt/twin"⟩⟩] := by decide
  have hended : (twins.run .bare).result.isOk = true := by decide +kernel
  obtain ⟨matrix, hmatrix⟩ := eq_ok_of_isOk hended
  obtain ⟨hnames, hpaths, hread⟩ :=
    run_never inMemory_memoryFiles hvalid rfl Surroundings.bare_keeps rfl hmatrix
  obtain ⟨zeroth, others, hpairings, -, hothers⟩ := List.map_eq_cons_iff.mp hnames
  obtain ⟨first, others, rfl, hfirst, hothers⟩ := List.map_eq_cons_iff.mp hothers
  obtain ⟨second, others, rfl, hsecond, -⟩ := List.map_eq_cons_iff.mp hothers
  have hsplit : matrix.pairings = [zeroth] ++ first :: second :: others := hpairings
  -- both directories are called "dds--dds--dds"
  have hplace : first.place ⟨"/out"⟩ = second.place ⟨"/out"⟩ := by
    show Report.pathIn (Path.join ⟨"/out"⟩ ⟨first.names.1 ++ "--" ++ first.names.2⟩) =
      Report.pathIn (Path.join ⟨"/out"⟩ ⟨second.names.1 ++ "--" ++ second.names.2⟩)
    rw [hfirst, hsecond]
    decide
  have hfirstMem : first ∈ matrix.pairings := by rw [hsplit]; simp
  have hsecondMem : second ∈ matrix.pairings := by rw [hsplit]; simp
  refine ⟨hvalid, rfl, rfl, matrix, hmatrix, first, hfirstMem, second, hsecondMem, hfirst,
    hsecond, ?_, ?_⟩
  · rw [hpaths first hfirstMem, hpaths second hsecondMem, hplace]
  · rw [PairingResult.isStored_iff (hpaths first hfirstMem), hread, hsplit,
      PairingResult.readAfter_eq_iff (names_notMem_later hvalid hnames hsplit)]
    intro hdiffer
    have hsecondDiffers := hdiffer second List.mem_cons_self
    rw [hplace, Path.same_self] at hsecondDiffers
    cases hsecondDiffers

end PubSubTrials
