import Mathlib.Data.List.Forall2
import PubSubTrials.Proofs.Interruptions
import PubSubTrials.Report.Summary

/-!
# Verdicts

The verdict on a run is told in several ways: by the results, by the report and its totals, by the
summary, and by the exit code. They are worked out apart from each other, and they agree
(`RunRequest.verdicts_agree`): each case is told alike (`ReportedCase.Tells`), the cases are those
that began according to the journal (`Series.begun_of_run`), and the totals decide what the summary
and the exit code say.
-/

namespace PubSubTrials

/-! ## Cases -/

namespace CaseResult

theorem passed_iff_offenders (result : CaseResult) :
    result.passed = true ↔ result.offenders = [] := by
  unfold passed offenders
  rw [List.all_eq_true, List.filter_eq_nil_iff]
  simp

/-- A case has passed if there is nothing to be said about it. -/
theorem passed_iff_mismatches (result : CaseResult) :
    result.passed = true ↔ result.mismatches = [] := by
  rw [passed_iff_offenders, mismatches, List.map_eq_nil_iff]

/-- A case has passed when there is nothing to be said about it. -/
theorem passed_iff_diagnostics (result : CaseResult) :
    result.passed = true ↔ result.diagnostics = [] := by
  rw [passed_iff_offenders, diagnostics, List.flatMap_eq_nil_iff]
  constructor
  · intro hnone entity hentity
    rw [hnone] at hentity
    cases hentity
  · -- every offender has at least one line
    intro hsilent
    apply List.eq_nil_iff_forall_not_mem.mpr
    intro entity hentity
    have hlines := hsilent entity hentity
    simp [EntityResult.diagnostics] at hlines

end CaseResult

/-- Whether an entry of a report tells what came of a case: who took part and how they did, that the
case has passed precisely if all of them did what was expected, and what they printed if it has
not. -/
structure ReportedCase.Tells (entry : ReportedCase) (case : CaseResult) : Prop where
  name : entry.name = case.name
  passed : entry.passed = case.passed
  entities : List.Forall₂ (fun shown entity => shown.label = entity.label ∧
    shown.role = entity.role ∧ shown.parameters = entity.parameters ∧
    shown.expected = entity.expected ∧ shown.actual = entity.actual ∧
    shown.output = if entry.passed then none else some entity.output) entry.entities case.entities
  passed_iff_met : entry.passed = true ↔ ∀ entity ∈ entry.entities, entity.expected = entity.actual
  passed_iff_mismatches : entry.passed = true ↔ case.mismatches = []
  passed_iff_diagnostics : entry.passed = true ↔ case.diagnostics = []
  passed_iff_silent : entry.passed = true ↔ case.mismatches = [] ∧ case.diagnostics = []
  output_iff : ∀ entity ∈ entry.entities, entity.output.isSome = true ↔ entry.passed = false

namespace Report

theorem tells_reportCase (case : CaseResult) : (reportCase case).Tells case where
  name := rfl
  passed := rfl
  entities := by
    rw [reportCase, List.forall₂_map_left_iff, List.forall₂_same]
    intro entity _
    refine ⟨rfl, rfl, rfl, rfl, rfl, ?_⟩
    cases case.passed <;> simp [reportEntity]
  passed_iff_met := by
    simp [reportCase, reportEntity, CaseResult.passed, EntityResult.meets]
  passed_iff_mismatches := case.passed_iff_mismatches
  passed_iff_diagnostics := case.passed_iff_diagnostics
  passed_iff_silent := by
    have hmismatches := case.passed_iff_mismatches
    have hdiagnostics := case.passed_iff_diagnostics
    simp only [reportCase]
    tauto
  output_iff := by
    intro shown hshown
    obtain ⟨entity, -, rfl⟩ := List.mem_map.mp hshown
    cases hpassed : case.passed <;> simp [reportCase, reportEntity, hpassed]

end Report

/-! ## Totals -/

namespace SeriesResult

theorem passed_le (series : SeriesResult) : series.passed ≤ series.cases.length :=
  List.countP_le_length

/-- Every case has passed if none has failed. -/
theorem allPassed_iff (series : SeriesResult) : series.allPassed = true ↔ series.failed = 0 := by
  have hle := series.passed_le
  have hall : series.allPassed = true ↔ series.passed = series.cases.length := by
    rw [allPassed, passed, List.all_eq_true, List.countP_eq_length]
  rw [hall, failed]
  omega

/-- The exit code by the totals. -/
theorem exitCode_eq (series : SeriesResult) :
    exitCode series.allPassed series.interrupted =
      if series.interrupted then 130 else if series.failed = 0 then 0 else 3 := by
  unfold exitCode
  simp only [allPassed_iff]

/-- A series that took no time has a duration. -/
theorem duration?_eq_zero {series : SeriesResult}
    (h : ∀ case ∈ series.cases, case.duration = .zero) : series.duration? = some .zero := by
  obtain ⟨cases, interrupted⟩ := series
  unfold duration? Duration.sum?
  dsimp only at h ⊢
  induction cases with
  | nil => rfl
  | cons case rest ih =>
    have hadd : Duration.zero.add? .zero = some .zero := by decide
    rw [List.map_cons, List.foldlM_cons, h case List.mem_cons_self, hadd]
    exact ih (fun other hother => h other (List.mem_cons_of_mem _ hother))

end SeriesResult

/-- Whether a report tells what came of a series: every case, how many there are, how many of them
have passed, and whether it was interrupted. -/
structure Report.Tells (report : Report) (series : SeriesResult) : Prop where
  cases : List.Forall₂ ReportedCase.Tells report.cases series.cases
  total : report.totals.cases = report.cases.length
  sum : report.totals.passed + report.totals.failed = report.totals.cases
  passed : report.totals.passed = report.cases.countP ReportedCase.passed
  interrupted : report.interrupted = series.interrupted

/-- What is reported of a series tells of that series. -/
theorem Report.tells_ofSeries (series : SeriesResult) (publisher subscriber : String)
    (moment : Timestamp) : (ofSeries series publisher subscriber moment).Tells series where
  cases := by
    rw [ofSeries, List.forall₂_map_left_iff, List.forall₂_same]
    intro case _
    exact tells_reportCase case
  total := by simp [ofSeries]
  sum := Nat.add_sub_cancel' series.passed_le
  passed := by simp [ofSeries, SeriesResult.passed, List.countP_map, Function.comp_def, reportCase]
  interrupted := rfl

namespace Summary

/-- The last lines of a summary by the totals of a report. -/
def closing (report : Report) (time : Duration) : List String :=
  ["", "test result: " ++ (if report.totals.failed = 0 then "ok" else "FAILED") ++ ". " ++
    toString report.totals.passed ++ " passed; " ++ toString report.totals.failed ++
    " failed; finished in " ++ renderTime time ++ "s"] ++
  if report.interrupted then ["interrupted: remaining test cases were skipped"] else []

/-- A summary ends as the report says. -/
theorem render_of_duration {series : SeriesResult} {time : Duration}
    (h : series.duration? = some time) (publisher subscriber : String) (moment : Timestamp) :
    render publisher subscriber series =
      some (String.join (((publisher ++ " -> " ++ subscriber) :: series.cases.flatMap caseLines ++
        closing (.ofSeries series publisher subscriber moment) time).map
          (fun line => line ++ "\n"))) := by
  have hverdict : (if series.allPassed then "ok" else "FAILED") =
      if series.failed = 0 then "ok" else "FAILED" := by
    by_cases hfailed : series.failed = 0
    · rw [if_pos (series.allPassed_iff.mpr hfailed), if_pos hfailed]
    · rw [if_neg (fun hall => hfailed (series.allPassed_iff.mp hall)), if_neg hfailed]
  unfold render lines totalsLine closing
  simp only [h, Option.map_some, hverdict, Report.ofSeries, List.append_assoc]
  rfl

end Summary

/-! ## The cases that ran -/

/-- The case that begins with an event, if one does. -/
def Event.begun? : Event → Option String
  | began case => some case
  | _ => none

/-- The names of the cases that began, in order. -/
def begun (journal : List Event) : List String :=
  journal.filterMap Event.begun?

theorem begun_append (first second : List Event) :
    begun (first ++ second) = begun first ++ begun second :=
  List.filterMap_append

theorem begun_eq_nil {journal : List Event} (h : ∀ event ∈ journal, event.begun? = none) :
    begun journal = [] :=
  List.filterMap_eq_nil_iff.mpr h

namespace Trial

/-- Nothing begins once all entities have taken their seats. -/
theorem begun_play (settings : Settings) (case : Case) (seats : List Seat) :
    begun (play settings case seats).1 = [] := by
  have hobserved : begun ((accounts settings case seats).flatMap
      fun observed => observedEvents observed.1 observed.2) = [] := by
    apply begun_eq_nil
    intro event hevent
    obtain ⟨observed, -, hevent⟩ := List.mem_flatMap.mp hevent
    obtain ⟨entry, -, rfl⟩ := List.mem_map.mp hevent
    rfl
  have hlogged : ∀ entries : List LogEntry, begun (entries.map Event.logged) = [] := by
    intro entries
    apply begun_eq_nil
    intro event hevent
    obtain ⟨entry, -, rfl⟩ := List.mem_map.mp hevent
    rfl
  exact (begun_append _ _).trans (congrArg₂ _ hobserved (hlogged _))

/-- A case with a result has begun once. -/
theorem begun_runIn {σ : Type} {settings : Settings} {theatre : Theatre σ} {case : Case} {state : σ}
    {result : CaseResult} (h : (runIn settings theatre case state).1.2 = .ok result) :
    begun (runIn settings theatre case state).1.1 = [case.name] := by
  obtain ⟨start, hpacing, -, hrun⟩ := exists_play_of_runIn h
  have hstart : begun start.journal = [] := by
    apply begun_eq_nil
    intro event hevent
    have hlaunch := hpacing event hevent
    cases event <;> first | rfl | cases hlaunch
  have hprologue : begun (prologue settings case start) = [case.name] :=
    congrArg (List.cons case.name) hstart
  rw [hrun]
  exact (begun_append _ _).trans (congrArg₂ _ hprologue (begun_play settings case start.seats))

end Trial

/-- The cases that begin in a series are those that have results: the first ones, and all of them if
the series is not interrupted. -/
theorem Series.begun_of_run {σ : Type} {settings : Settings} {theatre : Theatre σ}
    {cases : List Case} {shutdown : Shutdown} {state : σ} {series : SeriesResult}
    (h : (run settings theatre cases shutdown state).result = .ok series) :
    begun (run settings theatre cases shutdown state).journal =
        series.cases.map CaseResult.name ∧
      series.cases.map CaseResult.name <+: cases.map Case.name ∧
      (series.interrupted = false →
        series.cases.map CaseResult.name = cases.map Case.name) ∧
      ∀ case ∈ series.cases, case.duration = .zero := by
  -- induction on the cases, with the shutdown asked before each of them
  induction cases generalizing shutdown state series with
  | nil =>
    obtain rfl := Except.ok.inj h
    simp [run, begun]
  | cons case rest ih =>
    unfold run at h ⊢
    generalize shutdown.check = answer at h ⊢
    obtain ⟨stop, shutdown⟩ := answer
    cases stop with
    | true =>
      obtain rfl := Except.ok.inj h
      simp [begun, Event.begun?]
    | false =>
      dsimp only at h ⊢
      generalize hrun : Trial.runIn settings theatre case state = played at h ⊢
      obtain ⟨⟨events, answer⟩, next⟩ := played
      cases answer with
      | error error => cases h
      | ok result =>
        obtain ⟨others, hothers, rfl⟩ := eq_ok_of_map_eq_ok h
        obtain ⟨hjournal, hprefix, hall, hdurations⟩ := ih hothers
        have hresult : (Trial.runIn settings theatre case state).1.2 = .ok result := by rw [hrun]
        obtain ⟨hname, hduration⟩ := Trial.of_runIn_ok hresult
        have hevents : begun events = [case.name] := by
          have hbegun := Trial.begun_runIn hresult
          rwa [hrun] at hbegun
        refine ⟨?_, ?_, ?_, ?_⟩
        · show begun (events ++ .logged (verdictEntry result) ::
            (run settings theatre rest shutdown next).journal) = _
          rw [begun_append, hevents, List.map_cons, hname, ← hjournal]
          rfl
        · rw [List.map_cons, List.map_cons, hname]
          exact List.cons_prefix_cons.mpr ⟨rfl, hprefix⟩
        · intro hinterrupted
          rw [List.map_cons, List.map_cons, hname, hall hinterrupted]
        · intro other hother
          rcases List.mem_cons.mp hother with rfl | hmem
          · exact hduration
          · exact hdurations other hmem

/-! ## Runs -/

/-- A run that comes to a result is that of its pairing on the cases selected. -/
theorem RunRequest.run_of_ok {σ : Type} [FileStore σ] {request : RunRequest}
    {around : Surroundings σ} {result : PairingResult}
    (h : (request.run around).result = .ok result) :
    ∃ cases, request.selection.resolve around.files = .ok cases ∧
      request.run around =
        request.pairing.run around request.options.settings cases request.options.output := by
  unfold run at h ⊢
  split at h
  · cases h
  · rename_i hvalid
    split at h
    · cases h
    · rename_i cases hcases
      exact ⟨cases, hcases, rfl⟩

/-- What a run with a report comes to, however it was stopped: the report that is saved, and read
back from files in memory, lists the cases that ran, in order, and tells what came of them; the
summary ends with its totals, and says "ok" if no case has failed; and the exit code follows from
it. -/
theorem RunRequest.verdicts_agree {σ : Type} [FileStore σ] {request : RunRequest}
    {around : Surroundings σ} {output : Path} (houtput : request.options.output = some output)
    {result : PairingResult} (h : (request.run around).result = .ok result) :
    ∃ (report : Report) (before : σ) (cases : List Case) (time : Duration),
      report.save output before = (.ok (Report.pathIn output), (request.run around).files) ∧
      result.reportPath = some (Report.pathIn output) ∧
      (∀ memory : σ → MemoryFiles, InMemory memory →
        FileStore.read (request.run around).files (Report.pathIn output) = .ok report.print) ∧
      (report.totals.cases < 2 ^ 64 → Report.parse report.print = .ok report) ∧
      report.Tells result.series ∧
      report.cases.map ReportedCase.name = begun (request.run around).journal ∧
      request.selection.resolve around.files = .ok cases ∧
      report.cases.map ReportedCase.name <+: cases.map Case.name ∧
      (report.interrupted = false → report.cases.map ReportedCase.name = cases.map Case.name) ∧
      Summary.render result.publisher result.subscriber result.series =
        some (String.join (((result.publisher ++ " -> " ++ result.subscriber) ::
          result.series.cases.flatMap Summary.caseLines ++ Summary.closing report time).map
            (fun line => line ++ "\n"))) ∧
      result.exitCode =
        if report.interrupted then 130 else if report.totals.failed = 0 then 0 else 3 := by
  obtain ⟨cases, hcases, hrun⟩ := run_of_ok h
  rw [hrun, houtput] at h ⊢
  obtain ⟨series, before, hseries, -, rfl, hsave, -, hjournal⟩ := Pairing.exists_of_run_saved h
  obtain ⟨hbegun, hprefix, hall, hdurations⟩ := Series.begun_of_run hseries
  have hnames : (request.pairing.report series around.moment).cases.map ReportedCase.name =
      series.cases.map CaseResult.name := by
    simp [Pairing.report, Report.ofSeries, Report.reportCase]
  refine ⟨request.pairing.report series around.moment, before, cases, .zero, hsave, rfl, ?_, ?_,
    Report.tells_ofSeries _ _ _ _, ?_, hcases, ?_, ?_, ?_, series.exitCode_eq⟩
  · intro memory hmemory
    rw [(Report.read_of_save hmemory hsave).2, if_pos (Path.same_self _)]
  · intro hfits
    exact Report.parse_print (Report.fits_ofSeries hfits _ _ _)
  · -- around the series the journal tells of no case
    have hframe : ∀ event : Event, event.begun? = none → begun [event] = [] := by
      intro event hevent
      exact begun_eq_nil (by simp [hevent])
    rw [hnames, hjournal, begun_append, begun_append, hframe _ rfl, hframe _ rfl, List.nil_append,
      List.append_nil]
    exact hbegun.symm
  · rw [hnames]
    exact hprefix
  · intro hinterrupted
    rw [hnames, hall hinterrupted]
  · exact Summary.render_of_duration (SeriesResult.duration?_eq_zero hdurations) _ _ _

/-- A run of two cases. -/
def RunRequest.brief : RunRequest where
  publisher := ⟨"/opt/dds"⟩
  subscriber := ⟨"/opt/other"⟩
  selection := ⟨[], ["Test_Domain_0", "Test_Color_0"], []⟩
  options := { RunOptions.standard with output := some ⟨"/out"⟩ }

/-- A run that is stopped after its first case, which has failed: the report lists this case, and
the exit code tells of the interruption. -/
theorem RunRequest.verdicts_agree_brief :
    brief.options.output = some ⟨"/out"⟩ ∧
      ∃ (result : PairingResult) (report : Report) (before : MemoryFiles),
      (brief.run { Surroundings.bare with shutdown := .after 1 }).result = .ok result ∧
      report.save ⟨"/out"⟩ before = (.ok (Report.pathIn ⟨"/out"⟩),
        (brief.run { Surroundings.bare with shutdown := .after 1 }).files) ∧
      report.cases.map ReportedCase.name = ["Test_Domain_0"] ∧ report.Tells result.series ∧
      result.exitCode = 130 := by
  have hbegun : begun (brief.run { Surroundings.bare with shutdown := .after 1 }).journal =
      ["Test_Domain_0"] := by
    decide +kernel
  have hcode : (brief.run { Surroundings.bare with shutdown := .after 1 }).result.map
      PairingResult.exitCode = .ok 130 := by
    decide +kernel
  obtain ⟨result, hresult, hexit⟩ := eq_ok_of_map_eq_ok hcode
  obtain ⟨report, before, cases, time, hsave, -, -, -, htells, hnames, -⟩ :=
    verdicts_agree rfl hresult
  exact ⟨rfl, result, report, before, hresult, hsave, hnames.trans hbegun, htells, hexit⟩

end PubSubTrials
