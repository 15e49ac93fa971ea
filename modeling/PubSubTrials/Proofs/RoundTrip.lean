import PubSubTrials.Proofs.Layout
import PubSubTrials.Proofs.Storage

/-!
# Reports that are read back

A report whose numbers are below `2 ^ 64` is read back from its text, whatever its names, parameters
and outputs hold (`parse_print`): every record of a report is filled by its fields in the order in
which they are printed. Hence what was saved in memory is the report that is found there
(`parse_saved`).
-/

namespace PubSubTrials

/-- Whether totals are below `2 ^ 64`. -/
structure Totals.Fit (totals : Totals) : Prop where
  cases_lt : totals.cases < 2 ^ 64
  passed_lt : totals.passed < 2 ^ 64
  failed_lt : totals.failed < 2 ^ 64

namespace Report

open Json Reader Suite

/-- Whether all numbers of a report are below `2 ^ 64`. -/
structure Fits (report : Report) : Prop where
  totals_fit : report.totals.Fit
  duration_lt : ∀ case ∈ report.cases, case.durationMillis < 2 ^ 64

/-! ## Entities -/

theorem reads_role (role : Role) : Reads readRole (printString role.name) role :=
  reads_named _ (Role.ofName?_name role)

theorem reads_outcome (outcome : Outcome) :
    Reads readOutcome (printString outcome.name) outcome :=
  reads_named _ (Outcome.ofName?_name outcome)

/-- An entity is read back, with its output if it has one. -/
theorem reads_entity (entity : ReportedEntity) (depth : Nat) :
    Reads readEntity (printEntity depth entity) entity := by
  have hfills : entityRecord.Fills ⟨none, none, none, none, none, none⟩
      ([("label", printString entity.label), ("role", printString entity.role.name),
        ("parameters", printString entity.parameters),
        ("expected", printString entity.expected.name),
        ("actual", printString entity.actual.name)] ++
        (entity.output.map (fun text => ("output", printString text))).toList)
      ⟨some entity.label, some entity.role, some entity.parameters, some entity.expected,
        some entity.actual, entity.output.map some⟩ := by
    refine .step _ rfl rfl ((reads_string entity.label).map _) ?_
    refine .step _ rfl rfl ((reads_role entity.role).map _) ?_
    refine .step _ rfl rfl ((reads_string entity.parameters).map _) ?_
    refine .step _ rfl rfl ((reads_outcome entity.expected).map _) ?_
    refine .step _ rfl rfl ((reads_outcome entity.actual).map _) ?_
    -- an output that is left out is not printed at all
    cases entity.output with
    | none => exact .done _
    | some text => exact .step _ rfl rfl ((reads_orNull_string text).map _) (.done _)
  have hread := (Record.reads hfills rfl depth).map EntityFields.toEntity
  obtain ⟨label, role, parameters, expected, actual, output⟩ := entity
  cases output with
  | none => exact hread
  | some text => exact hread

/-! ## Cases and totals -/

/-- A reported case is read back, its members in the order in which they are printed. -/
theorem reads_case {case : ReportedCase} (h : case.durationMillis < 2 ^ 64) (depth : Nat) :
    Reads readCase (printCase depth case) case := by
  have hfills : caseRecord.Fills ⟨none, none, none, none⟩
      [("name", printString case.name), ("passed", printBool case.passed),
        ("duration_ms", printNat case.durationMillis),
        ("entities", printList (depth + 1) (case.entities.map (printEntity (depth + 2))))]
      ⟨some case.name, some case.passed, some case.durationMillis, some case.entities⟩ := by
    have hentities := reads_list (fun entity (_ : entity ∈ case.entities) =>
      reads_entity entity (depth + 2)) (depth + 1)
    refine .step _ rfl rfl ((reads_string case.name).map _) ?_
    refine .step _ rfl rfl ((reads_bool case.passed).map _) ?_
    refine .step _ rfl rfl ((reads_natural "u64" h).map _) ?_
    exact .step _ rfl rfl (hentities.map _) (.done _)
  exact (Record.reads hfills rfl depth).map CaseFields.toCase

theorem reads_totals {totals : Totals} (h : totals.Fit) (depth : Nat) :
    Reads readTotals (printTotals depth totals) totals := by
  have hfills : totalsRecord.Fills ⟨none, none, none⟩
      [("cases", printNat totals.cases), ("passed", printNat totals.passed),
        ("failed", printNat totals.failed)]
      ⟨some totals.cases, some totals.passed, some totals.failed⟩ := by
    refine .step _ rfl rfl ((reads_natural "usize" h.cases_lt).map _) ?_
    refine .step _ rfl rfl ((reads_natural "usize" h.passed_lt).map _) ?_
    exact .step _ rfl rfl ((reads_natural "usize" h.failed_lt).map _) (.done _)
  exact (Record.reads hfills rfl depth).map TotalsFields.toTotals

/-! ## Reports -/

/-- A report is read back from its text. -/
theorem parse_print {report : Report} (h : report.Fits) : parse report.print = .ok report := by
  have hfills : reportRecord.Fills ⟨none, none, none, none, none, none⟩
      [("generated_at", printString report.generatedAt),
        ("publisher", printString report.publisher),
        ("subscriber", printString report.subscriber),
        ("interrupted", printBool report.interrupted),
        ("totals", printTotals 1 report.totals),
        ("cases", printList 1 (report.cases.map (printCase 2)))]
      ⟨some report.generatedAt, some report.publisher, some report.subscriber,
        some report.interrupted, some report.totals, some report.cases⟩ := by
    have hcases := reads_list (fun case hcase => reads_case (h.duration_lt case hcase) 2) 1
    refine .step _ rfl rfl ((reads_string report.generatedAt).map _) ?_
    refine .step _ rfl rfl ((reads_string report.publisher).map _) ?_
    refine .step _ rfl rfl ((reads_string report.subscriber).map _) ?_
    refine .step _ rfl rfl ((reads_bool report.interrupted).map _) ?_
    refine .step _ rfl rfl ((reads_totals h.totals_fit 1).map _) ?_
    exact .step _ rfl rfl (hcases.map _) (.done _)
  have hread := (Record.reads hfills rfl 0).map ReportFields.toReport
  rw [parse, print, String.toList_ofList]
  exact decode_of_reads hread

/-- The text of a report shows who published and who subscribed. -/
theorem names_of_print_eq {a b : Report} (hmoment : a.generatedAt = b.generatedAt)
    (h : a.print = b.print) : a.publisher = b.publisher ∧ a.subscriber = b.subscriber := by
  have htext := congrArg String.toList h
  rw [print, print, String.toList_ofList, String.toList_ofList, hmoment] at htext
  simp only [printObject, List.map_cons, printBetween_cons, following,
    List.flatMap_cons, List.append_assoc, List.cons_append, List.cons.injEq, true_and,
    List.append_cancel_left_eq] at htext
  obtain ⟨hpublisher, htext⟩ := printString_append_inj htext
  simp only [List.cons.injEq, true_and, List.append_cancel_left_eq] at htext
  exact ⟨hpublisher, (printString_append_inj htext).1⟩

/-- The report of a series has numbers that fit, if the series is no longer than a list in memory
can be. -/
theorem fits_ofSeries {series : SeriesResult} (h : series.cases.length < 2 ^ 64)
    (publisher subscriber : String) (moment : Timestamp) :
    (ofSeries series publisher subscriber moment).Fits where
  totals_fit :=
    have hpassed : series.passed ≤ series.cases.length := List.countP_le_length
    { cases_lt := h
      passed_lt := Nat.lt_of_le_of_lt hpassed h
      failed_lt := Nat.lt_of_le_of_lt (Nat.sub_le _ _) h }
  duration_lt reported hreported := by
    obtain ⟨case, -, rfl⟩ := List.mem_map.mp hreported
    -- milliseconds are cut off at the largest number
    exact Nat.lt_of_le_of_lt (Nat.min_le_right _ _) (by decide)

/-- Saving in memory always succeeds. -/
theorem save_memoryFiles (report : Report) (directory : Path) (store : MemoryFiles) :
    ∃ after, report.save directory store = (.ok (pathIn directory), after) :=
  ⟨_, rfl⟩

/-- A report is the same after it was printed and read back, and so is the report of a series, of
two names and a moment after it was saved in memory. -/
theorem parse_saved :
    (∀ report : Report, report.Fits → parse report.print = .ok report) ∧
      ∀ (series : SeriesResult) (publisher subscriber : String) (moment : Timestamp)
        (directory : Path) (store : MemoryFiles), series.cases.length < 2 ^ 64 →
          ∃ text after,
            (ofSeries series publisher subscriber moment).save directory store =
              (.ok (pathIn directory), after) ∧
            FileStore.read after (pathIn directory) = .ok text ∧
            parse text = .ok (ofSeries series publisher subscriber moment) := by
  refine ⟨fun report => parse_print, ?_⟩
  intro series publisher subscriber moment directory store hlength
  obtain ⟨after, hsave⟩ :=
    save_memoryFiles (ofSeries series publisher subscriber moment) directory store
  obtain ⟨-, hread⟩ := read_of_save inMemory_memoryFiles hsave
  refine ⟨_, after, hsave, ?_, parse_print (fits_ofSeries hlength publisher subscriber moment)⟩
  rw [hread, if_pos (Path.same_self _)]

/-- A case that did not pass, with an entity that printed quotes and control characters. -/
def garbled : CaseResult where
  name := "\"names\" \\ \x7f \u00e9 \u20ac 🦀"
  entities :=
    [⟨"P0", .publisher, "-t Square\t-w", .ok, .dataNotSent, "\x00\x1b[1m\\u0041\x08\x0c\r\n"⟩,
      ⟨"S0", .subscriber, "", .ok, .ok, ""⟩]
  duration := .ofMillis 1500

/-- A report with the largest numbers, and a case whose entities print what has to be escaped; also
saved as the result of a series. -/
theorem parse_saved_garbled :
    let report : Report :=
      ⟨"", "a/\"b", "\n", true, ⟨2 ^ 64 - 1, 0, 2 ^ 64 - 1⟩,
        [reportCase garbled, ⟨"none", true, 2 ^ 64 - 1, []⟩]⟩
    let series : SeriesResult := ⟨[garbled], false⟩
    report.Fits ∧ parse report.print = .ok report ∧ series.cases.length < 2 ^ 64 ∧
      ∃ text after,
        (ofSeries series "a/\"b" "\n" ⟨0⟩).save ⟨"/out"⟩ MemoryFiles.empty =
          (.ok (pathIn ⟨"/out"⟩), after) ∧
        FileStore.read after (pathIn ⟨"/out"⟩) = .ok text ∧
        parse text = .ok (ofSeries series "a/\"b" "\n" ⟨0⟩) := by
  intro report series
  have hfits : report.Fits := ⟨⟨by decide, by decide, by decide⟩, by decide⟩
  exact ⟨hfits, parse_saved.1 report hfits, by decide,
    parse_saved.2 series "a/\"b" "\n" ⟨0⟩ ⟨"/out"⟩ .empty (by decide)⟩

end Report

end PubSubTrials
