import PubSubTrials.Proofs.Series

/-!
# What a pairing leaves behind

A pairing with a result has run its cases and then saved their report, if there is a directory for
it (`Pairing.exists_of_run_ok`); the report is at its place in the directory
(`Pairing.exists_of_run_saved`).
-/

namespace PubSubTrials

/-- Save a report if there is a directory for it. -/
def Report.saveIfWanted {σ : Type} [FileStore σ] (report : Report) (directory : Option Path)
    (store : σ) : Except ReportError (Option Path) × σ :=
  match directory with
  | none => (.ok none, store)
  | some directory =>
    let saved := report.save directory store
    (saved.1.map some, saved.2)

section

variable {σ : Type} [FileStore σ] {around : Surroundings σ} {settings : Settings}
  {cases : List Case} {pairing : Pairing} {result : PairingResult}

/-- A report is saved under its own name in its directory. -/
theorem Report.path_of_save {report : Report} {directory path : Path} {before after : σ}
    (h : report.save directory before = (.ok path, after)) : path = pathIn directory := by
  unfold save at h
  split at h
  · cases h
  · dsimp only at h
    split at h
    · cases h
    · exact (Except.ok.inj (Prod.mk.inj h).1).symm

/-- A report that is wanted is saved, at its place in the directory. -/
theorem Report.save_of_saveIfWanted {report : Report} {directory : Path} {path : Option Path}
    {before after : σ} (h : report.saveIfWanted (some directory) before = (.ok path, after)) :
    report.save directory before = (.ok (pathIn directory), after) ∧
      path = some (pathIn directory) := by
  obtain ⟨hanswer, rfl⟩ := Prod.mk.inj h
  obtain ⟨file, hfile, rfl⟩ := eq_ok_of_map_eq_ok hanswer
  have hsaved : report.save directory before = (.ok file, (report.save directory before).2) := by
    rw [← hfile]
  obtain rfl := path_of_save hsaved
  exact ⟨hsaved, rfl⟩

/-- A report is at its place in the directory if there is one. -/
theorem Report.path_of_saveIfWanted {report : Report} {directory path : Option Path}
    {before after : σ} (h : report.saveIfWanted directory before = (.ok path, after)) :
    path = directory.map Report.pathIn := by
  cases directory with
  | none => exact (Except.ok.inj (Prod.mk.inj h).1).symm
  | some directory => exact (save_of_saveIfWanted h).2

namespace Pairing

/-- The cases of a pairing as they are run. -/
def runCases (around : Surroundings σ) (settings : Settings) (cases : List Case)
    (pairing : Pairing) : Series.Run σ :=
  Series.run settings (around.theatre pairing.publisher pairing.subscriber) cases around.shutdown
    around.files

/-- What a pairing does once its cases have run: it saves the report if it is wanted. -/
def finish (around : Surroundings σ) (cases : List Case) (directory : Option Path)
    (pairing : Pairing) (ran : Series.Run σ) (series : SeriesResult) : Conclusion σ PairingResult :=
  let journal := .logged (pairing.announcement cases) :: ran.journal
  match (pairing.report series around.moment).saveIfWanted directory ran.state with
  | (.error error, files) => ⟨journal, ran.shutdown, files, .error (.report error)⟩
  | (.ok path, files) =>
    ⟨journal ++ path.toList.map (fun path => .wrote path.text), ran.shutdown, files,
      .ok (pairing.conclude series path)⟩

/-- What a pairing does comes after what its cases do. -/
theorem run_of_runCases {directory : Option Path} {series : SeriesResult}
    (h : (pairing.runCases around settings cases).result = .ok series) :
    pairing.run around settings cases directory =
      pairing.finish around cases directory (pairing.runCases around settings cases) series := by
  unfold runCases at h ⊢
  simp only [run, finish]
  generalize Series.run settings (around.theatre pairing.publisher pairing.subscriber) cases
    around.shutdown around.files = ran at h ⊢
  simp only [h]
  cases directory with
  | none => simp [Report.saveIfWanted]
  | some directory =>
    simp only [Report.saveIfWanted]
    generalize (pairing.report series around.moment).save directory ran.state = saved
    obtain ⟨answer, files⟩ := saved
    cases answer with
    | error error => rfl
    | ok path => rfl

/-- A pairing with a result has run its cases and saved the report if it was wanted. -/
theorem exists_of_run_ok {directory : Option Path}
    (h : (pairing.run around settings cases directory).result = .ok result) :
    ∃ series path after,
      (pairing.runCases around settings cases).result = .ok series ∧
      (pairing.report series around.moment).saveIfWanted directory
        (pairing.runCases around settings cases).state = (.ok path, after) ∧
      result = pairing.conclude series path ∧
      pairing.run around settings cases directory =
        ⟨.logged (pairing.announcement cases) :: (pairing.runCases around settings cases).journal ++
            path.toList.map (fun path => .wrote path.text),
          (pairing.runCases around settings cases).shutdown, after, .ok result⟩ := by
  cases hseries : (pairing.runCases around settings cases).result with
  | error error =>
    -- without results of the cases there is nothing to report
    unfold run at h
    unfold runCases at hseries
    simp only [hseries] at h
    cases h
  | ok series =>
    rw [run_of_runCases hseries] at h ⊢
    unfold finish at h ⊢
    generalize hsaved : (pairing.report series around.moment).saveIfWanted directory
      (pairing.runCases around settings cases).state = saved at h ⊢
    obtain ⟨answer, files⟩ := saved
    cases answer with
    | error error => cases h
    | ok path =>
      obtain rfl := Except.ok.inj h
      exact ⟨series, path, files, rfl, hsaved, rfl, rfl⟩

/-- A pairing with a result has saved its report if there is a directory for it. -/
theorem exists_of_run_saved {directory : Path}
    (h : (pairing.run around settings cases (some directory)).result = .ok result) :
    ∃ series before,
      (pairing.runCases around settings cases).result = .ok series ∧
      before = (pairing.runCases around settings cases).state ∧
      result = pairing.conclude series (some (Report.pathIn directory)) ∧
      (pairing.report series around.moment).save directory before =
        (.ok (Report.pathIn directory),
          (pairing.run around settings cases (some directory)).files) ∧
      (pairing.run around settings cases (some directory)).shutdown =
        (pairing.runCases around settings cases).shutdown ∧
      (pairing.run around settings cases (some directory)).journal =
        [.logged (pairing.announcement cases)] ++
          (pairing.runCases around settings cases).journal ++
          [.wrote (Report.pathIn directory).text] := by
  obtain ⟨series, path, after, hseries, hwanted, rfl, hrun⟩ := exists_of_run_ok h
  obtain ⟨hsaved, rfl⟩ := Report.save_of_saveIfWanted hwanted
  rw [hrun]
  exact ⟨series, _, hseries, rfl, rfl, hsaved, rfl, rfl⟩

end Pairing

end

end PubSubTrials
