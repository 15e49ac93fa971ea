import PubSubTrials.Proofs.Catalogues
import PubSubTrials.Proofs.Matrices

/-!
# Runs that are stopped

A run may ask a limited number of times whether it should stop before it is told to. A series asks
before each case, so it keeps the results of its first cases (`Series.run_after`). A matrix asks
before each pairing and again before each case of it, so a pairing of `n` cases takes `n + 1`
questions: the quotient by `n + 1` counts the complete pairings, and the remainder tells how far the
next one comes (`MatrixResult.stopped_of_lt`). However it is stopped, its pairings come one after
the other, and the report of each is saved before the next one starts (`Matrix.inTurn_of_run`).
-/

namespace PubSubTrials

/-! ## Series -/

section

variable {σ : Type} {settings : Settings} {theatre : Theatre σ} {case : Case} {state : σ}

theorem Trial.of_play_ok {seats : List Seat} {result : CaseResult}
    (h : (play settings case seats).2 = .ok result) :
    result.name = case.name ∧ result.duration = .zero := by
  simp only [play, conclude] at h
  split at h
  · cases h
  · obtain rfl := Except.ok.inj h
    exact ⟨rfl, rfl⟩

theorem Trial.of_runIn_ok {result : CaseResult}
    (h : (runIn settings theatre case state).1.2 = .ok result) :
    result.name = case.name ∧ result.duration = .zero := by
  obtain ⟨start, -, -, hrun⟩ := exists_play_of_runIn h
  rw [hrun] at h
  exact of_play_ok h

end

namespace Series

variable {σ : Type} {settings : Settings} {theatre : Theatre σ} {case : Case}
  {cases rest : List Case} {state : σ} {full : SeriesResult}

theorem run_cons_after_succ (settings : Settings) (theatre : Theatre σ) (case : Case)
    (rest : List Case) (k : Nat) (state : σ) :
    run settings theatre (case :: rest) (.after (k + 1)) state =
      match Trial.runIn settings theatre case state with
      | ((events, .error error), state) => ⟨events, .after k, state, .error error⟩
      | ((events, .ok result), state) =>
        (run settings theatre rest (.after k) state).after events result := rfl

/-- A series with a result has one for its first case, and one for the others. -/
theorem exists_of_run_cons_never
    (h : (run settings theatre (case :: rest) .never state).result = .ok full) :
    ∃ events result next others,
      Trial.runIn settings theatre case state = ((events, .ok result), next) ∧
      (run settings theatre rest .never next).result = .ok others ∧
      full = { others with cases := result :: others.cases } := by
  rw [run_cons_never] at h
  generalize Trial.runIn settings theatre case state = played at h
  obtain ⟨⟨events, answer⟩, next⟩ := played
  cases answer with
  | error error => cases h
  | ok result =>
    obtain ⟨others, hothers, hfull⟩ := eq_ok_of_map_eq_ok h
    exact ⟨events, result, next, others, rfl, hothers, hfull.symm⟩

/-- A series that is never stopped has a result for every case. -/
theorem complete_of_run_never (h : (run settings theatre cases .never state).result = .ok full) :
    full.cases.map CaseResult.name = cases.map Case.name ∧ full.interrupted = false := by
  induction cases generalizing state full with
  | nil =>
    obtain rfl := Except.ok.inj h
    exact ⟨rfl, rfl⟩
  | cons case rest ih =>
    obtain ⟨events, result, next, others, hrun, hothers, rfl⟩ := exists_of_run_cons_never h
    obtain ⟨hnames, hinterrupted⟩ := ih hothers
    have hresult : (Trial.runIn settings theatre case state).1.2 = .ok result := by rw [hrun]
    obtain ⟨hname, -⟩ := Trial.of_runIn_ok hresult
    refine ⟨?_, hinterrupted⟩
    rw [List.map_cons, List.map_cons, hname, hnames]

/-- A series that is stopped after `k` questions keeps the results of its first `k` cases. -/
theorem run_after (h : (run settings theatre cases .never state).result = .ok full) (k : Nat) :
    (run settings theatre cases (.after k) state).result =
      .ok ⟨full.cases.take k, decide (k < cases.length)⟩ := by
  induction cases generalizing state full k with
  | nil =>
    obtain rfl := Except.ok.inj h
    simp [run]
  | cons case rest ih =>
    obtain ⟨events, result, next, others, hrun, hothers, rfl⟩ := exists_of_run_cons_never h
    cases k with
    | zero => rfl
    | succ k =>
      have hrest := ih hothers k
      rw [run_cons_after_succ, hrun]
      simp only [Run.after, hrest, Except.map, List.take_succ_cons, List.length_cons,
        Nat.add_lt_add_iff_right]

/-- A series that is stopped after `k` questions comes to what its first `k` cases come to, also if
there is no result. -/
theorem run_after_eq_take (k : Nat) (state : σ) :
    (run settings theatre cases (.after k) state).result =
      (run settings theatre (cases.take k) .never state).result.map
        (fun series => ⟨series.cases, decide (k < cases.length)⟩) := by
  induction cases generalizing k state with
  | nil => simp [run, Except.map]
  | cons case rest ih =>
    cases k with
    | zero => rfl
    | succ k =>
      rw [run_cons_after_succ, List.take_succ_cons, run_cons_never]
      generalize Trial.runIn settings theatre case state = played
      obtain ⟨⟨events, answer⟩, next⟩ := played
      cases answer with
      | error error => rfl
      | ok result =>
        simp only [Run.after, ih, List.length_cons, Nat.add_lt_add_iff_right]
        cases (run settings theatre (rest.take k) .never next).result <;> rfl

/-- Questions that suffice for all cases make no difference but for those that are left. -/
theorem run_after_of_le (h : (run settings theatre cases .never state).result = .ok full) {k : Nat}
    (hk : cases.length ≤ k) :
    run settings theatre cases (.after k) state =
      { run settings theatre cases .never state with shutdown := .after (k - cases.length) } := by
  induction cases generalizing state full k with
  | nil => simp [run]
  | cons case rest ih =>
    obtain ⟨events, result, next, others, hrun, hothers, rfl⟩ := exists_of_run_cons_never h
    obtain ⟨k, rfl⟩ : ∃ l, k = l + 1 := ⟨k - 1, by simp at hk; omega⟩
    have hrest := ih hothers (by simpa using hk)
    rw [run_cons_after_succ, run_cons_never, hrun]
    simp only [hrest, Run.after, List.length_cons, Nat.add_sub_add_right]

end Series

section

variable {σ : Type} [FileStore σ] {around : Surroundings σ} {settings : Settings}
  {cases : List Case} {output : Option Path} {pairing : Pairing} {pairings : List Pairing}

/-! ## Pairings that are stopped -/

/-- A pairing that is stopped after some of its cases. -/
def PairingResult.cutTo (count : Nat) (result : PairingResult) : PairingResult :=
  { result with series := ⟨result.series.cases.take count, true⟩ }

/-- Whether a pairing has a result for every case. -/
structure PairingResult.IsComplete (cases : List Case) (result : PairingResult) : Prop where
  names : result.series.cases.map CaseResult.name = cases.map Case.name
  not_interrupted : result.series.interrupted = false

namespace Pairing

variable {directory : Option Path} {result : PairingResult}

/-- A pairing that is never stopped runs all its cases. -/
theorem complete_of_run_never
    (h : (pairing.run { around with shutdown := .never } settings cases directory).result =
      .ok result) :
    result.IsComplete cases ∧ result.names = pairing.names ∧
      (pairing.run { around with shutdown := .never } settings cases directory).shutdown =
        .never := by
  obtain ⟨series, path, after, hseries, hsaved, rfl, hrun⟩ := exists_of_run_ok h
  obtain ⟨hnames, hinterrupted⟩ := Series.complete_of_run_never hseries
  have hkeeps : (around.theatre pairing.publisher pairing.subscriber).Keeps (fun _ => ()) :=
    fun _ _ _ _ => rfl
  refine ⟨⟨hnames, hinterrupted⟩, rfl, ?_⟩
  rw [hrun]
  exact (Series.run_never hkeeps settings cases around.files).1

/-- Questions that suffice for a whole pairing make no difference but for those that are left. -/
theorem run_after_of_le
    (h : (pairing.run { around with shutdown := .never } settings cases directory).result =
      .ok result) {k : Nat} (hk : cases.length ≤ k) :
    pairing.run { around with shutdown := .after k } settings cases directory =
      { pairing.run { around with shutdown := .never } settings cases directory with
        shutdown := .after (k - cases.length) } := by
  obtain ⟨series, path, after, hseries, hsaved, rfl, hrun⟩ := exists_of_run_ok h
  have hcases : pairing.runCases { around with shutdown := .after k } settings cases =
      { pairing.runCases { around with shutdown := .never } settings cases with
        shutdown := .after (k - cases.length) } := Series.run_after_of_le hseries hk
  have hseriesAfter :
      (pairing.runCases { around with shutdown := .after k } settings cases).result =
        .ok series := by
    rw [hcases]
    exact hseries
  rw [run_of_runCases hseriesAfter, hcases, hrun]
  unfold finish
  simp only [hsaved]

/-- Questions that do not suffice for a whole pairing cut it short; its report says so. -/
theorem run_after_of_lt
    (h : (pairing.run { around with shutdown := .never } settings cases directory).result =
      .ok result) {k : Nat} (hk : k < cases.length)
    (hreport : ∀ error,
      (pairing.run { around with shutdown := .after k } settings cases directory).result ≠
        .error (.report error)) :
    (pairing.run { around with shutdown := .after k } settings cases directory).result =
      .ok (result.cutTo k) := by
  obtain ⟨series, path, after, hseries, hsaved, rfl, -⟩ := exists_of_run_ok h
  have hcut : (pairing.runCases { around with shutdown := .after k } settings cases).result =
      .ok ⟨series.cases.take k, true⟩ := by
    have hseriesAfter := Series.run_after hseries k
    rw [decide_eq_true hk] at hseriesAfter
    exact hseriesAfter
  rw [run_of_runCases hcut] at hreport ⊢
  unfold finish at hreport ⊢
  generalize hsavedCut : (pairing.report ⟨series.cases.take k, true⟩ around.moment).saveIfWanted
    directory (pairing.runCases { around with shutdown := .after k } settings cases).state =
    saved at hreport ⊢
  obtain ⟨answer, files⟩ := saved
  cases answer with
  | error error => exact absurd rfl (hreport error)
  | ok other =>
    -- the report has the same place, whatever it says
    have hpath : other = path := by
      rw [Report.path_of_saveIfWanted hsavedCut, Report.path_of_saveIfWanted hsaved]
    rw [hpath]
    rfl

end Pairing

/-- A report that is wanted is read from the files that saving it leaves behind. -/
theorem Report.read_of_saveIfWanted {memory : σ → MemoryFiles} (hmemory : InMemory memory)
    {report : Report} {directory : Option Path} {file : Path} {before after : σ}
    (h : report.saveIfWanted directory before = (.ok (some file), after)) :
    FileStore.read after file = .ok report.print := by
  cases directory with
  | none => cases (Prod.mk.inj h).1
  | some directory =>
    obtain ⟨hsave, hfile⟩ := save_of_saveIfWanted h
    rw [← Option.some.inj hfile] at hsave
    rw [(read_of_save hmemory hsave).2 file, if_pos (Path.same_self file)]

/-! ## Matrices -/

/-- What is left of complete pairings with `count` cases each if only `k` questions are answered
with no: each pairing asks once for itself and then once for each case. -/
def MatrixResult.stopped (count : Nat) : Nat → List PairingResult → MatrixResult
  | _, [] => ⟨[], false⟩
  | 0, _ :: _ => ⟨[], true⟩
  | k + 1, result :: rest =>
    if k < count then ⟨[result.cutTo k], true⟩
    else
      let later := stopped count (k - count) rest
      { later with pairings := result :: later.pairings }

/-- Complete pairings and no others: the questions suffice for all. -/
theorem MatrixResult.stopped_of_le {count k : Nat} {results : List PairingResult}
    (h : results.length ≤ k / (count + 1)) : stopped count k results = ⟨results, false⟩ := by
  induction results generalizing k with
  | nil => simp [stopped]
  | cons result rest ih =>
    cases k with
    | zero => simp at h
    | succ k =>
      rw [List.length_cons] at h
      have hk : count ≤ k := by
        by_contra hlt
        rw [Nat.div_eq_of_lt (by omega)] at h
        omega
      have hquotient : (k + 1) / (count + 1) = (k - count) / (count + 1) + 1 := by
        rw [← Nat.add_div_right _ (by omega)]
        congr 1
        omega
      unfold stopped
      rw [if_neg (by omega), ih (by omega)]

/-- The pairings for which the questions suffice, and a part of the next one if some are left. -/
theorem MatrixResult.stopped_of_lt {count k : Nat} {results : List PairingResult}
    (h : k / (count + 1) < results.length) :
    (stopped count k results).interrupted = true ∧
      (k % (count + 1) = 0 →
        (stopped count k results).pairings = results.take (k / (count + 1))) ∧
      (0 < k % (count + 1) → ∃ further, results[k / (count + 1)]? = some further ∧
        (stopped count k results).pairings =
          results.take (k / (count + 1)) ++ [further.cutTo (k % (count + 1) - 1)]) := by
  induction results generalizing k with
  | nil => simp at h
  | cons result rest ih =>
    cases k with
    | zero => simp [stopped]
    | succ k =>
      unfold stopped
      by_cases hk : k < count
      · -- the questions run out within the first pairing
        have hquotient : (k + 1) / (count + 1) = 0 := Nat.div_eq_of_lt (by omega)
        have hremainder : (k + 1) % (count + 1) = k + 1 := Nat.mod_eq_of_lt (by omega)
        rw [if_pos hk, hquotient, hremainder]
        simp
      · -- the first pairing is complete, and the others share what is left
        have hsplit : k + 1 = k - count + (count + 1) := by omega
        have hquotient : (k + 1) / (count + 1) = (k - count) / (count + 1) + 1 := by
          rw [hsplit, Nat.add_div_right _ (by omega)]
        have hremainder : (k + 1) % (count + 1) = (k - count) % (count + 1) := by
          rw [hsplit, Nat.add_mod_right]
        rw [List.length_cons, hquotient] at h
        obtain ⟨hinterrupted, hzero, hpos⟩ := ih (Nat.lt_of_succ_lt_succ h)
        rw [if_neg hk, hquotient, hremainder]
        refine ⟨hinterrupted, ?_, ?_⟩
        · intro hr
          simp [hzero hr]
        · intro hr
          obtain ⟨further, hfurther, hpairings⟩ := hpos hr
          exact ⟨further, by simpa using hfurther, by simp [hpairings]⟩

namespace Matrix

variable {full matrix : MatrixResult}

/-- A matrix that is never stopped has a complete result for every pairing. -/
theorem complete_of_run_never
    (h : (run settings cases output pairings { around with shutdown := .never }).result =
      .ok full) :
    full.interrupted = false ∧ full.pairings.map PairingResult.names = pairings.map Pairing.names ∧
      ∀ result ∈ full.pairings, result.IsComplete cases := by
  induction pairings generalizing around full with
  | nil =>
    obtain rfl := Except.ok.inj h
    simp
  | cons pairing rest ih =>
    obtain ⟨first, result, rfl, hresult, hlater⟩ := run_cons_never rfl h
    obtain ⟨hcomplete, hnames, hstopped⟩ := Pairing.complete_of_run_never hresult
    obtain ⟨next, others, hnext, hothers, rfl, -⟩ := hlater hcomplete.not_interrupted
    rw [hnext, hstopped] at hothers
    obtain ⟨hinterrupted, hnamesOthers, hall⟩ := @ih { around with files := _ } others hothers
    refine ⟨hinterrupted, ?_, ?_⟩
    · rw [List.map_cons, List.map_cons, hnames, hnamesOthers]
    · intro other hother
      rcases List.mem_cons.mp hother with rfl | hmem
      · exact hcomplete
      · exact hall other hmem

/-- A matrix whose pairings would all be complete, stopped after `k` questions. -/
theorem run_after
    (h : (run settings cases output pairings { around with shutdown := .never }).result = .ok full)
    {k : Nat} (hreport : ∀ error,
      (run settings cases output pairings { around with shutdown := .after k }).result ≠
        .error (.report error)) :
    (run settings cases output pairings { around with shutdown := .after k }).result =
      .ok (.stopped cases.length k full.pairings) := by
  induction pairings generalizing around full k with
  | nil =>
    obtain rfl := Except.ok.inj h
    simp [run, MatrixResult.stopped]
  | cons pairing rest ih =>
    obtain ⟨first, result, rfl, hresult, hlater⟩ := run_cons_never rfl h
    obtain ⟨hcomplete, -, hstopped⟩ := Pairing.complete_of_run_never hresult
    obtain ⟨next, others, hnext, hothers, rfl, -⟩ := hlater hcomplete.not_interrupted
    rw [hnext, hstopped] at hothers
    cases k with
    | zero => rfl
    | succ k =>
      unfold run at hreport ⊢
      simp only [Shutdown.check] at hreport ⊢
      unfold MatrixResult.stopped
      -- one question was for the pairing itself, and `k` are left for its cases
      by_cases hk : k < cases.length
      · have hcut := Pairing.run_after_of_lt hresult hk (by
          intro error herror
          simp only [herror] at hreport
          exact hreport error rfl)
        rw [if_pos hk]
        simp only [hcut, PairingResult.cutTo, if_true]
      · have hwhole := Pairing.run_after_of_le hresult (Nat.le_of_not_lt hk)
        simp only [hwhole, hresult, hcomplete.not_interrupted, Bool.false_eq_true, if_false]
          at hreport ⊢
        rw [if_neg hk]
        have hrest := @ih { around with files := _ } others hothers (k - cases.length) (by
          intro error herror
          apply hreport error
          simp only [after, herror, Except.map])
        simp only [after, hrest, Except.map]

/-- Pairings that are run one after the other, from files before them to files after them: each of
them is announced, its cases are run, and its report is saved if it is wanted. The next one starts
with the files that this leaves behind; if files are kept in memory, the report of the pairing is
read there under the path that its result names. -/
inductive InTurn (theatre : Implementation → Implementation → Theatre σ) (moment : Timestamp)
    (settings : Settings) (cases : List Case) (output : Option Path) :
    List Pairing → σ → List PairingResult → List Event → σ → Prop
  | done (files : σ) : InTurn theatre moment settings cases output [] files [] [] files
  | next {pairing : Pairing} {pairings : List Pairing} {before after last : σ}
      {ran : Series.Run σ} {series : SeriesResult} {path : Option Path}
      {results : List PairingResult} {journal : List Event}
      (hran : ∃ shutdown, ran =
        Series.run settings (theatre pairing.publisher pairing.subscriber) cases shutdown before)
      (hseries : ran.result = .ok series)
      (hsaved : (pairing.report series moment).saveIfWanted (directory output pairing) ran.state =
        (.ok path, after))
      (hstored : ∀ memory : σ → MemoryFiles, InMemory memory → ∀ file, path = some file →
        FileStore.read after file = .ok (pairing.report series moment).print)
      (hlater : InTurn theatre moment settings cases output pairings after results journal last) :
      InTurn theatre moment settings cases output (pairing :: pairings) before
        (pairing.conclude series path :: results)
        (.logged (pairing.announcement cases) :: ran.journal ++
          path.toList.map (fun path => .wrote path.text) ++ journal) last

/-- Where reports are wanted, every pairing that was started names its own. -/
theorem InTurn.reportPath {theatre : Implementation → Implementation → Theatre σ}
    {moment : Timestamp} {before last : σ} {results : List PairingResult} {journal : List Event}
    (h : InTurn theatre moment settings cases output pairings before results journal last) :
    ∀ result ∈ results, result.reportPath = output.map result.place := by
  induction h with
  | done files =>
    intro result hresult
    cases hresult
  | next hran hseries hsaved hstored hlater ih =>
    intro result hresult
    rcases List.mem_cons.mp hresult with rfl | hmem
    · rw [Pairing.conclude, Report.path_of_saveIfWanted hsaved, directory, Option.map_map]
      rfl
    · exact ih result hmem

/-- Where reports are wanted and files are kept in memory, the report of every pairing that was
started was there at some time: when the next pairing started, or at the end. -/
theorem InTurn.exists_isStored {theatre : Implementation → Implementation → Theatre σ}
    {moment : Timestamp} {before last : σ} {results : List PairingResult} {journal : List Event}
    {memory : σ → MemoryFiles} (hmemory : InMemory memory) {directory : Path}
    (h : InTurn theatre moment settings cases (some directory) pairings before results journal
      last) :
    ∀ result ∈ results, ∃ files : σ, result.IsStored files moment := by
  generalize houtput : some directory = output at h
  induction h with
  | done files =>
    intro result hresult
    cases hresult
  | next hran hseries hsaved hstored hlater ih =>
    intro result hresult
    rcases List.mem_cons.mp hresult with rfl | hmem
    · have hpath := Report.path_of_saveIfWanted hsaved
      rw [← houtput] at hpath
      exact ⟨_, _, hpath, hstored memory hmemory _ hpath⟩
    · exact ih result hmem

/-- However a matrix with a result is stopped, its pairings come one after the other, and each one's
report is saved before the next one starts. -/
theorem inTurn_of_run (h : (run settings cases output pairings around).result = .ok matrix) :
    InTurn around.theatre around.moment settings cases output
      (pairings.take matrix.pairings.length) around.files matrix.pairings
      (run settings cases output pairings around).journal
      (run settings cases output pairings around).files := by
  induction pairings generalizing around matrix with
  | nil =>
    obtain rfl := Except.ok.inj h
    exact .done _
  | cons pairing rest ih =>
    unfold run at h ⊢
    generalize around.shutdown.check = answer at h ⊢
    obtain ⟨stop, shutdown⟩ := answer
    cases stop with
    | true =>
      obtain rfl := Except.ok.inj h
      exact .done _
    | false =>
      simp only at h ⊢
      cases hfirst : (pairing.run { around with shutdown } settings cases
          (directory output pairing)).result with
      | error error =>
        simp only [hfirst] at h
        cases h
      | ok result =>
        obtain ⟨series, path, after, hseries, hsaved, rfl, hrun⟩ := Pairing.exists_of_run_ok hfirst
        have hstored : ∀ memory : σ → MemoryFiles, InMemory memory → ∀ file, path = some file →
            FileStore.read after file = .ok (pairing.report series around.moment).print :=
          fun memory hmemory file hpath => Report.read_of_saveIfWanted hmemory (hpath ▸ hsaved)
        rw [hrun] at h ⊢
        simp only at h ⊢
        split at h
        · rename_i hinterrupted
          obtain rfl := Except.ok.inj h
          simp only [hinterrupted, if_true, List.length_singleton, List.take_succ_cons,
            List.take_zero]
          -- an interrupted pairing is the last one, and nothing is journalled after it
          rw [← List.append_nil (_ ++ _)]
          exact .next ⟨shutdown, rfl⟩ hseries hsaved hstored (.done _)
        · rename_i hinterrupted
          obtain ⟨others, hothers, rfl⟩ := eq_ok_of_map_eq_ok h
          simp only [hinterrupted]
          exact .next ⟨shutdown, rfl⟩ hseries hsaved hstored (ih hothers)

end Matrix

/-! ## Failures -/

/-- A pairing fails in its cases or with its report. -/
theorem Pairing.cases_of_run_error {directory : Option Path} {error : CommandError}
    (h : (pairing.run around settings cases directory).result = .error error) :
    (∃ fault, error = .run fault) ∨ ∃ fault, error = .report fault := by
  unfold run at h
  dsimp only at h
  split at h
  · exact Or.inl ⟨_, (Except.error.inj h).symm⟩
  · split at h
    · cases h
    · split at h
      · exact Or.inr ⟨_, (Except.error.inj h).symm⟩
      · cases h

theorem Matrix.cases_of_run_error {error : CommandError}
    (h : (run settings cases output pairings around).result = .error error) :
    (∃ fault, error = .run fault) ∨ ∃ fault, error = .report fault := by
  induction pairings generalizing around with
  | nil => cases h
  | cons pairing rest ih =>
    unfold run at h
    split at h
    · cases h
    · dsimp only at h
      split at h
      · rename_i fault hpairing
        obtain rfl := Except.error.inj h
        exact Pairing.cases_of_run_error hpairing
      · split at h
        · cases h
        · exact ih (eq_error_of_map_eq_error h)

/-- A matrix of cases that can be run has a result if nothing crashes and no report is refused. -/
theorem Matrix.exists_of_run_calm (hvalid : ∀ case ∈ cases, case.validate = .ok ())
    (hcalm : ∀ crash : RunError, crash.IsCrash →
      (run settings cases output pairings around).result ≠ .error (.run crash))
    (hreport : ∀ error, (run settings cases output pairings around).result ≠
      .error (.report error)) :
    ∃ matrix, (run settings cases output pairings around).result = .ok matrix := by
  cases h : (run settings cases output pairings around).result with
  | ok matrix => exact ⟨matrix, rfl⟩
  | error error =>
    rcases cases_of_run_error h with ⟨fault, rfl⟩ | ⟨fault, rfl⟩
    · cases fault with
      | invalidCase fault => exact absurd h (run_ne_invalidCase hvalid fault)
      | observerCrashed | unnamable => exact absurd h (hcalm _ trivial)
    · exact absurd h (hreport fault)

end

/-- A series of cases that can be run has a result if nothing crashes. -/
theorem Series.exists_of_run_calm {σ : Type} {settings : Settings} {theatre : Theatre σ}
    {cases : List Case} {shutdown : Shutdown} {state : σ}
    (hvalid : ∀ case ∈ cases, case.validate = .ok ())
    (hcalm : ∀ crash : RunError, crash.IsCrash →
      (run settings theatre cases shutdown state).result ≠ .error crash) :
    ∃ series, (run settings theatre cases shutdown state).result = .ok series := by
  cases h : (run settings theatre cases shutdown state).result with
  | ok series => exact ⟨series, rfl⟩
  | error error =>
    exact absurd h (hcalm error (isCrash_of_run_error hvalid h))

/-! ## Stopping after a number of questions -/

/-- What is left of a request to stop after it was asked a number of times. -/
def Shutdown.askedTimes : Nat → Shutdown → Shutdown
  | 0, shutdown => shutdown
  | n + 1, shutdown => askedTimes n shutdown.check.2

/-- The first `k` questions are answered with no, and all others with yes. -/
theorem Shutdown.check_askedTimes (k i : Nat) :
    ((Shutdown.after k).askedTimes i).check.1 = decide (k ≤ i) := by
  induction i generalizing k with
  | zero =>
    cases k with
    | zero => rfl
    | succ k => simp [askedTimes, check]
  | succ i ih =>
    cases k with
    | zero =>
      rw [askedTimes, check, ih]
      simp
    | succ k =>
      rw [askedTimes, check, ih]
      simp

theorem Matrix.length_pairings (implementations : List Implementation) :
    (pairings implementations).length = implementations.length * implementations.length := by
  simp [pairings, List.length_flatMap]

/-- A request to stop may be asked `k` times before it says so. A series comes to what its first `k`
cases come to; if no run crashes it has the first results of the series that is not stopped, and is
interrupted if that are not all. A matrix of which no run crashes has all pairings in turn if `k`
questions suffice, at one for each pairing and one for each case of it; otherwise it is interrupted,
and it has as many complete pairings as the questions suffice for, and if some questions are left
the next pairing as far as they go. Precisely the pairings that were started name a report, if
reports are wanted; each is saved, and can be read under the path that is named, before the next
pairing starts (`Matrix.InTurn`). -/
theorem Shutdown.cut_after (k : Nat) :
    (∀ i, ((Shutdown.after k).askedTimes i).check.1 = decide (k ≤ i)) ∧
    (∀ (σ : Type) (settings : Settings) (theatre : Theatre σ) (cases : List Case) (state : σ),
      (Series.run settings theatre cases (.after k) state).result =
        (Series.run settings theatre (cases.take k) .never state).result.map
          (fun series => ⟨series.cases, decide (k < cases.length)⟩)) ∧
    (∀ (σ : Type) (settings : Settings) (theatre : Theatre σ) (cases : List Case) (state : σ),
      (∀ case ∈ cases, case.validate = .ok ()) →
      (∀ crash : RunError, crash.IsCrash →
        (Series.run settings theatre cases .never state).result ≠ .error crash) →
      ∃ full, (Series.run settings theatre cases .never state).result = .ok full ∧
        full.cases.map CaseResult.name = cases.map Case.name ∧ full.interrupted = false ∧
        (Series.run settings theatre cases (.after k) state).result =
          .ok ⟨full.cases.take (min k cases.length), decide (k < cases.length)⟩) ∧
    ∀ (σ : Type) [FileStore σ] (request : MatrixRequest) (around : Surroundings σ)
      (implementations : List Implementation) (cases : List Case),
      request.validate = .ok implementations →
      request.selection.resolve around.files = .ok cases →
      (∀ crash : RunError, crash.IsCrash →
        (request.run { around with shutdown := .never }).result ≠ .error (.run crash)) →
      (∀ error, (request.run { around with shutdown := .never }).result ≠
        .error (.report error)) →
      (∀ error, (request.run { around with shutdown := .after k }).result ≠
        .error (.report error)) →
      ∃ full matrix,
        (request.run { around with shutdown := .never }).result = .ok full ∧
        full.interrupted = false ∧
        full.pairings.map PairingResult.names =
          implementations.map Implementation.name ×ˢ implementations.map Implementation.name ∧
        (∀ result ∈ full.pairings, result.IsComplete cases) ∧
        (request.run { around with shutdown := .after k }).result = .ok matrix ∧
        (implementations.length * implementations.length ≤ k / (cases.length + 1) →
          matrix = full) ∧
        (k / (cases.length + 1) < implementations.length * implementations.length →
          matrix.interrupted = true ∧
          (k % (cases.length + 1) = 0 →
            matrix.pairings = full.pairings.take (k / (cases.length + 1))) ∧
          (0 < k % (cases.length + 1) →
            ∃ further, full.pairings[k / (cases.length + 1)]? = some further ∧
              matrix.pairings = full.pairings.take (k / (cases.length + 1)) ++
                [further.cutTo (k % (cases.length + 1) - 1)])) ∧
        (∀ result ∈ matrix.pairings,
          result.reportPath = request.options.output.map result.place) ∧
        Matrix.InTurn around.theatre around.moment request.options.settings cases
          request.options.output
          ((Matrix.pairings implementations).take matrix.pairings.length) around.files
          matrix.pairings (request.run { around with shutdown := .after k }).journal
          (request.run { around with shutdown := .after k }).files := by
  refine ⟨check_askedTimes k, fun _ _ _ _ => Series.run_after_eq_take k, ?_, ?_⟩
  · intro σ settings theatre cases state hvalid hcalm
    obtain ⟨full, hfull⟩ := Series.exists_of_run_calm hvalid hcalm
    obtain ⟨hnames, hinterrupted⟩ := Series.complete_of_run_never hfull
    refine ⟨full, hfull, hnames, hinterrupted, ?_⟩
    have hlength : full.cases.length = cases.length := by
      simpa using congrArg List.length hnames
    -- a series cut off behind its last case is the whole series
    have htake : full.cases.take (min k cases.length) = full.cases.take k := by
      rw [← hlength, List.take_eq_take_iff]
      omega
    rw [Series.run_after hfull, htake]
  · intro σ _ request around implementations cases hvalid hcases hcalm hreport hreportAfter
    -- past its checks the matrix is the same for every shutdown
    have hrun : ∀ shutdown, request.run { around with shutdown } =
        Matrix.run request.options.settings cases request.options.output
          (Matrix.pairings implementations) { around with shutdown } := by
      intro shutdown
      unfold MatrixRequest.run
      rw [hvalid]
      simp only [hcases]
    simp only [hrun] at hcalm hreport hreportAfter ⊢
    obtain ⟨full, hfull⟩ := Matrix.exists_of_run_calm
      (fun case hcase => Selection.validate_of_resolve hcases hcase) hcalm hreport
    obtain ⟨hinterrupted, hnames, hall⟩ := Matrix.complete_of_run_never hfull
    -- the cut is a function of the full result, and the files follow the pairings that were begun
    have hafter := Matrix.run_after hfull hreportAfter
    have hlength : full.pairings.length = implementations.length * implementations.length := by
      rw [← Matrix.length_pairings]
      simpa using congrArg List.length hnames
    have hturns := Matrix.inTurn_of_run hafter
    refine ⟨full, .stopped cases.length k full.pairings, hfull, hinterrupted,
      hnames.trans (Matrix.map_names_pairings implementations), hall, hafter, ?_, ?_,
      hturns.reportPath, hturns⟩
    · intro hk
      rw [MatrixResult.stopped_of_le (hlength ▸ hk), ← hinterrupted]
    · intro hk
      exact MatrixResult.stopped_of_lt (hlength ▸ hk)

/-- A matrix of two implementations with two cases. -/
def MatrixRequest.rounds : MatrixRequest where
  implementations := ["dds=/opt/dds", "-d-s=/opt/other"]
  selection := ⟨[], ["Test_Domain_0", "Test_Color_0"], []⟩
  options := { RunOptions.standard with output := some ⟨"/out"⟩ }

/-- Five questions suffice for one of four pairings with two cases, and for one case of the next;
both leave their reports behind. -/
theorem Shutdown.cut_after_five :
    ∃ full matrix,
      (MatrixRequest.rounds.run { Surroundings.bare with shutdown := .never }).result = .ok full ∧
      (MatrixRequest.rounds.run { Surroundings.bare with shutdown := .after 5 }).result =
        .ok matrix ∧
      full.pairings.length = 4 ∧ matrix.interrupted = true ∧
      (∃ further, full.pairings[1]? = some further ∧
        matrix.pairings = full.pairings.take 1 ++ [further.cutTo 1]) ∧
      ∀ result ∈ matrix.pairings, ∃ files : MemoryFiles,
        result.IsStored files Surroundings.bare.moment := by
  have hvalid : MatrixRequest.rounds.validate =
      .ok [⟨"dds", ⟨"/opt/dds"⟩⟩, ⟨"-d-s", ⟨"/opt/other"⟩⟩] := by decide
  have hcases : MatrixRequest.rounds.selection.resolve Surroundings.bare.files =
      .ok [Suite.communicating "Test_Domain_0" "-t Square" "-t Square",
        Suite.communicating "Test_Color_0" "-t Square -c BLUE" "-t Square -c BLUE"] := by
    decide +kernel
  have hnever :
      (MatrixRequest.rounds.run { Surroundings.bare with shutdown := .never }).result.isOk =
        true := by
    decide +kernel
  have hafter :
      (MatrixRequest.rounds.run { Surroundings.bare with shutdown := .after 5 }).result.isOk =
        true := by
    decide +kernel
  obtain ⟨whole, hwhole⟩ := eq_ok_of_isOk hnever
  obtain ⟨part, hpart⟩ := eq_ok_of_isOk hafter
  obtain ⟨full, matrix, hfull, -, hnames, -, hmatrix, -, hcut, -, hturns⟩ :=
    (Shutdown.cut_after 5).2.2.2 MemoryFiles .rounds .bare _ _ hvalid hcases
      (by rw [hwhole]; intro crash _ h; cases h) (by rw [hwhole]; intro error h; cases h)
      (by rw [hpart]; intro error h; cases h)
  obtain ⟨hinterrupted, -, hfurther⟩ := hcut (by decide)
  refine ⟨full, matrix, hfull, hmatrix, ?_, hinterrupted, hfurther (by decide),
    hturns.exists_isStored inMemory_memoryFiles⟩
  have hlength := congrArg List.length hnames
  rw [List.length_map] at hlength
  exact hlength

end PubSubTrials
