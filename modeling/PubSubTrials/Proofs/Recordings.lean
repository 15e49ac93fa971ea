import PubSubTrials.Proofs.Checks

/-!
# What is recorded of a publisher

Data markers divide what a publisher prints after it was matched into windows
(`Output.MarkedOff`). Of a publisher that reports its samples the last token of each of the first
windows is recorded, as far as there is room in its queue, and no more of its output is consumed
than these windows (`Lifecycle.observe_recording`).

The windows are described by what stands in them. That the observer, which looks for one marker at a
time, comes upon the same windows is said by `MarkedOff.scan_eq` alone.
-/

namespace PubSubTrials

open Output Observing

namespace Output

/-! ## Texts divided by data markers -/

/-- The size of a shape, two digits in brackets. -/
def IsDataMarker (text : List Char) : Prop :=
  ∃ a b, Sample.isDigit a = true ∧ Sample.isDigit b = true ∧ text = ['[', a, b, ']']

/-- A text starts with a data marker. -/
def StartsWithData (text : List Char) : Prop :=
  ∃ marker rest, IsDataMarker marker ∧ text = marker ++ rest

/-- The windows of a text, each with the data marker that ends it, and what stands behind the last
marker. -/
inductive MarkedOff : List Char → List (List Char × List Char) → List Char → Prop where
  | done {text : List Char} (h : ∀ i < text.length, ¬ StartsWithData (text.drop i)) :
      MarkedOff text [] text
  | next {window marker text rest : List Char} {windows : List (List Char × List Char)}
      (hmarker : IsDataMarker marker)
      (hfirst : ∀ i < window.length, ¬ StartsWithData ((window ++ (marker ++ text)).drop i))
      (h : MarkedOff text windows rest) :
      MarkedOff (window ++ (marker ++ text)) ((window, marker) :: windows) rest

/-- The text of windows and their markers. -/
def unmarked (windows : List (List Char × List Char)) : List Char :=
  windows.flatMap (fun window => window.1 ++ window.2)

/-- The data marker stands where two digits stand in brackets. -/
theorem stands_data_iff (text : List Char) :
    stands [.exactly '[', .digit, .digit, .exactly ']'] text = true ↔ StartsWithData text := by
  constructor
  · intro h
    have hlength := length_le_of_stands h
    match text, h with
    | [], _ | [_], _ | [_, _], _ | [_, _, _], _ => simp at hlength
    | c :: a :: b :: d :: rest, h =>
      simp only [stands, Cell.accepts, Bool.and_eq_true, beq_iff_eq] at h
      obtain ⟨rfl, ha, hb, rfl, -⟩ := h
      refine ⟨_, rest, ⟨a, b, ?_, ?_, rfl⟩, rfl⟩
      · simpa [Sample.isDigit] using ha
      · simpa [Sample.isDigit] using hb
  · rintro ⟨_, rest, ⟨a, b, ha, hb, rfl⟩, rfl⟩
    simp only [Sample.isDigit, Bool.and_eq_true] at ha hb
    simp [stands, Cell.accepts, ha, hb]

instance (text : List Char) : Decidable (StartsWithData text) :=
  decidable_of_iff _ (stands_data_iff text)

theorem firstAt?_data (text : List Char) :
    Pattern.firstAt? 0 [.marker .data] text = none ↔ ¬ StartsWithData text := by
  rw [Pattern.firstAt?_eq_none_iff, ← stands_data_iff, Bool.not_eq_true]
  simp [Pattern.forms, Marker.forms]

theorem firstAt?_of_isDataMarker {marker : List Char} (h : IsDataMarker marker)
    (rest : List Char) : Pattern.firstAt? 0 [.marker .data] (marker ++ rest) = some (0, 4) := by
  have hstands := (stands_data_iff (marker ++ rest)).mpr ⟨marker, rest, h, rfl⟩
  simp [Pattern.firstAt?, Pattern.lengthAt?, Pattern.forms, Marker.forms, hstands]

/-- The observer comes upon the windows of a text. -/
theorem MarkedOff.scan_eq {text rest : List Char} {windows : List (List Char × List Char)}
    (h : MarkedOff text windows rest) :
    match windows with
    | [] => scan [.marker .data] [] text = none
    | window :: others => ∃ behind, scan [.marker .data] [] text =
        some ⟨0, window.1, window.2, behind⟩ ∧ text = window.1 ++ (window.2 ++ behind) ∧
          MarkedOff behind others rest := by
  cases h with
  | done hnone =>
    rw [scan_eq_none_iff]
    intro i hi
    by_cases hless : i < text.length
    · exact (firstAt?_data _).mpr (hnone i hless)
    · rw [List.drop_eq_nil_of_le (Nat.not_lt.mp hless)]
      rfl
  | @next window marker text rest windows hmarker hfirst h =>
    refine ⟨text, ?_, rfl, h⟩
    have hlength : marker.length = 4 := by
      obtain ⟨a, b, -, -, rfl⟩ := hmarker
      rfl
    -- no marker stands before the one that ends the window
    have hfound := firstAt?_of_isDataMarker hmarker text
    rw [scan_skip [] fun i hi => (firstAt?_data _).mpr (hfirst i hi)]
    obtain ⟨a, b, -, -, rfl⟩ := hmarker
    rw [List.cons_append] at hfound ⊢
    rw [scan, hfound]
    simp

/-- Every text is divided by its data markers. -/
theorem exists_markedOff (text : List Char) : ∃ windows rest, MarkedOff text windows rest := by
  generalize hlength : text.length = length
  induction length using Nat.strongRecOn generalizing text with
  | ind length ih =>
    cases hscan : scan [.marker .data] [] text with
    | none =>
      refine ⟨[], text, .done fun i hi => (firstAt?_data _).mp ?_⟩
      exact scan_eq_none_iff.mp hscan i (Nat.le_of_lt hi)
    | some hit =>
      have hless := Reception.length_rest_lt hscan
      obtain ⟨windows, rest, hrest⟩ := ih _ (hlength ▸ hless) hit.rest rfl
      obtain ⟨skipped, left, n, htext, hfound, hfirst, -, -, hbehind⟩ := scan_eq_some hscan
      -- what was found is a marker at the head of what was not skipped
      obtain ⟨marker, behind, hmarker, rfl⟩ : StartsWithData left := by
        by_contra hnone
        rw [(firstAt?_data left).mpr hnone] at hfound
        cases hfound
      have hn : 4 = n := by
        rw [firstAt?_of_isDataMarker hmarker] at hfound
        exact congrArg Prod.snd (Option.some.inj hfound)
      have hrest' : hit.rest = behind := by
        obtain ⟨a, b, -, -, rfl⟩ := hmarker
        rw [hbehind, ← hn]
        rfl
      subst htext
      refine ⟨(skipped, marker) :: windows, rest, .next hmarker ?_ (hrest' ▸ hrest)⟩
      exact fun i hi => (firstAt?_data _).mp (hfirst i hi)

end Output

namespace Reception

variable {text rest : List Char} {windows : List (List Char × List Char)}

/-- The tokens that stand last in the first windows. -/
def tokens (limit : Nat) (windows : List (List Char × List Char)) : List Sample :=
  (windows.take limit).filterMap (fun window => Sample.findLast window.1)

/-- The samples that an observer receives are the last tokens of the windows. -/
theorem reduceOption_received (h : MarkedOff text windows rest) (limit : Nat) :
    (received limit text).reduceOption = tokens limit windows := by
  induction limit generalizing text windows with
  | zero => rfl
  | succ limit ih =>
    have hscan := h.scan_eq
    cases windows with
    | nil =>
      rw [received_of_none hscan]
      rfl
    | cons window others =>
      obtain ⟨behind, hhit, -, hothers⟩ := hscan
      have hsample := findLast_window hhit
      dsimp only at hsample
      rw [received_of_some hhit, hsample, tokens, List.take_succ_cons, List.filterMap_cons]
      -- a window without a token leaves no sample behind
      cases Sample.findLast window.1 with
      | none =>
        rw [List.reduceOption_cons_of_none, ih hothers]
        rfl
      | some sample =>
        rw [List.reduceOption_cons_of_some, ih hothers]
        rfl

/-- Behind some windows there is the text without them. -/
theorem exists_behind (h : MarkedOff text windows rest) {count : Nat}
    (hcount : count ≤ windows.length) :
    ∃ left, behind count text = some left ∧ unmarked (windows.take count) ++ left = text := by
  induction count generalizing text windows with
  | zero => exact ⟨text, rfl, rfl⟩
  | succ count ih =>
    have hscan := h.scan_eq
    cases windows with
    | nil => exact absurd hcount (Nat.not_succ_le_zero count)
    | cons window others =>
      obtain ⟨later, hhit, htext, hothers⟩ := hscan
      obtain ⟨left, hleft, hunmarked⟩ := ih hothers (Nat.le_of_succ_le_succ hcount)
      refine ⟨left, ?_, ?_⟩
      · rw [behind, hhit]
        exact hleft
      · rw [List.take_succ_cons, unmarked, List.flatMap_cons, ← unmarked, List.append_assoc,
          List.append_assoc, hunmarked, htext]

end Reception

open Reception

namespace Lifecycle

/-- A publisher that was matched has reached its end if it does not report its samples. Otherwise
its output is divided into windows from there on, and it has sent data if there is a window. Of each
of the first hundred windows the last token is recorded, as far as there is room in the queue, and
no window after them is consumed. -/
theorem observe_recording {lines : List (List Char)} {start : Nat}
    (h : passage (joinLines lines) (approachOf .publisher) 0 = .ok start) (isOpen : Bool)
    (check : Check) (inbox : List SampleQueue) (capacity : Nat) :
    let state := Observation.start (.ofLines lines isOpen) inbox (some (.empty capacity))
    let text := (joinLines lines).drop start
    (∃ next, (observe ⟨.publisher, false, check⟩).result state = (.ok .ok, next) ∧
      next.outbox = some (.empty capacity)) ∧
    (∃ windows rest, MarkedOff text windows rest) ∧
    ∀ windows rest, MarkedOff text windows rest →
      let recorded := tokens SampleQueue.maxRecorded windows
      ∃ next queue, (observe ⟨.publisher, true, check⟩).result state =
          (.ok (if windows = [] then .dataNotSent else .ok), next) ∧
        next.outbox = some queue ∧ queue.queued = recorded.take capacity ∧
        (SampleQueue.maxRecorded ≤ capacity → queue.queued = recorded) ∧
        (SampleQueue.maxRecorded ≤ windows.length →
          unmarked (windows.take SampleQueue.maxRecorded) ++ next.console.ahead = text) := by
  intro state text
  have hstart := start_at lines isOpen inbox (some (.empty capacity))
  refine ⟨?_, exists_markedOff text, ?_⟩
  · -- without recording the observer ends once its stages are passed, and nothing is handed over
    have hsilent := ((passing_stages ⟨.publisher, false, check⟩).trans (passing_publish false))
      _ _ _ hstart
    rw [List.singleton_append, ← approachOf, h] at hsilent
    obtain ⟨next, heq, -, hwaited⟩ := hsilent
    exact ⟨_, result_bind_of_ok heq _, hwaited.outbox⟩
  · intro windows rest hmarked recorded
    have hreporting := ((passing_stages ⟨.publisher, true, check⟩).trans (passing_publish true))
      _ _ _ hstart
    rw [List.singleton_append, ← approachOf, h] at hreporting
    obtain ⟨between, heq, hat, hwaited⟩ := hreporting
    have hsend := result_sendData hat hwaited.outbox
    have hscan := hmarked.scan_eq
    -- the limit on the recorded samples, which decides whether the capacity matters
    have hlength : recorded.length ≤ SampleQueue.maxRecorded :=
      Nat.le_trans (List.length_filterMap_le _ _) (List.length_take_le _ _)
    cases windows with
    -- no window means that the last stage is never reached
    | nil =>
      rw [hscan] at hsend
      obtain ⟨next, hresult, hnext⟩ := hsend
      exact ⟨_, _, result_bind_of_ok (heq.trans hresult) _, hnext, List.take_nil.symm,
        fun _ => rfl, fun hmany => absurd hmany (by decide)⟩
    | cons window others =>
      obtain ⟨behind, hhit, -⟩ := hscan
      rw [hhit] at hsend
      obtain ⟨next, hresult, hnext, hahead⟩ := hsend
      rw [reduceOption_received hmarked] at hnext
      have hqueued := @SampleQueue.queued_pushAll (.empty capacity) rfl recorded
      refine ⟨_, _, result_bind_of_ok (heq.trans hresult) _, hnext, hqueued, ?_, ?_⟩
      · intro hroom
        exact hqueued.trans (List.take_of_length_le (Nat.le_trans hlength hroom))
      · intro hmany
        obtain ⟨left, hleft, hunmarked⟩ := exists_behind hmarked hmany
        have hconsole := hahead left hleft
        rw [← hconsole] at hunmarked
        exact hunmarked

/-- The output of a publisher that shows no sample in its second window. -/
def crampedLines : List (List Char) :=
  [("Create topic: " ++ "Square").toList, "Create writer for topic".toList,
    "on_publication_matched".toList, "001 001 001 002 [20]".toList, "[20]".toList,
    "001 003 [20]".toList, "001 004".toList]

/-- The windows of this output. -/
def crampedWindows : List (List Char × List Char) :=
  [("\n001 001 001 002 ".toList, "[20]".toList), ("\n".toList, "[20]".toList),
    ("\n001 003 ".toList, "[20]".toList)]

/-- The theorem for a publisher with a window that shows no sample, and a queue with room for
one. -/
theorem observe_recording_cramped :
    passage (joinLines crampedLines) (approachOf .publisher) 0 = .ok 67 ∧
      MarkedOff ((joinLines crampedLines).drop 67) crampedWindows "\n001 004\n".toList ∧
      ∃ next queue, (observe ⟨.publisher, true, .noCheck⟩).result
          (.start (.ofLines crampedLines true) [] (some (.empty 1))) = (.ok .ok, next) ∧
        next.outbox = some queue ∧ queue.queued = [⟨"001 002"⟩] := by
  have hpassage : passage (joinLines crampedLines) (approachOf .publisher) 0 = .ok 67 := by
    decide +kernel
  have hmarked : MarkedOff ((joinLines crampedLines).drop 67) crampedWindows
      "\n001 004\n".toList := by
    have hmarker : IsDataMarker "[20]".toList := ⟨'2', '0', rfl, rfl, rfl⟩
    show MarkedOff ("\n001 001 001 002 ".toList ++ ("[20]".toList ++ ("\n".toList ++
      ("[20]".toList ++ ("\n001 003 ".toList ++ ("[20]".toList ++ "\n001 004\n".toList))))))
      crampedWindows _
    exact .next hmarker (by decide +kernel) (.next hmarker (by decide +kernel)
      (.next hmarker (by decide +kernel) (.done (by decide +kernel))))
  obtain ⟨-, -, hreporting⟩ := observe_recording hpassage true .noCheck [] 1
  obtain ⟨next, queue, hresult, houtbox, hqueued, -⟩ := hreporting _ _ hmarked
  exact ⟨hpassage, hmarked, next, queue, hresult, houtbox, hqueued.trans (by decide +kernel)⟩

end Lifecycle

end PubSubTrials
