import PubSubTrials.Proofs.Sources

/-!
# What the checks tell

A check stands at a window and may go on to each window that is still ahead. So all that it can
come to see is one list of samples, with a gap for each window that shows none (`seen`), and all
that it can take is what stands in the queues. This module says what the checks make of the two:

* the ordering check finds the first place at which they disagree, among the first places that
  both of them have, and takes the samples up to that place (`orderingCheck_finds`);
* the multi-source check finds two sources if the source of the samples seen changes at least
  twice, gaps left out, and empties the queue of the second publisher (`multiSourceCheck_finds`).

Nothing is supposed about the output but that the observer does not crash: it may have ended or
not, in the middle of a line or not.
-/

namespace PubSubTrials

open Output Observing

namespace Reception

/-! ## All windows of a text -/

/-- All windows of a text. -/
def allWindows (text : List Char) : List (List Char) :=
  windows text.length text

theorem windows_of_none {text : List Char} (h : scan [.marker .data] [] text = none)
    (limit : Nat) : windows limit text = [] := by
  cases limit with
  | zero => rfl
  | succ limit => rw [windows, h]

/-- A window goes up to the first data line and holds it. -/
theorem windows_of_some {text : List Char} {hit : Hit}
    (h : scan [.marker .data] [] text = some hit) (limit : Nat) :
    windows (limit + 1) text = (hit.before ++ hit.matched) :: windows limit hit.rest := by
  rw [windows, h]

/-- A window is not empty, so there is less text after it. -/
theorem length_rest_lt {text : List Char} {hit : Hit}
    (h : scan [.marker .data] [] text = some hit) : hit.rest.length < text.length := by
  have htext := text_of_scan h
  obtain ⟨size, hmatched, -⟩ := matched_data h
  rw [List.reverse_nil, List.nil_append, hmatched] at htext
  have hlength := congrArg List.length htext
  rw [List.length_append, List.length_append, List.length_cons] at hlength
  omega

/-- As many windows as the text has characters are all that there are. -/
theorem windows_eq_take {text : List Char} {most : Nat} (h : text.length ≤ most) (limit : Nat) :
    windows limit text = (windows most text).take limit := by
  induction limit generalizing text most with
  | zero => rw [windows, List.take_zero]
  | succ limit ih =>
    cases hscan : scan [.marker .data] [] text with
    | none => rw [windows_of_none hscan, windows_of_none hscan, List.take_nil]
    | some hit =>
      have hless := length_rest_lt hscan
      obtain ⟨fewer, rfl⟩ : ∃ fewer, most = fewer + 1 := ⟨most - 1, by omega⟩
      have hrest : hit.rest.length ≤ fewer := by omega
      rw [windows_of_some hscan, windows_of_some hscan, List.take_succ_cons, ih hrest]

/-- A window that the check looks at is one of all windows, and it looks at the first of them. -/
theorem windows_eq_take_allWindows (limit : Nat) (text : List Char) :
    windows limit text = (allWindows text).take limit :=
  windows_eq_take (Nat.le_refl text.length) limit

/-- The windows follow one another from the head of the text on, and leave over an end in which no
data marker stands. -/
theorem flatten_allWindows (text : List Char) :
    ∃ rest, (allWindows text).flatten ++ rest = text ∧ scan [.marker .data] [] rest = none := by
  -- the number of characters bounds the number of windows, and only that is needed of it
  have hall : ∀ most, text.length ≤ most → ∃ rest, (windows most text).flatten ++ rest = text ∧
      scan [.marker .data] [] rest = none := by
    intro most
    induction most generalizing text with
    | zero =>
      intro hlength
      obtain rfl := List.length_eq_zero_iff.mp (Nat.le_zero.mp hlength)
      exact ⟨[], rfl, rfl⟩
    | succ most ih =>
      intro hlength
      cases hscan : scan [.marker .data] [] text with
      | none =>
        rw [windows_of_none hscan]
        exact ⟨text, rfl, hscan⟩
      | some hit =>
        have hless := length_rest_lt hscan
        obtain ⟨rest, hflatten, hrest⟩ := ih hit.rest (by omega)
        refine ⟨rest, ?_, hrest⟩
        have htext := text_of_scan hscan
        rw [windows_of_some hscan, List.flatten_cons, List.append_assoc, List.append_assoc,
          hflatten]
        exact htext
  exact hall text.length (Nat.le_refl _)

/-- A window ends with a data marker, and there is no other one in it. -/
theorem scan_of_mem_allWindows {text window : List Char} (h : window ∈ allWindows text) :
    ∃ hit, scan [.marker .data] [] window = some hit ∧ hit.rest = [] := by
  rw [allWindows] at h
  generalize text.length = most at h
  induction most generalizing text with
  | zero => cases h
  | succ most ih =>
    cases hscan : scan [.marker .data] [] text with
    | none =>
      rw [windows_of_none hscan] at h
      cases h
    | some hit =>
      rw [windows_of_some hscan] at h
      rcases List.mem_cons.mp h with rfl | hmem
      · exact ⟨_, scan_cut uniform_data (by decide) hscan, rfl⟩
      · exact ih hmem

/-! ## All that an observer can come to see -/

/-- The samples of the window that the observer looks at and of all windows ahead of it. -/
def seen (state : Observation) : List (Option Sample) :=
  (state.current :: allWindows state.console.ahead).map Sample.findLast

/-- The windows that a check looks at are the first of all those that it could see. -/
theorem shown_eq_take (state : Observation) (limit : Nat) :
    shown state state.console.ahead limit = (seen state).take limit := by
  cases limit with
  | zero => rw [shown, List.take_zero]
  | succ limit =>
    rw [shown, received, windows_eq_take_allWindows, seen, List.map_cons, List.take_succ_cons,
      List.map_take]

/-! ## Samples that disagree -/

/-- What is seen at a place is not what was sent there. -/
def Disagrees (seen : List (Option Sample)) (sent : List Sample) (i : Nat) : Prop :=
  seen[i]? ≠ sent[i]?.map some

instance (seen : List (Option Sample)) (sent : List Sample) (i : Nat) :
    Decidable (Disagrees seen sent i) :=
  inferInstanceAs (Decidable (seen[i]? ≠ sent[i]?.map some))

section Disagreement

variable {seen : List (Option Sample)} {sent : List Sample} {i : Nat}

theorem disagrees_cons_zero (received : Option Sample) (seen : List (Option Sample))
    (expected : Sample) (sent : List Sample) :
    Disagrees (received :: seen) (expected :: sent) 0 ↔ received ≠ some expected := by
  simp [Disagrees]

theorem disagrees_cons_succ (received : Option Sample) (seen : List (Option Sample))
    (expected : Sample) (sent : List Sample) (i : Nat) :
    Disagrees (received :: seen) (expected :: sent) (i + 1) ↔ Disagrees seen sent i := by
  simp [Disagrees]

/-- Only the samples that are looked at can disagree there. -/
theorem disagrees_take {limit : Nat} (h : i < limit) :
    Disagrees (seen.take limit) sent i ↔ Disagrees seen sent i := by
  rw [Disagrees, Disagrees, List.getElem?_take_of_lt h]

/-- The samples are compared until both lists have ended or one place disagrees. -/
theorem inOrder_iff :
    inOrder seen sent = true ↔ ∀ i < min seen.length sent.length, ¬ Disagrees seen sent i := by
  -- place by place through both lists at once
  induction seen generalizing sent with
  | nil => simp [inOrder_nil]
  | cons received seen ih =>
    cases sent with
    | nil => simp [inOrder]
    | cons expected sent =>
      have hmin : min (received :: seen).length (expected :: sent).length =
          min seen.length sent.length + 1 := by
        simp only [List.length_cons]
        omega
      rw [inOrder, Bool.and_eq_true, beq_iff_eq, ih, hmin]
      constructor
      · rintro ⟨hhead, htail⟩ i hi
        cases i with
        | zero => exact fun hne => (disagrees_cons_zero ..).mp hne hhead
        | succ i =>
          rw [disagrees_cons_succ]
          exact htail i (by omega)
      · intro hall
        constructor
        · exact not_not.mp ((disagrees_cons_zero ..).not.mp (hall 0 (by omega)))
        · intro i hi
          exact (disagrees_cons_succ ..).not.mp (hall (i + 1) (by omega))

/-- Where nothing disagrees, the shorter list is gone through. -/
theorem compared_of_inOrder (h : inOrder seen sent = true) :
    compared seen sent = min seen.length sent.length := by
  induction seen generalizing sent with
  | nil => rw [compared_nil, List.length_nil, Nat.zero_min]
  | cons received seen ih =>
    cases sent with
    | nil => rfl
    | cons expected sent =>
      rw [inOrder, Bool.and_eq_true, beq_iff_eq] at h
      rw [compared, if_pos h.1, ih h.2, List.length_cons, List.length_cons]
      omega

/-- The sample at the first place that disagrees is the last one to be compared. -/
theorem compared_of_disagrees (hi : i < min seen.length sent.length) (h : Disagrees seen sent i)
    (hfirst : ∀ j < i, ¬ Disagrees seen sent j) : compared seen sent = i + 1 := by
  induction i generalizing seen sent with
  | zero =>
    obtain ⟨received, seen, rfl⟩ := List.exists_cons_of_length_pos (l := seen) (by omega)
    obtain ⟨expected, sent, rfl⟩ := List.exists_cons_of_length_pos (l := sent) (by omega)
    rw [disagrees_cons_zero] at h
    rw [compared, if_neg h]
  | succ i ih =>
    obtain ⟨received, seen, rfl⟩ := List.exists_cons_of_length_pos (l := seen) (by omega)
    obtain ⟨expected, sent, rfl⟩ := List.exists_cons_of_length_pos (l := sent) (by omega)
    have hhead : received = some expected :=
      not_not.mp ((disagrees_cons_zero ..).not.mp (hfirst 0 (by omega)))
    have hlater : compared seen sent = i + 1 := by
      refine ih ?_ ((disagrees_cons_succ ..).mp h) fun j hj => ?_
      · simp only [List.length_cons] at hi
        omega
      · exact (disagrees_cons_succ ..).not.mp (hfirst (j + 1) (by omega))
    rw [compared, if_pos hhead, hlater]

end Disagreement

/-! ## The ordering check -/

/-- An observer at a window that shows a sample, with lines ahead of it and samples in the queues
of the publishers. -/
def standing (sample : Sample) (lines : List String) (queues : List (List Sample)) : Observation :=
  .start ⟨lines.map String.toList, false, ['\n'], (sample.token ++ " ").toList, "[20]".toList,
    .empty⟩ (queues.map SampleQueue.ofSamples) none

/-- The ordering check compares the samples that can be seen with those in the queue of the first
publisher, at most three of them. It takes each sample that it compares, and it leaves the other
queues alone. -/
theorem orderingCheck_finds {state : Observation} {queue : SampleQueue}
    {others : List SampleQueue} (hcrash : state.crashAfter = none)
    (hinbox : state.inbox = queue :: others) :
    let places := min orderedSamples (min queue.queued.length (seen state).length)
    ∃ outcome next, (examine .orderingCheck).result state = (.ok outcome, next) ∧
      (outcome = .dataNotCorrect ↔ ∃ i < places, Disagrees (seen state) queue.queued i) ∧
      (outcome ≠ .dataNotCorrect → outcome = .ok) ∧
      (∀ i < places, Disagrees (seen state) queue.queued i →
        (∀ j < i, ¬ Disagrees (seen state) queue.queued j) →
          next.inbox = queue.skip (i + 1) :: others) ∧
      (outcome = .ok → next.inbox = queue.skip places :: others) := by
  intro places
  have hneeded : Check.orderingCheck.publishersNeeded ≤ state.inbox.length := by
    rw [hinbox]
    exact Nat.succ_le_succ (Nat.zero_le _)
  obtain ⟨next, hresult, hnext⟩ := result_examine .orderingCheck ⟨hcrash, rfl⟩ hneeded
  -- the check looks at the first windows only, which have as many places in common with the queue
  set looked := (seen state).take orderedSamples with hlooked
  have hplaces : min looked.length queue.queued.length = places := by
    rw [hlooked, List.length_take]
    omega
  -- a disagreement within the places compared is one of the windows looked at
  have hagree : ∀ i < places,
      (Disagrees looked queue.queued i ↔ Disagrees (seen state) queue.queued i) :=
    fun i hi => disagrees_take (by omega)
  have hremaining : next.inbox = queue.skip (compared looked queue.queued) :: others := by
    rw [hnext, shown_eq_take, hinbox, reach, ← hlooked, remaining, if_neg]
    · rfl
    · rw [hlooked, seen, List.map_cons]
      exact Bool.false_ne_true
  have houtcome : (examine .orderingCheck).result state =
      (.ok (if inOrder looked queue.queued then .ok else .dataNotCorrect), next) := by
    rw [hresult, shown_eq_take, hinbox]
    rfl
  have hdisagrees : (∃ i < places, Disagrees (seen state) queue.queued i) ↔
      ¬ inOrder looked queue.queued = true := by
    rw [inOrder_iff, hplaces]
    constructor
    · rintro ⟨i, hi, hhere⟩ hnone
      exact hnone i hi ((hagree i hi).mpr hhere)
    · intro hsome
      by_contra hnone
      exact hsome fun i hi hhere => hnone ⟨i, hi, (hagree i hi).mp hhere⟩
  refine ⟨_, next, houtcome, ?_, ?_, ?_, ?_⟩
  · rw [hdisagrees]
    cases inOrder looked queue.queued with
    | true => exact iff_of_false (by decide) (not_not.mpr rfl)
    | false => exact iff_of_true rfl Bool.false_ne_true
  · intro hother
    split
    · rfl
    · exact absurd (if_neg (by assumption)) hother
  · intro i hi hhere hfirst
    have hcompared : compared looked queue.queued = i + 1 :=
      compared_of_disagrees (by omega) ((hagree i hi).mpr hhere) fun j hj =>
        (hagree j (by omega)).not.mpr (hfirst j hj)
    rw [hremaining, hcompared]
  · intro hok
    have horder : inOrder looked queue.queued = true := by
      by_contra hnot
      rw [if_neg hnot] at hok
      cases hok
    rw [hremaining, compared_of_inOrder horder, hplaces]

/-- The second sample was lost, so that the third one came in its place. Two samples were taken by
then. -/
theorem orderingCheck_finds_gap :
    ∃ next, (examine .orderingCheck).result
        (standing ⟨"001 001"⟩ ["003 003 [20]"] [[⟨"001 001"⟩, ⟨"002 002"⟩, ⟨"003 003"⟩], []]) =
          (.ok .dataNotCorrect, next) ∧
      next.inbox = [⟨3, [⟨"003 003"⟩], true, true⟩, .ofSamples []] := by
  have hseen : seen (standing ⟨"001 001"⟩ ["003 003 [20]"]
      [[⟨"001 001"⟩, ⟨"002 002"⟩, ⟨"003 003"⟩], []]) = [some ⟨"001 001"⟩, some ⟨"003 003"⟩] := by
    decide +kernel
  obtain ⟨outcome, next, hresult, houtcome, -, htaken, -⟩ := @orderingCheck_finds
    (standing ⟨"001 001"⟩ ["003 003 [20]"] [[⟨"001 001"⟩, ⟨"002 002"⟩, ⟨"003 003"⟩], []])
    (.ofSamples [⟨"001 001"⟩, ⟨"002 002"⟩, ⟨"003 003"⟩]) [.ofSamples []] rfl rfl
  rw [hseen] at houtcome htaken
  have hwrong : outcome = .dataNotCorrect := houtcome.mpr ⟨1, by decide, by decide⟩
  rw [hwrong] at hresult
  exact ⟨next, hresult, htaken 1 (by decide) (by decide) (by decide)⟩

/-! ## The multi-source check -/

/-- A window without a sample changes nothing. -/
theorem foldl_account_reduceOption (seen : List (Option Sample)) (sources : Sources) :
    (seen.reduceOption.map some).foldl Sources.account sources =
      seen.foldl Sources.account sources := by
  induction seen generalizing sources with
  | nil => rfl
  | cons received seen ih =>
    cases received with
    | none =>
      rw [List.reduceOption_cons_of_none, List.foldl_cons, ih]
      rfl
    | some sample =>
      rw [List.reduceOption_cons_of_some, List.map_cons, List.foldl_cons, List.foldl_cons, ih]

/-- Of each sample that is seen, whether it counts for the second publisher. -/
def sourcesOf (second : List Sample) (seen : List (Option Sample)) : List Bool :=
  seen.reduceOption.map second.contains

/-- The tally of the sources, kept while reading, answers the question about the changes of
source. -/
theorem fromBoth_iff_changes (second : List Sample) (seen : List (Option Sample)) :
    fromBoth second seen = true ↔ second ≠ [] ∧ 2 ≤ changes (sourcesOf second seen) := by
  have hgaps : fromBoth second seen = fromBoth second (seen.reduceOption.map some) := by
    rw [fromBoth, fromBoth, foldl_account_reduceOption]
  rw [sourcesOf, ← fromBoth_iff, ← hgaps]
  constructor
  · intro hboth
    refine ⟨?_, hboth⟩
    rintro rfl
    rw [fromBoth_nil] at hboth
    cases hboth
  · exact And.right

/-- The multi-source check finds both publishers just if the second one has reported samples and
the source changes at least twice among the samples that can be seen in the first 80 windows. It
empties the queue of the second publisher and leaves the other queues alone. -/
theorem multiSourceCheck_finds {state : Observation} (hcrash : state.crashAfter = none) :
    match state.inbox with
    | first :: second :: others => ∃ outcome next,
        (examine .multiSourceCheck).result state = (.ok outcome, next) ∧
        (outcome = .receivingFromBoth ↔ second.queued ≠ [] ∧
          2 ≤ changes (sourcesOf second.queued ((seen state).take sourceWindows))) ∧
        (outcome ≠ .receivingFromBoth → outcome = .receivingFromOne) ∧
        next.inbox = first :: { second with queued := [] } :: others
    | _ => ∃ next, (examine .multiSourceCheck).result state = (.ok .receivingFromOne, next) ∧
        next.inbox = state.inbox := by
  split
  · rename_i first second others hinbox
    have hneeded : Check.multiSourceCheck.publishersNeeded ≤ state.inbox.length := by
      rw [hinbox]
      exact Nat.succ_le_succ (Nat.succ_le_succ (Nat.zero_le _))
    obtain ⟨next, hresult, hnext⟩ := result_examine .multiSourceCheck ⟨hcrash, rfl⟩ hneeded
    rw [shown_eq_take, hinbox] at hresult hnext
    -- the window that the check stands at is one that it looks at
    have hseen : ((seen state).take (reach .multiSourceCheck)).isEmpty = false := rfl
    have houtcome : (examine .multiSourceCheck).result state =
        (.ok (if fromBoth second.queued ((seen state).take sourceWindows)
          then .receivingFromBoth else .receivingFromOne), next) := hresult
    refine ⟨_, next, houtcome, ?_, ?_, ?_⟩
    · rw [← fromBoth_iff_changes]
      cases fromBoth second.queued ((seen state).take sourceWindows) with
      | true => exact iff_of_true rfl rfl
      | false => exact iff_of_false (by decide) Bool.false_ne_true
    · intro hother
      split
      · exact absurd (if_pos (by assumption)) hother
      · rfl
    · have hempty : second.skip second.queued.length = { second with queued := [] } := by
        rw [SampleQueue.skip, List.drop_length]
      rw [hnext, remaining, hseen, if_neg Bool.false_ne_true, ← hempty]
      rfl
  · rename_i hfew
    have hshort : state.inbox.length < 2 := by
      rcases hinbox : state.inbox with _ | ⟨first, _ | ⟨second, others⟩⟩
      · exact Nat.zero_lt_two
      · exact Nat.one_lt_two
      · exact absurd hinbox (hfew first second others)
    rw [examine, result_bind_of_ok (result_get state), if_pos hshort,
      result_bind_of_ok (result_note ..)]
    exact ⟨_, rfl, rfl⟩

/-- The source changes to the second publisher and back, with a window between that shows no
sample. -/
theorem multiSourceCheck_finds_return :
    ∃ next, (examine .multiSourceCheck).result
        (standing ⟨"001 001"⟩ ["001 002 [20]", "[20]", "002 001 [20]"]
          [[⟨"001 001"⟩], [⟨"001 002"⟩]]) = (.ok .receivingFromBoth, next) ∧
      next.inbox = [.ofSamples [⟨"001 001"⟩], ⟨1, [], true, true⟩] := by
  have hseen : seen (standing ⟨"001 001"⟩ ["001 002 [20]", "[20]", "002 001 [20]"]
      [[⟨"001 001"⟩], [⟨"001 002"⟩]]) =
        [some ⟨"001 001"⟩, some ⟨"001 002"⟩, none, some ⟨"002 001"⟩] := by
    decide +kernel
  obtain ⟨outcome, next, hresult, houtcome, -, hnext⟩ := @multiSourceCheck_finds
    (standing ⟨"001 001"⟩ ["001 002 [20]", "[20]", "002 001 [20]"]
      [[⟨"001 001"⟩], [⟨"001 002"⟩]]) rfl
  have hboth : outcome = .receivingFromBoth := by
    refine houtcome.mpr ⟨by decide, ?_⟩
    rw [hseen]
    decide
  rw [hboth] at hresult
  exact ⟨next, hresult, hnext⟩

end Reception

end PubSubTrials
