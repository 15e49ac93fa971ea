import PubSubTrials.Proofs.Reporting

/-!
# Opening lines

What an entity prints first takes it to its data stage; what follows makes no difference to that,
since a marker that begins in a line ends in it (`passage_append_of_lines`). `opening` is the least
that an entity of either role can print to get there.
-/

namespace PubSubTrials

open Output Lifecycle

namespace Output

/-- The markers that begin in whole lines are the same ones whatever follows the lines. -/
theorem markerAt?_append {front : List Char} (h : LineEnded front) (markers : List Marker)
    (more : List Char) {start : Nat} (hstart : start < front.length) :
    markerAt? markers (front ++ more) start = markerAt? markers front start := by
  have hne : front.drop start ≠ [] := fun hnil =>
    Nat.not_le.mpr hstart (List.drop_eq_nil_iff.mp hnil)
  have hsame : ∀ m : Marker, m.endAt? (front ++ more) start = m.endAt? front start := by
    intro m
    have hwithin := Pattern.within_markers (h.drop start) hne [m] more
    rw [m.endAt?_eq, m.endAt?_eq, List.drop_append_of_le_length (Nat.le_of_lt hstart),
      Pattern.lengthAt?_append (hwithin _ (List.mem_singleton.mpr rfl))]
  rw [markerAt?, markerAt?]
  simp only [hsame]

/-- What is found leftmost among whole lines is so with more lines behind them. -/
theorem leftmost_append {front : List Char} (h : LineEnded front) {markers : List Marker}
    {start : Nat} {found : Marker × Nat} (hfound : leftmost markers front start = some found)
    (more : List Char) : leftmost markers (front ++ more) start = some found := by
  obtain ⟨earlier, i, later, hrange, hi, hnone⟩ := List.findSome?_eq_some_iff.mp hfound
  have hlt : ∀ j ∈ earlier ++ i :: later, j < front.length := by
    intro j hj
    rw [← hrange, List.mem_range'_1] at hj
    omega
  have hstart : start < front.length := by
    have hmem : i ∈ List.range' start (front.length - start) := by simp [hrange]
    rw [List.mem_range'_1] at hmem
    omega
  have hlength : (front ++ more).length - start = front.length - start + more.length := by
    rw [List.length_append]
    omega
  -- the positions in front come first, and at those nothing has changed
  rw [leftmost, hlength, ← List.range'_append_1, hrange, List.append_assoc]
  refine List.findSome?_eq_some_iff.mpr ⟨earlier, i, _, rfl, ?_, fun j hj => ?_⟩
  · rw [markerAt?_append h markers more (hlt i (by simp)), hi]
  · rw [markerAt?_append h markers more (hlt j (List.mem_append_left _ hj)), hnone j hj]

end Output

namespace Lifecycle

/-- A stage that is reached within whole lines is reached whatever follows them. -/
theorem read_append {front : List Char} (h : LineEnded front) {milestone : Milestone}
    {start stop : Nat} (hread : milestone.read front start = .ok stop) (more : List Char) :
    milestone.read (front ++ more) start = .ok stop := by
  rw [Milestone.read] at hread ⊢
  cases hleft : leftmost milestone.markers front start with
  | none =>
    rw [hleft] at hread
    cases hread
  | some found =>
    rw [hleft] at hread
    rw [leftmost_append h hleft]
    exact hread

/-- Stages that are passed among whole lines are passed with more lines behind them. -/
theorem passage_append_of_lines {front : List Char} (h : LineEnded front)
    {milestones : List Milestone} {start stop : Nat}
    (hpass : passage front milestones start = .ok stop) (more : List Char) :
    passage (front ++ more) milestones start = .ok stop := by
  induction milestones generalizing start with
  | nil => exact hpass
  | cons milestone rest ih =>
    rw [passage] at hpass ⊢
    cases hread : milestone.read front start with
    | error outcome =>
      rw [hread] at hpass
      cases hpass
    | ok next =>
      rw [hread] at hpass
      rw [read_append h hread more]
      exact ih hpass

/-- The bare markers of an entity that reaches its data stage. -/
def opening : Role → List String
  | .publisher => ["Create topic:", "Create writer for topic", "on_publication_matched"]
  | .subscriber =>
    ["Create topic:", "Create reader for topic", "on_subscription_matched",
      "on_liveliness_changed"]

/-- What an entity prints whose lines start with the bare markers. -/
def textAfterOpening (role : Role) (lines : List String) : List Char :=
  joinLines ((opening role ++ lines).map String.toList)

/-- The opening comes first, and then the lines. -/
theorem textAfterOpening_eq (role : Role) (lines : List String) :
    textAfterOpening role lines =
      textAfterOpening role [] ++ joinLines (lines.map String.toList) := by
  rw [textAfterOpening, textAfterOpening, List.append_nil, List.map_append, joinLines,
    List.flatMap_append, joinLines, joinLines]

/-- The bare markers take an entity to its data stage, and use up all but the last line feed. -/
theorem passage_opening (role : Role) (lines : List String) :
    ∃ start, passage (textAfterOpening role lines) (approachOf role) 0 = .ok start ∧
      (textAfterOpening role lines).drop start = '\n' :: joinLines (lines.map String.toList) := by
  have hbare : ∃ start, passage (textAfterOpening role []) (approachOf role) 0 = .ok start ∧
      start ≤ (textAfterOpening role []).length ∧
      (textAfterOpening role []).drop start = ['\n'] := by
    cases role with
    | publisher => exact ⟨60, by decide +kernel⟩
    | subscriber => exact ⟨83, by decide +kernel⟩
  obtain ⟨start, hpass, hle, hdrop⟩ := hbare
  have hended : LineEnded (textAfterOpening role []) := lineEnded_joinLines _
  refine ⟨start, ?_, ?_⟩
  · rw [textAfterOpening_eq, passage_append_of_lines hended hpass]
  · rw [textAfterOpening_eq, List.drop_append_of_le_length hle, hdrop, List.singleton_append]

/-- What an entity shows that prints the bare markers and then other lines. -/
theorem shownBy_opening (role : Role) (limit : Nat) (lines : List String) :
    shownBy role limit (textAfterOpening role lines) =
      Reception.received limit ('\n' :: joinLines (lines.map String.toList)) := by
  obtain ⟨start, hpass, hdrop⟩ := passage_opening role lines
  rw [shownBy, hpass]
  dsimp only
  rw [hdrop]

/-! ## Entities that get to their data -/

/-- A stage that waits for data is reached if there is any. -/
theorem passage_concat_data {text : List Char} {first : List Milestone} {start : Nat}
    (hpass : passage text first 0 = .ok start)
    (hdata : (scan [.marker .data] [] (text.drop start)).isSome = true) (missing : Outcome) :
    ∃ stop, passage text (first ++ [⟨.data, [], missing⟩]) 0 = .ok stop := by
  obtain ⟨hit, hhit⟩ := Option.isSome_iff_exists.mp hdata
  have hread := read_plain .data missing text start
  rw [hhit] at hread
  obtain ⟨stop, hstop, -⟩ := hread
  refine ⟨stop, ?_⟩
  rw [passage_append, hpass]
  dsimp only
  rw [passage, hstop]
  rfl

/-- A publisher that shows data behind its stages does well. -/
theorem outcomeOf_of_data {text : List Char} {start : Nat}
    (hpass : passage text (approachOf .publisher) 0 = .ok start)
    (hdata : (scan [.marker .data] [] (text.drop start)).isSome = true) :
    outcomeOf .publisher true text = .ok := by
  obtain ⟨stop, hstop⟩ := passage_concat_data hpass hdata .dataNotSent
  have hmilestones : milestones .publisher true =
      approachOf .publisher ++ [⟨.data, [], .dataNotSent⟩] := rfl
  rw [outcomeOf, hmilestones, hstop]

/-- Of a subscriber that shows data behind its stages the check decides. -/
theorem subscriberOutcome_of_data {text : List Char} {start : Nat}
    (hpass : passage text (approachOf .subscriber) 0 = .ok start)
    (hdata : (scan [.marker .data] [] (text.drop start)).isSome = true) (check : Check)
    (queues : List SampleQueue) :
    subscriberOutcome check queues text =
      Reception.verdict check queues (shownBy .subscriber (Reception.reach check) text) := by
  obtain ⟨stop, hstop⟩ := passage_concat_data hpass hdata .dataNotReceived
  have hmilestones : milestones .subscriber false =
      approachOf .subscriber ++ [⟨.data, [], .dataNotReceived⟩] := rfl
  rw [subscriberOutcome, hmilestones, hstop, shownBy_subscriber]

end Lifecycle

namespace Trial

/-- The entity of a seat is launched, and prints the bare markers of a role and then lines. -/
def Seat.Prints (seat : Seat) (role : Role) (lines : List String) : Prop :=
  ∃ performance, seat.launch = .ok performance ∧ performance.lines = opening role ++ lines

theorem Seat.Prints.text {seat : Seat} {role : Role} {lines : List String}
    (h : seat.Prints role lines) : seat.text = textAfterOpening role lines := by
  obtain ⟨performance, hlaunch, hlines⟩ := h
  rw [Seat.text, hlaunch, textAfterOpening, ← hlines]

end Trial

end PubSubTrials
