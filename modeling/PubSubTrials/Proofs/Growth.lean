import PubSubTrials.Proofs.Openings

/-!
# More output

An entity is observed by what it has printed so far. When it prints more, the outcome may change,
but only for the better: `Outcome.progress` counts the stages that an entity with an outcome has
passed, and further lines never lower it. An outcome that an entity has announced itself, or that
the samples received have proved, does not change at all (`observe_append`).

Both follow stage by stage. A marker that decides a stage decides it also in the longer output
(`error_read_append`), so a stage can only end otherwise if none of its markers was there; then some
later stage decides, and stages are in the order of their progress (`Graded`). The windows of the
shorter output are the first ones of the longer output (`received_prefix`), and what the checks have
found in these stays found (`verdict_append`).
-/

namespace PubSubTrials

open Output

/-- Number of stages that an entity with an outcome has passed. -/
def Outcome.progress : Outcome → Nat
  | topicNotCreated | unrecognizedValue => 0
  | writerNotCreated | readerNotCreated | filterNotCreated => 1
  | readerNotMatched | writerNotMatched | incompatibleQos => 2
  | writerNotAlive => 3
  | dataNotSent | dataNotReceived => 4
  | ok | dataNotCorrect | receivingFromOne | receivingFromBoth => 5

namespace Lifecycle

/-- The outcomes that stand whatever an entity prints afterwards: those it has announced, faults
and mixtures found in its data, and success where nothing is examined. -/
def Plan.IsDecisive (plan : Plan) : Outcome → Prop
  | .unrecognizedValue | .filterNotCreated | .incompatibleQos => True
  | .dataNotCorrect | .receivingFromBoth => True
  | .ok => plan.check = .noCheck ∨ plan.role = .publisher
  | _ => False

/-! ## One stage in a longer output -/

/-- The outcomes of an entity that does not pass a stage. -/
def Milestone.outcomes (milestone : Milestone) : List Outcome :=
  milestone.missing :: milestone.refusals.map Prod.snd

theorem mem_outcomes_of_read {milestone : Milestone} {text : List Char} {start : Nat}
    {outcome : Outcome} (h : milestone.read text start = .error outcome) :
    outcome ∈ milestone.outcomes := by
  rw [Milestone.read] at h
  split at h
  · obtain rfl := Except.error.inj h
    exact List.mem_cons_self
  · rename_i m stop hleft
    split at h
    · cases h
    · obtain rfl := Except.error.inj h
      cases hlookup : milestone.refusals.lookup m with
      | none => exact List.mem_cons_self
      | some refused =>
        obtain ⟨front, rest, hrefusals, -⟩ := List.lookup_eq_some_iff.mp hlookup
        refine List.mem_cons_of_mem _ (List.mem_map.mpr ⟨(m, refused), ?_, rfl⟩)
        rw [hrefusals]
        exact List.mem_append_right _ List.mem_cons_self

/-- A stage that fails in whole lines fails whatever follows them, unless its markers are just
missing. -/
theorem error_read_append {front : List Char} (h : LineEnded front) {milestone : Milestone}
    {start : Nat} {outcome : Outcome} (hread : milestone.read front start = .error outcome)
    (more : List Char) :
    outcome = milestone.missing ∨ milestone.read (front ++ more) start = .error outcome := by
  rw [Milestone.read] at hread
  cases hleft : leftmost milestone.markers front start with
  | none =>
    rw [hleft] at hread
    exact .inl (Except.error.inj hread).symm
  | some found =>
    rw [hleft] at hread
    rw [Milestone.read, leftmost_append h hleft]
    exact .inr hread

/-! ## All stages in a longer output -/

/-- Stages of which each has outcomes of one progress, in the order of that. -/
structure Graded (milestones : List Milestone) : Prop where
  level : ∀ milestone ∈ milestones, ∀ outcome ∈ milestone.outcomes,
    outcome.progress = milestone.missing.progress
  ascending : milestones.Pairwise fun earlier later =>
    earlier.missing.progress ≤ later.missing.progress

theorem graded_milestones (role : Role) (reportsSamples : Bool) :
    Graded (milestones role reportsSamples) := by
  cases role <;> cases reportsSamples <;> exact ⟨by decide, by decide⟩

/-- A passage that fails does so at one of its stages. -/
theorem exists_mem_outcomes_of_passage {text : List Char} {milestones : List Milestone}
    {start : Nat} {outcome : Outcome} (h : passage text milestones start = .error outcome) :
    ∃ milestone ∈ milestones, outcome ∈ milestone.outcomes := by
  induction milestones generalizing start with
  | nil => cases h
  | cons milestone rest ih =>
    rw [passage] at h
    cases hread : milestone.read text start with
    | error failed =>
      rw [hread] at h
      obtain rfl := Except.error.inj h
      exact ⟨milestone, List.mem_cons_self, mem_outcomes_of_read hread⟩
    | ok stop =>
      rw [hread] at h
      obtain ⟨later, hlater, houtcome⟩ := ih h
      exact ⟨later, List.mem_cons_of_mem _ hlater, houtcome⟩

/-- An entity that fails in whole lines fails the same way whatever follows them, or comes at least
as far; it fails the same way unless markers are missing. -/
theorem error_passage_append {front : List Char} (h : LineEnded front)
    {milestones : List Milestone} (hgraded : Graded milestones) {start : Nat} {outcome : Outcome}
    (hpass : passage front milestones start = .error outcome) (more : List Char) :
    passage (front ++ more) milestones start = .error outcome ∨
      (∃ milestone ∈ milestones, outcome = milestone.missing) ∧
        ∀ later, passage (front ++ more) milestones start = .error later →
          outcome.progress ≤ later.progress := by
  induction milestones generalizing start with
  | nil => cases hpass
  | cons milestone rest ih =>
    obtain ⟨hlevel, hascending⟩ := hgraded
    obtain ⟨hfirst, hrest⟩ := List.pairwise_cons.mp hascending
    have hrestLevel : ∀ later ∈ rest, ∀ outcome ∈ later.outcomes,
        outcome.progress = later.missing.progress :=
      fun later hmem => hlevel later (List.mem_cons_of_mem _ hmem)
    rw [passage] at hpass
    cases hread : milestone.read front start with
    | ok stop =>
      rw [hread] at hpass
      rw [passage, read_append h hread]
      refine (ih ⟨hrestLevel, hrest⟩ hpass).imp_right fun hmissing => ⟨?_, hmissing.2⟩
      obtain ⟨later, hmem, heq⟩ := hmissing.1
      exact ⟨later, List.mem_cons_of_mem _ hmem, heq⟩
    | error failed =>
      rw [hread] at hpass
      obtain rfl := Except.error.inj hpass
      rcases error_read_append h hread more with rfl | hsame
      · refine .inr ⟨⟨milestone, List.mem_cons_self, rfl⟩, fun later hlater => ?_⟩
        -- whichever stage decides now, it is this one or one after it
        obtain ⟨decider, hmem, houtcome⟩ := exists_mem_outcomes_of_passage hlater
        rw [hlevel decider hmem later houtcome]
        rcases List.mem_cons.mp hmem with rfl | hmem
        · exact Nat.le_refl _
        · exact hfirst decider hmem
      · exact .inl (by rw [passage, hsame])

end Lifecycle

/-! ## The checks in a longer output -/

namespace Reception

/-- The windows of whole lines come first, whatever follows the lines. -/
theorem received_prefix {front : List Char} (h : LineEnded front) (limit : Nat)
    (more : List Char) : received limit front <+: received limit (front ++ more) := by
  induction limit generalizing front with
  | zero => exact List.prefix_rfl
  | succ limit ih =>
    have hseam := scan_markers_append h [.data] [] more
    rw [List.map_singleton] at hseam
    cases hscan : scan [.marker .data] [] front with
    | none =>
      rw [received_of_none hscan]
      exact List.nil_prefix
    | some hit =>
      rw [hscan] at hseam
      rw [received_of_some hscan, received_of_some hseam]
      exact (List.prefix_cons_inj _).mpr (ih (lineEnded_rest h hscan))

/-- Samples that are out of order stay so when more are received. -/
theorem inOrder_append_of_false {seen : List (Option Sample)} {sent : List Sample}
    (h : inOrder seen sent = false) (more : List (Option Sample)) :
    inOrder (seen ++ more) sent = false := by
  induction seen generalizing sent with
  | nil => rw [inOrder_nil] at h; cases h
  | cons sample rest ih =>
    cases sent with
    | nil => cases h
    | cons expected others =>
      rw [inOrder, Bool.and_eq_false_iff] at h
      rw [List.cons_append, inOrder, Bool.and_eq_false_iff]
      exact h.imp_right ih

/-- Data of both sources stays so whatever is seen later. -/
theorem fromBoth_append_of_true {second : List Sample} {seen : List (Option Sample)}
    (h : fromBoth second seen = true) (more : List (Option Sample)) :
    fromBoth second (seen ++ more) = true := by
  rw [fromBoth, List.foldl_append]
  exact both_foldl_account h more

/-- When more samples are received, a check may take back only that all was in order so far, or
that they came from one publisher so far. -/
theorem verdict_append (check : Check) (queues : List SampleQueue)
    (seen more : List (Option Sample)) :
    verdict check queues (seen ++ more) = verdict check queues seen ∨
      (check = .orderingCheck ∧ verdict check queues seen = .ok) ∨
      verdict check queues seen = .receivingFromOne := by
  cases check with
  | noCheck => exact .inl rfl
  | orderingCheck =>
    simp only [verdict]
    cases h : inOrder seen (queuedBy 0 queues) with
    | true => exact .inr (.inl ⟨trivial, rfl⟩)
    | false =>
      rw [inOrder_append_of_false h]
      exact .inl rfl
  | multiSourceCheck =>
    simp only [verdict]
    cases h : fromBoth (queuedBy 1 queues) seen with
    | true =>
      rw [fromBoth_append_of_true h]
      exact .inl rfl
    | false => exact .inr (.inr rfl)

/-- What a check concludes without the queues that it needs. -/
def unequipped : Check → Outcome
  | .noCheck => .ok
  | .orderingCheck => .dataNotCorrect
  | .multiSourceCheck => .receivingFromOne

/-- What a check concludes, whether or not it has the queues that it needs. -/
def conclusion (check : Check) (queues : List SampleQueue) (seen : List (Option Sample)) :
    Outcome :=
  if check.publishersNeeded ≤ queues.length then verdict check queues seen else unequipped check

/-- A check is the last stage. -/
theorem progress_conclusion (check : Check) (queues : List SampleQueue)
    (seen : List (Option Sample)) : (conclusion check queues seen).progress = 5 := by
  rw [conclusion]
  split
  · cases check <;> simp only [verdict] <;> (try split) <;> rfl
  · cases check <;> rfl

/-- What a check has found is kept when more is seen, unless it was that all is in order so far or
that there is one source so far. -/
theorem conclusion_append (check : Check) (queues : List SampleQueue)
    (seen more : List (Option Sample)) :
    conclusion check queues (seen ++ more) = conclusion check queues seen ∨
      (check = .orderingCheck ∧ conclusion check queues seen = .ok) ∨
      conclusion check queues seen = .receivingFromOne := by
  rw [conclusion, conclusion]
  split
  · exact verdict_append check queues seen more
  · exact .inl rfl

/-- Without the queues that it needs a check does not look at the samples. -/
theorem result_examine_unequipped {check : Check} {state : Observation}
    (h : ¬ check.publishersNeeded ≤ state.inbox.length) :
    ∃ next, (examine check).result state = (.ok (unequipped check), next) := by
  cases check with
  | noCheck => exact absurd (Nat.zero_le _) h
  | orderingCheck =>
    have hempty : state.inbox.isEmpty = true := by
      rw [List.isEmpty_iff_length_eq_zero]
      exact Nat.lt_one_iff.mp (Nat.not_le.mp h)
    rw [examine, Observing.result_bind_of_ok (Observing.result_get state), if_pos hempty]
    exact ⟨_, rfl⟩
  | multiSourceCheck =>
    have hfew : state.inbox.length < 2 := Nat.not_le.mp h
    rw [examine, Observing.result_bind_of_ok (Observing.result_get state), if_pos hfew]
    exact ⟨_, rfl⟩

end Reception

namespace Lifecycle

open Reception Observing

/-! ## Whole observations -/

/-- What an entity is found to be that has passed all its stages. -/
def Plan.conclude (plan : Plan) (inbox : List SampleQueue) (text : List Char) : Outcome :=
  match plan.role with
  | .publisher => .ok
  | .subscriber => conclusion plan.check inbox (samplesOf (reach plan.check) text)

/-- The outcome of an entity, read off all that it has printed. -/
def Plan.outcome (plan : Plan) (inbox : List SampleQueue) (text : List Char) : Outcome :=
  match passage text (milestones plan.role plan.reportsSamples) 0 with
  | .ok _ => plan.conclude inbox text
  | .error outcome => outcome

/-- An observer that walks through all stages answers what it concludes after them. -/
theorem result_observe_of_passing {plan : Plan} {onward : Observing Outcome}
    (h : Passing (stages plan) onward (milestones plan.role plan.reportsSamples))
    {state : Observation} {text : List Char} (hat : state.At text 0)
    (honward : ∀ next : Observation, next.crashAfter = none → next.inbox = state.inbox →
      ∃ last, onward.result next = (.ok (plan.conclude state.inbox text), last)) :
    ((observe plan).result state).1 = .ok (plan.outcome state.inbox text) := by
  have hpassing := h state text 0 hat
  rw [Plan.outcome]
  cases hpass : passage text (milestones plan.role plan.reportsSamples) 0 with
  | error outcome =>
    rw [hpass] at hpassing
    obtain ⟨next, count, heq, -⟩ := hpassing
    rw [observe, result_bind_of_ok heq]
    rfl
  | ok stop =>
    rw [hpass] at hpassing
    obtain ⟨next, heq, hnext, hwaited⟩ := hpassing
    obtain ⟨last, hlast⟩ := honward next hnext.crashAfter hwaited.inbox
    rw [observe, result_bind_of_ok (heq.trans hlast)]
    rfl

/-- The observer of an entity of either role finds the outcome that its whole output tells. -/
theorem result_observe (plan : Plan) {state : Observation} {text : List Char}
    (h : state.At text 0) :
    ((observe plan).result state).1 = .ok (plan.outcome state.inbox text) := by
  obtain ⟨role, reportsSamples, check⟩ := plan
  cases role with
  | publisher =>
    -- the check of a case is none of a publisher's business
    refine result_observe_of_passing
      (passing_noCheck .publisher reportsSamples) h fun next hcrash _ => ?_
    exact calm_afterData .publisher reportsSamples next hcrash
  | subscriber =>
    by_cases hneeded : check.publishersNeeded ≤ state.inbox.length
    · obtain ⟨next, hresult, -⟩ := result_observe_subscriber reportsSamples check h hneeded
      have houtcome : Plan.outcome ⟨.subscriber, reportsSamples, check⟩ state.inbox text =
          subscriberOutcome check state.inbox text := by
        simp only [Plan.outcome, Plan.conclude, conclusion, if_pos hneeded]
        rfl
      rw [hresult, houtcome]
    · refine result_observe_of_passing
        ((passing_approach reportsSamples check).trans (passing_receiveData check)) h ?_
      intro next _ hinbox
      simp only [Plan.conclude, conclusion, if_neg hneeded]
      exact result_examine_unequipped (by rwa [hinbox])

theorem progress_conclude (plan : Plan) (inbox : List SampleQueue) (text : List Char) :
    (plan.conclude inbox text).progress = 5 := by
  rw [Plan.conclude]
  cases plan.role with
  | publisher => rfl
  | subscriber => exact progress_conclusion _ _ _

/-- No outcome but those of the last stage has more progress. -/
theorem progress_le (outcome : Outcome) : outcome.progress ≤ 5 := by
  cases outcome <;> decide

/-- What is decided after all stages stays decided. -/
theorem conclude_append {plan : Plan} {front : List Char} (h : LineEnded front) {stop : Nat}
    (hpass : passage front (milestones plan.role plan.reportsSamples) 0 = .ok stop)
    (inbox : List SampleQueue) (more : List Char)
    (hdecisive : plan.IsDecisive (plan.conclude inbox front)) :
    plan.conclude inbox (front ++ more) = plan.conclude inbox front := by
  obtain ⟨role, reportsSamples, check⟩ := plan
  cases role with
  | publisher => rfl
  | subscriber =>
    -- the stages before the data end at the same place in both outputs
    have hmilestones : milestones .subscriber reportsSamples = approach ++ [dataReceived] := rfl
    rw [hmilestones, passage_append] at hpass
    cases happroach : passage front approach 0 with
    | error outcome =>
      rw [happroach] at hpass
      cases hpass
    | ok alive =>
      have halive := passage_append_of_lines h happroach more
      obtain ⟨later, hlater⟩ : samplesOf (reach check) front <+:
          samplesOf (reach check) (front ++ more) := by
        have hdrop : (front ++ more).drop alive =
            front.drop alive ++ more.drop (alive - front.length) := List.drop_append
        simp only [samplesOf, happroach, halive, hdrop]
        exact received_prefix (h.drop alive) _ _
      have hkept := conclusion_append check inbox (samplesOf (reach check) front) later
      simp only [Plan.conclude] at hdecisive ⊢
      rw [← hlater]
      refine hkept.resolve_right fun hchanged => ?_
      rcases hchanged with ⟨hcheck, hok⟩ | hone
      · rw [hok, hcheck] at hdecisive
        rcases hdecisive with hnone | hrole
        · cases hnone
        · cases hrole
      · rw [hone] at hdecisive
        exact hdecisive

/-- An outcome for which a marker is missing is not decisive. -/
theorem not_isDecisive_missing (plan : Plan) :
    ∀ milestone ∈ milestones plan.role plan.reportsSamples,
      ¬ plan.IsDecisive milestone.missing := by
  obtain ⟨role, reportsSamples, check⟩ := plan
  cases role <;> cases reportsSamples <;>
    simp [milestones, publisherMilestones, subscriberMilestones, topicCreated, writerCreated,
      publicationMatched, dataSent, readerCreated, subscriptionMatched, writerAlive, dataReceived,
      Plan.IsDecisive]

/-- When an entity prints more, it does not fall back, and what was decided stays so: for every role
and check, with the same samples to be compared with, and whether or not the output has ended in the
one run or the other. -/
theorem observe_append (plan : Plan) (inbox : List SampleQueue) (outbox : Option SampleQueue)
    (lines more : List (List Char)) (isOpen isOpenLater : Bool) :
    ∃ first second,
      ((observe plan).result (.start (.ofLines lines isOpen) inbox outbox)).1 = .ok first ∧
      ((observe plan).result (.start (.ofLines (lines ++ more) isOpenLater) inbox outbox)).1 =
        .ok second ∧
      first.progress ≤ second.progress ∧ (plan.IsDecisive first → second = first) := by
  -- whole lines come first, so what was found in them is found again
  have hended : LineEnded (joinLines lines) := lineEnded_joinLines lines
  have hlonger : joinLines (lines ++ more) = joinLines lines ++ joinLines more :=
    List.flatMap_append
  refine ⟨plan.outcome inbox (joinLines lines), plan.outcome inbox (joinLines (lines ++ more)),
    result_observe plan (start_at lines isOpen inbox outbox),
    result_observe plan (start_at (lines ++ more) isOpenLater inbox outbox), ?_⟩
  rw [hlonger, Plan.outcome, Plan.outcome]
  cases hpass : passage (joinLines lines) (milestones plan.role plan.reportsSamples) 0 with
  | ok stop =>
    rw [passage_append_of_lines hended hpass]
    dsimp only
    rw [progress_conclude, progress_conclude]
    exact ⟨Nat.le_refl 5, conclude_append hended hpass inbox (joinLines more)⟩
  | error outcome =>
    have hgraded := graded_milestones plan.role plan.reportsSamples
    rcases error_passage_append hended hgraded hpass (joinLines more) with hsame | hmissing
    · rw [hsame]
      exact ⟨Nat.le_refl _, fun _ => rfl⟩
    · obtain ⟨⟨milestone, hmem, rfl⟩, hfurther⟩ := hmissing
      refine ⟨?_, fun hdecisive => absurd hdecisive (not_isDecisive_missing plan milestone hmem)⟩
      cases hlater : passage (joinLines lines ++ joinLines more)
          (milestones plan.role plan.reportsSamples) 0 with
      | error later => exact hfurther later hlater
      | ok stop =>
        dsimp only
        rw [progress_conclude]
        exact progress_le _

/-- What a subscriber has printed that received a sample in another one's place. -/
def outOfOrder : List String :=
  ["Create topic:", "Create reader for topic", "on_subscription_matched", "on_liveliness_changed",
    "002 002 [20]"]

/-- A subscriber that received the second sample first stays one whose data are not correct, also
when it shows the first one afterwards. -/
theorem observe_append_outOfOrder :
    let plan : Plan := ⟨.subscriber, true, .orderingCheck⟩
    let sent := SampleQueue.ofSamples [⟨"001 001"⟩, ⟨"002 002"⟩]
    ((observe plan).result
        (.start (.ofLines (outOfOrder.map String.toList) true) [sent] none)).1 =
      .ok .dataNotCorrect ∧ plan.IsDecisive .dataNotCorrect ∧
    ((observe plan).result (.start (.ofLines (outOfOrder.map String.toList ++
        ["001 001 [20]".toList]) false) [sent] none)).1 = .ok .dataNotCorrect := by
  intro plan sent
  have hfront : ((observe plan).result
      (.start (.ofLines (outOfOrder.map String.toList) true) [sent] none)).1 =
        .ok .dataNotCorrect := by decide +kernel
  obtain ⟨first, second, hfirst, hsecond, -, hsame⟩ :=
    observe_append plan [sent] none (outOfOrder.map String.toList) ["001 001 [20]".toList] true
      false
  obtain rfl : Outcome.dataNotCorrect = first := Except.ok.inj (hfront.symm.trans hfirst)
  obtain rfl := hsame trivial
  exact ⟨hfront, trivial, hsecond⟩

end Lifecycle

end PubSubTrials
