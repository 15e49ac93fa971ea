import PubSubTrials.Proofs.Inquiries
import PubSubTrials.Run.Trial

/-!
# How long an entity is observed

An entity that is done waits for its peers, for as long as a number of stage timeouts, and is then
stopped. A peer is observed for at most one stage timeout for each timed question of its observer,
so the number of these questions is what the wait has to cover. It has a bound whatever happens
around the observer (`within_observe`, `waits_amid_le`), and there are surroundings in which the
bound is reached (`Trial.waitsAmid_steadily`). The standard wait is enough for all entities but the
publishers that report their samples and the subscribers that tell two sources apart
(`Trial.covered_iff`).
-/

namespace PubSubTrials

open Output (Marker Pattern Reply)

namespace Inquiry

variable {α β : Type} {inquiry : Inquiry α} {f : α → Inquiry β} {m n : Nat}

/-! ## At most so many timed questions -/

/-- Whether an inquiry asks at most `n` timed questions, whatever is answered. -/
inductive Within : Inquiry α → Nat → Prop
  | done (a : α) (n : Nat) : Within (.done a) n
  | free {question : Question} {next : question.Answer → Inquiry α} {n : Nat}
      (hfree : question.isTimed = false) (h : ∀ answer, Within (next answer) n) :
      Within (.ask question next) n
  | ask {question : Question} {next : question.Answer → Inquiry α} {n : Nat}
      (h : ∀ answer, Within (next answer) n) : Within (.ask question next) (n + 1)

theorem Within.mono (h : inquiry.Within m) (hle : m ≤ n) : inquiry.Within n := by
  induction h generalizing n with
  | done a m => exact .done a n
  | free hfree _ ih => exact .free hfree fun answer => ih answer hle
  | ask _ ih =>
    obtain ⟨n, rfl⟩ : ∃ k, n = k + 1 := ⟨n - 1, by omega⟩
    exact .ask fun answer => ih answer (by omega)

theorem within_pure (a : α) : (pure a : Inquiry α).Within n :=
  .done a n

theorem within_pose (question : Question) : (pose question).Within 1 :=
  .ask fun answer => .done answer 0

/-- A question that has no time limit does not wait. -/
theorem within_pose_free {question : Question} (h : question.isTimed = false) :
    (pose question).Within 0 :=
  .free h fun answer => .done answer 0

/-- One after the other, the waits add up. -/
theorem within_bind (h : inquiry.Within m) (hf : ∀ a, (f a).Within n) :
    (inquiry >>= f).Within (m + n) := by
  induction h with
  | done a m => exact (hf a).mono (by omega)
  | free hfree _ ih => exact .free hfree ih
  | @ask question next k _ ih =>
    have hnext : (ask question fun answer => next answer >>= f).Within (k + n + 1) := .ask ih
    exact hnext.mono (by omega)

/-- After an inquiry without timed questions. -/
theorem within_bind_free (h : inquiry.Within 0) (hf : ∀ a, (f a).Within n) :
    (inquiry >>= f).Within n :=
  (within_bind h hf).mono (by omega)

/-- An answer takes at most one timed wait, and none if the question is not timed. -/
theorem waits_pose_le (question : Question) (state : Observation) :
    (question.pose.result state).2.waits ≤ state.waits + question.isTimed.toNat := by
  obtain ⟨console, crashAfter, inbox, outbox, log, waits⟩ := state
  cases question with
  | expect patterns =>
    -- the wait that crashes is not counted, as it does not end
    match crashAfter with
    | some 0 => exact Nat.le_succ waits
    | some (_ + 1) | none => exact Nat.le_refl _
  | take publisher =>
    unfold Question.pose Observing.take
    rw [Observing.result_update]
    dsimp only
    split
    · exact Nat.le_succ waits
    · exact Nat.le_refl _
  | drain publisher =>
    unfold Question.pose Observing.drain
    rw [Observing.result_update]
    dsimp only
    split <;> exact Nat.le_refl _
  | report sample =>
    unfold Question.pose Observing.report
    rw [Observing.result_update]
    dsimp only
    split <;> exact Nat.le_refl _
  | before | window | publishers | hasQueue | note => exact Nat.le_refl _

/-- What happens around an observer takes none of its waits. -/
theorem waits_befall (happenings : List Happening) (state : Observation) :
    (happenings.foldl Happening.befall state).waits = state.waits := by
  induction happenings generalizing state with
  | nil => rfl
  | cons happening rest ih =>
    rw [List.foldl_cons, ih]
    cases happening <;> rfl

/-- After one question at most as many waits come as the rest of the inquiry takes. -/
theorem waits_amid_ask_le {question : Question} {next : question.Answer → Inquiry α}
    {around : Nat → List Happening}
    (h : ∀ answer k state, ((next answer).amid around k state).2.waits ≤ state.waits + n)
    (k : Nat) (state : Observation) :
    ((ask question next).amid around k state).2.waits ≤
      state.waits + question.isTimed.toNat + n := by
  have hquestion := waits_pose_le question ((around k).foldl Happening.befall state)
  rw [waits_befall] at hquestion
  rw [amid]
  generalize question.pose.result ((around k).foldl Happening.befall state) = posed at hquestion ⊢
  obtain ⟨answer, after⟩ := posed
  cases answer with
  | error crash =>
    -- nothing is asked after a crash
    dsimp only at hquestion ⊢
    omega
  | ok answer =>
    have hrest := h answer (k + 1) after
    dsimp only at hquestion ⊢
    omega

/-- Whatever happens, an inquiry takes at most as many waits as it asks timed questions. -/
theorem waits_amid_le (h : inquiry.Within n) (around : Nat → List Happening) (k : Nat)
    (state : Observation) : (inquiry.amid around k state).2.waits ≤ state.waits + n := by
  induction h generalizing k state with
  | done a n => exact Nat.le_add_right _ n
  | @free question next n hfree _ ih =>
    have hask := waits_amid_ask_le ih k state
    rw [hfree] at hask
    exact hask
  | @ask question next n _ ih =>
    have hask := waits_amid_ask_le ih k state
    have hquestion := question.isTimed.toNat_le
    omega

/-! ## The bound for the observer of an entity -/

theorem within_await (stage : String) (markers : List Marker) : (await stage markers).Within 1 := by
  refine within_bind (n := 0) (within_pose _) fun reply => ?_
  match reply with
  | .found 0 | .found (_ + 1) | .timeout | .endOfOutput =>
    exact within_bind_free (within_pose_free rfl) fun _ => within_pure _

theorem within_recordWindow : recordWindow.Within 0 := by
  refine within_bind_free (within_pose_free rfl) fun text => ?_
  cases Sample.findLast text with
  | none => exact within_pure _
  | some sample =>
    refine within_bind_free (within_pose_free rfl) fun accepted => ?_
    cases accepted with
    | false => exact within_pose_free rfl
    | true => exact within_pure _

/-- There is no wait before the first of the windows. -/
theorem within_recordWindows (left : Nat) : (recordWindows left).Within (left - 1) := by
  induction left with
  | zero => exact within_pure _
  | succ left ih =>
    refine within_bind_free within_recordWindow fun _ => ?_
    by_cases hleft : left = 0
    · rw [if_pos hleft]
      exact within_pure _
    · -- one wait for the next window, which is the first of those that are left
      rw [if_neg hleft]
      refine (within_bind (n := left - 1) (within_pose _) fun reply => ?_).mono (by omega)
      cases reply with
      | found index => exact (within_bind ih fun _ => within_pure (n := 0) _).mono (by omega)
      | timeout => exact within_pure _
      | endOfOutput => exact within_pure _

/-- A publisher waits for each data line after the first. -/
theorem within_recordSamples : recordSamples.Within (SampleQueue.maxRecorded - 1) := by
  refine within_bind_free (within_pose_free rfl) fun hasQueue => ?_
  cases hasQueue with
  | false => exact within_pure _
  | true =>
    exact within_bind (n := 0) (within_recordWindows _) fun _ => within_pose_free rfl

/-- The most timed questions about the stages of a publisher that has its topic. -/
def mostOfPublisher (reportsSamples : Bool) : Nat :=
  if reportsSamples then 3 + (SampleQueue.maxRecorded - 1) else 2

/-- The waits of a publisher after its first stage. -/
theorem within_publish (reportsSamples : Bool) :
    (publish reportsSamples).Within (mostOfPublisher reportsSamples) := by
  cases reportsSamples with
  | false =>
    refine within_bind (n := 1) (within_await _ _) fun created => ?_
    match created with
    | .found (_ + 1) | .timeout | .endOfOutput => exact within_pure _
    | .found 0 =>
      refine within_bind (n := 0) (within_await _ _) fun matched => ?_
      match matched with
      | .found 0 | .found (_ + 1) | .timeout | .endOfOutput => exact within_pure _
  -- the stages are waited for one by one, and the data at last
  | true =>
    refine (within_bind (n := 2 + (SampleQueue.maxRecorded - 1)) (within_await _ _)
      fun created => ?_).mono (by decide)
    match created with
    | .found (_ + 1) | .timeout | .endOfOutput => exact within_pure _
    | .found 0 =>
      refine (within_bind (n := 1 + (SampleQueue.maxRecorded - 1)) (within_await _ _)
        fun matched => ?_).mono (by decide)
      match matched with
      | .found (_ + 1) | .timeout | .endOfOutput => exact within_pure _
      | .found 0 =>
        refine within_bind (within_await _ _) fun sent => ?_
        match sent with
        | .found (_ + 1) | .timeout | .endOfOutput => exact within_pure _
        | .found 0 => exact within_bind (n := 0) within_recordSamples fun _ => within_pure _

theorem within_currentSample : currentSample.Within 0 :=
  within_bind_free (within_pose_free rfl) fun _ => within_pure _

theorem within_nextData : nextData.Within 1 := by
  refine within_bind_free (within_pose_free rfl) fun _ => ?_
  refine within_bind (n := 0) (within_pose _) fun reply => ?_
  cases reply with
  | found index => exact within_pure _
  | timeout => exact within_pure _
  | endOfOutput => exact within_pure _

/-- Each comparison waits for a sample and for the next data. -/
theorem within_compareOrder (left : Nat) : (compareOrder left).Within (2 * left) := by
  induction left with
  | zero => exact within_pure _
  | succ left ih =>
    refine (within_bind (n := 1 + 2 * left) (within_pose _) fun sent => ?_).mono (by omega)
    match sent with
    | none => exact within_bind_free (within_pose_free rfl) fun _ => within_pure _
    | some sent =>
      refine within_bind_free within_currentSample fun received => ?_
      split
      · exact within_bind_free (within_pose_free rfl) fun _ => within_pure _
      · refine within_bind within_nextData fun hasNext => ?_
        cases hasNext with
        | true => exact ih
        | false => exact within_pure _

open Reception (Sources)

theorem within_collectSecond (sources : Sources) : (collectSecond sources).Within 1 := by
  unfold collectSecond
  split
  · exact within_bind_free (within_pose_free rfl) fun _ => within_pure _
  · refine within_bind (n := 0) (within_pose _) fun sample => ?_
    match sample with
    | some sample => exact within_bind_free (within_pose_free rfl) fun _ => within_pure _
    | none =>
      dsimp only
      split
      · exact within_bind_free (within_pose_free rfl) fun _ => within_pure _
      · exact within_bind_free (within_pose_free rfl) fun _ => within_pure _

/-- Each window waits for a sample and for the next data. -/
theorem within_tellSources (sources : Sources) (left : Nat) :
    (tellSources sources left).Within (2 * left) := by
  -- induction on the windows; each takes two waits, for a sample and for the next window
  induction left generalizing sources with
  | zero => exact within_pure _
  | succ left ih =>
    refine (within_bind (n := 1 + 2 * left) (within_collectSecond sources)
      fun collected => ?_).mono (by omega)
    match collected with
    | none => exact within_pure _
    | some sources =>
      refine within_bind_free within_currentSample fun received => ?_
      have hseen : ∀ seen : Sources, (if seen.both then pure .receivingFromBoth
          else nextData >>= fun hasNext =>
            if hasNext then tellSources seen left
            else pure .receivingFromOne : Inquiry Outcome).Within (1 + 2 * left) := by
        intro seen
        split
        · exact within_pure _
        · refine within_bind within_nextData fun hasNext => ?_
          cases hasNext with
          | true => exact ih seen
          | false => exact within_pure _
      cases received with
      | none => exact hseen sources
      | some sample => exact hseen (sources.see sample)

/-- The most timed questions of a check. -/
def mostOfCheck : Check → Nat
  | .noCheck => 0
  | .orderingCheck => 2 * Reception.orderedSamples
  | .multiSourceCheck => 2 * Reception.sourceWindows

/-- The waits of a check. -/
theorem within_examine (check : Check) : (examine check).Within (mostOfCheck check) := by
  cases check with
  | noCheck => exact within_pure _
  | orderingCheck =>
    refine within_bind_free (within_pose_free rfl) fun publishers => ?_
    split
    · exact within_bind_free (within_pose_free rfl) fun _ => within_pure _
    · exact within_compareOrder _
  | multiSourceCheck =>
    refine within_bind_free (within_pose_free rfl) fun publishers => ?_
    split
    · exact within_bind_free (within_pose_free rfl) fun _ => within_pure _
    · exact within_tellSources _ _

/-- The waits of a subscriber after its first stage: its stages and those of its check. -/
theorem within_subscribe (check : Check) : (subscribe check).Within (4 + mostOfCheck check) := by
  refine (within_bind (n := 3 + mostOfCheck check) (within_await _ _)
    fun created => ?_).mono (by omega)
  match created with
  | .found (_ + 1) | .timeout | .endOfOutput => exact within_pure _
  | .found 0 =>
    refine (within_bind (n := 2 + mostOfCheck check) (within_await _ _)
      fun matched => ?_).mono (by omega)
    match matched with
    | .found (_ + 1) | .timeout | .endOfOutput => exact within_pure _
    | .found 0 =>
      refine (within_bind (n := 1 + mostOfCheck check) (within_await _ _)
        fun alive => ?_).mono (by omega)
      match alive with
      | .found (_ + 1) | .timeout | .endOfOutput => exact within_pure _
      | .found 0 =>
        refine within_bind (within_await _ _) fun received => ?_
        match received with
        | .found (_ + 1) | .timeout | .endOfOutput => exact within_pure _
        | .found 0 => exact within_examine check

end Inquiry

/-- The most timed waits of the observer of an entity. -/
def Lifecycle.Plan.mostWaits (plan : Lifecycle.Plan) : Nat :=
  match plan.role with
  | .publisher => 1 + Inquiry.mostOfPublisher plan.reportsSamples
  | .subscriber => 1 + (4 + Inquiry.mostOfCheck plan.check)

namespace Inquiry

/-- With these, the waits of an observer follow from what it is to do. -/
theorem within_stages (plan : Lifecycle.Plan) : (stages plan).Within plan.mostWaits := by
  obtain ⟨role, reportsSamples, check⟩ := plan
  cases role with
  | publisher =>
    refine within_bind (within_await _ _) fun created => ?_
    match created with
    | .found 1 | .found 2 | .found 3 | .found (_ + 4) | .timeout | .endOfOutput =>
      exact within_pure _
    | .found 0 => exact within_publish reportsSamples
  | subscriber =>
    refine within_bind (within_await _ _) fun created => ?_
    match created with
    | .found 1 | .found 2 | .found 3 | .found (_ + 4) | .timeout | .endOfOutput =>
      exact within_pure _
    | .found 0 => exact within_subscribe check

/-- The observer of an entity asks no more timed questions than that, whatever is answered. -/
theorem within_observe (plan : Lifecycle.Plan) : (observe plan).Within plan.mostWaits :=
  within_bind (n := 0) (within_stages plan) fun _ =>
    within_bind_free (within_pose_free rfl) fun _ => within_pure _

end Inquiry

namespace Trial

/-- Observe an entity with the given queues at hand, when `around k` happens before question `k` of
its observer. -/
def Seat.observeAmid (around : Nat → List Happening) (check : Check) (inbox : List SampleQueue)
    (outbox : Option SampleQueue) (seat : Seat) : Account × Option Observation :=
  match seat.launch with
  | .error error => (⟨[launchFailure error], some (.topicNotCreated, error.message)⟩, none)
  | .ok performance =>
    let start := { Observation.start performance.console inbox outbox with
      crashAfter := performance.crashAfter }
    let (result, state) := (Inquiry.observe (seat.plan check)).amid around 0 start
    (accountOf result state, some state)

/-- With nothing happening around its observer an entity is observed as in a run. -/
theorem observeAmid_alone (check : Check) (inbox : List SampleQueue) (outbox : Option SampleQueue)
    (seat : Seat) : seat.observeAmid (fun _ => []) check inbox outbox =
      seat.observe check inbox outbox := by
  obtain ⟨label, entity, launch⟩ := seat
  cases launch with
  | error error => rfl
  | ok performance =>
    unfold Seat.observeAmid Seat.observe
    dsimp only
    rw [Inquiry.amid_alone, Inquiry.carryOut_observe]

/-- The timed waits of the observer of an entity. -/
def Seat.waitsAmid (around : Nat → List Happening) (check : Check) (inbox : List SampleQueue)
    (outbox : Option SampleQueue) (seat : Seat) : Nat :=
  (seat.observeAmid around check inbox outbox).2.elim 0 Observation.waits

/-- No entity waits longer than its plan allows, whatever goes on around it. -/
theorem waitsAmid_le (around : Nat → List Happening) (check : Check) (inbox : List SampleQueue)
    (outbox : Option SampleQueue) (seat : Seat) :
    seat.waitsAmid around check inbox outbox ≤ (seat.plan check).mostWaits := by
  obtain ⟨label, entity, launch⟩ := seat
  cases launch with
  | error error => exact Nat.zero_le _
  | ok performance =>
    have hwaits := Inquiry.waits_amid_le
      (Inquiry.within_observe (Seat.plan check ⟨label, entity, .ok performance⟩)) around 0
      { Observation.start performance.console inbox outbox with
        crashAfter := performance.crashAfter }
    exact Nat.le_trans hwaits (Nat.le_of_eq (Nat.zero_add _))

/-! ## Surroundings in which nobody waits in vain -/

/-- An entity that comes to its data and goes on with them. -/
def steadyPerformance : Role → Performance
  | .publisher => ⟨["Create topic:", "Create writer for topic", "on_publication_matched"] ++
      List.replicate 100 "001 001 [20]", true, none⟩
  | .subscriber => ⟨["Create topic:", "Create reader for topic", "on_subscription_matched",
      "on_liveliness_changed"] ++ List.replicate 81 "001 001 [20]", true, none⟩

/-- Before each question two publishers report one more sample each. -/
def steadily : Nat → List Happening :=
  fun _ => [.reported 0 ⟨"001 001"⟩, .reported 1 ⟨"001 001"⟩]

/-- A queue from which nothing has been received. -/
def freshQueue : SampleQueue :=
  .empty Settings.standard.queueCapacity

/-- The observer of a steady entity, before its first question. -/
def steadyStart (role : Role) : Observation :=
  .start (steadyPerformance role).console [freshQueue, freshQueue] (some freshQueue)

theorem waits_publisher (reportsSamples : Bool) (check : Check) :
    ((Inquiry.observe ⟨.publisher, reportsSamples, check⟩).amid steadily 0
      (steadyStart .publisher)).2.waits = 1 + Inquiry.mostOfPublisher reportsSamples := by
  -- a publisher is observed in the same way for all checks
  have hsame : Inquiry.observe ⟨.publisher, reportsSamples, check⟩ =
      Inquiry.observe ⟨.publisher, reportsSamples, .noCheck⟩ := rfl
  rw [hsame]
  cases reportsSamples <;> decide +kernel

theorem waits_subscriber (reportsSamples : Bool) (check : Check) :
    ((Inquiry.observe ⟨.subscriber, reportsSamples, check⟩).amid steadily 0
      (steadyStart .subscriber)).2.waits = 1 + (4 + Inquiry.mostOfCheck check) := by
  have hsame : Inquiry.observe ⟨.subscriber, reportsSamples, check⟩ =
      Inquiry.observe ⟨.subscriber, false, check⟩ := rfl
  rw [hsame]
  cases check <;> decide +kernel

/-- The observer of a steady entity waits as often as it can. -/
theorem waitsAmid_steadily (check : Check) (label : String) (entity : Entity) :
    Seat.waitsAmid steadily check [freshQueue, freshQueue] (some freshQueue)
        ⟨label, entity, .ok (steadyPerformance entity.role)⟩ =
      Lifecycle.Plan.mostWaits ⟨entity.role, entity.reportsSamples, check⟩ := by
  cases hrole : entity.role with
  | publisher =>
    have hwaits := waits_publisher entity.reportsSamples check
    unfold Seat.waitsAmid Seat.observeAmid Seat.plan
    dsimp only
    rw [hrole]
    exact hwaits
  | subscriber =>
    have hwaits := waits_subscriber entity.reportsSamples check
    unfold Seat.waitsAmid Seat.observeAmid Seat.plan
    dsimp only
    rw [hrole]
    exact hwaits

/-! ## What the standard wait covers -/

/-- More than the standard number of waits takes a publisher that reports its samples, or a
subscriber that tells two sources apart. -/
theorem mostWaits_le_standard_iff (check : Check) (entity : Entity) :
    Lifecycle.Plan.mostWaits ⟨entity.role, entity.reportsSamples, check⟩ ≤
        Settings.standard.barrierFactor ↔
      entity.reportsSamples = false ∧ (entity.role = .subscriber → check ≠ .multiSourceCheck) := by
  cases hrole : entity.role with
  | publisher =>
    have hmost : Lifecycle.Plan.mostWaits ⟨.publisher, entity.reportsSamples, check⟩ =
        1 + Inquiry.mostOfPublisher entity.reportsSamples := rfl
    rw [hmost]
    cases entity.reportsSamples with
    | false => simp +decide
    | true => simp +decide
  | subscriber =>
    -- whatever its parameters are, a subscriber reports nothing
    have hreports : entity.reportsSamples = false := by
      unfold Entity.reportsSamples
      rw [hrole]
      rfl
    rw [hreports]
    cases check with
    | noCheck => simp +decide
    | orderingCheck => simp +decide
    | multiSourceCheck => simp +decide

/-- The observer of an entity, which is that of a run when nothing happens around it, has a greatest
number of timed waits over all that the entity may print and all that may happen. The standard wait
for peers covers it, unless the entity is a publisher that reports its samples or a subscriber that
tells two sources apart. -/
theorem covered_iff (check : Check) (label : String) (entity : Entity) :
    (∀ launch inbox outbox,
        Seat.observeAmid (fun _ => []) check inbox outbox ⟨label, entity, launch⟩ =
          Seat.observe check inbox outbox ⟨label, entity, launch⟩) ∧
      (∀ launch around inbox outbox,
        Seat.waitsAmid around check inbox outbox ⟨label, entity, launch⟩ ≤
          Lifecycle.Plan.mostWaits ⟨entity.role, entity.reportsSamples, check⟩) ∧
      (∃ launch around inbox outbox,
        Seat.waitsAmid around check inbox outbox ⟨label, entity, launch⟩ =
          Lifecycle.Plan.mostWaits ⟨entity.role, entity.reportsSamples, check⟩) ∧
      ((∀ launch around inbox outbox,
          Seat.waitsAmid around check inbox outbox ⟨label, entity, launch⟩ ≤
            Settings.standard.barrierFactor) ↔
        entity.reportsSamples = false ∧
          (entity.role = .subscriber → check ≠ .multiSourceCheck)) := by
  have hle : ∀ launch around inbox outbox,
      Seat.waitsAmid around check inbox outbox ⟨label, entity, launch⟩ ≤
        Lifecycle.Plan.mostWaits ⟨entity.role, entity.reportsSamples, check⟩ :=
    fun launch around inbox outbox => waitsAmid_le around check inbox outbox ⟨label, entity, launch⟩
  -- steady happenings bring the waits up to the bound, which is therefore the exact number
  have hmost := waitsAmid_steadily check label entity
  have halone : ∀ launch inbox outbox,
      Seat.observeAmid (fun _ => []) check inbox outbox ⟨label, entity, launch⟩ =
        Seat.observe check inbox outbox ⟨label, entity, launch⟩ :=
    fun launch inbox outbox => observeAmid_alone check inbox outbox ⟨label, entity, launch⟩
  refine ⟨halone, hle, ⟨_, _, _, _, hmost⟩, ?_⟩
  rw [← mostWaits_le_standard_iff]
  constructor
  · intro hall
    rw [← hmost]
    exact hall _ _ _ _
  · intro hstandard launch around inbox outbox
    exact Nat.le_trans (hle launch around inbox outbox) hstandard

/-- A publisher that reports its samples, and a subscriber. -/
def lasting : Case :=
  ⟨"lasting", none, [⟨.publisher, "-t Square -w", .ok⟩, ⟨.subscriber, "-t Square", .ok⟩], .noCheck,
    none⟩

/-- The seat of the publisher, when both entities go on with their data. -/
def lastingSeat : Seat :=
  ⟨"P0", ⟨.publisher, "-t Square -w", .ok⟩, .ok (steadyPerformance .publisher)⟩

/-- In a run the observer of a publisher with a hundred samples waits longer than its peer does. -/
theorem observed_beyond_standard :
    lasting.validate = .ok () ∧
      lastingSeat ∈ seats (fun role _ => .ok (steadyPerformance role)) lasting ∧
      (lastingSeat.observe lasting.check [] (some freshQueue)).2.map Observation.waits = some 103 ∧
      Settings.standard.barrierFactor < 103 := by
  refine ⟨rfl, List.mem_cons_self, ?_, by decide⟩
  decide +kernel

end Trial

end PubSubTrials
