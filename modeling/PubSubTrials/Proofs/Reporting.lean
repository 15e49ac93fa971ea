import Mathlib.Data.List.ReduceOption
import PubSubTrials.Proofs.Company
import PubSubTrials.Proofs.Windows

/-!
# What publishers report

A publisher that prints its samples has the sample of each of its windows recorded, where there is
one, up to a number of windows; its queue takes as many of them as there is room for
(`queued_of_publisher`). Both roles are observed alike up to the first data marker, so what either
of them shows after it is said in the same way (`shownBy`). A subscriber that is the only one finds
the queues as the publishers have filled them (`outcome_of_sole`).
-/

namespace PubSubTrials

open Output Observing Reception Lifecycle

/-! ## Filling a queue -/

/-- Push one sample after the other. -/
def SampleQueue.pushAll (queue : SampleQueue) (samples : List Sample) : SampleQueue :=
  samples.foldl (fun queue sample => (queue.push sample).2) queue

/-- Of several samples the first ones are accepted, as many as there is room for. -/
theorem SampleQueue.queued_pushAll {queue : SampleQueue} (h : queue.hasReaders = true)
    (samples : List Sample) :
    (queue.pushAll samples).queued =
      queue.queued ++ samples.take (queue.capacity - queue.queued.length) := by
  induction samples generalizing queue with
  | nil => rw [List.take_nil, List.append_nil, pushAll, List.foldl_nil]
  | cons sample rest ih =>
    rw [pushAll, List.foldl_cons, ← pushAll]
    by_cases hroom : queue.queued.length < queue.capacity
    · have hpush : (queue.push sample).2 = { queue with queued := queue.queued ++ [sample] } := by
        rw [push, hasRoom, h, decide_eq_true hroom, Bool.true_and, if_pos rfl]
      obtain ⟨left, hleft⟩ : ∃ left, queue.capacity - queue.queued.length = left + 1 :=
        ⟨queue.capacity - queue.queued.length - 1, by omega⟩
      have hrest := @ih { queue with queued := queue.queued ++ [sample] } h
      rw [hpush, hrest, hleft, List.take_succ_cons, List.append_assoc, List.singleton_append,
        List.length_append, List.length_singleton, ← Nat.sub_sub, hleft, Nat.add_sub_cancel]
    · have hpush : (queue.push sample).2 = queue := by
        rw [push, hasRoom, decide_eq_false hroom, Bool.and_false, if_neg Bool.false_ne_true]
      have hfull : queue.capacity - queue.queued.length = 0 := by omega
      rw [hpush, ih h, hfull, List.take_zero, List.take_zero]

theorem SampleQueue.pushAll_append (queue : SampleQueue) (first second : List Sample) :
    queue.pushAll (first ++ second) = (queue.pushAll first).pushAll second :=
  List.foldl_append

/-! ## Recording windows -/

/-- What a text leaves behind its first windows, if it has that many. -/
def Reception.behind : Nat → List Char → Option (List Char)
  | 0, text => some text
  | count + 1, text =>
    match scan [.marker .data] [] text with
    | none => none
    | some hit => behind count hit.rest

/-- Reporting a sample hands it to the queue, which takes it if there is room. -/
theorem Observing.result_report (sample : Sample) (state : Observation) :
    ∃ accepted next, (report sample).result state = (.ok accepted, next) ∧
      next.outbox = state.outbox.map (·.pushAll [sample]) ∧ next.console = state.console ∧
      next.crashAfter = state.crashAfter := by
  rw [report, result_update]
  cases hopen : state.outbox with
  | none => exact ⟨_, _, rfl, hopen, rfl, rfl⟩
  | some queue => exact ⟨_, _, rfl, rfl, rfl, rfl⟩

namespace Lifecycle

/-- The sample of a window is pushed, if it shows one. -/
theorem result_recordWindow (state : Observation) :
    ∃ next, recordWindow.result state = (.ok (), next) ∧
      next.outbox =
        state.outbox.map (·.pushAll (Sample.findLast state.console.before).toList) ∧
      next.console = state.console ∧ next.crashAfter = state.crashAfter := by
  rw [recordWindow, result_bind_of_ok (result_before state)]
  cases Sample.findLast state.console.before with
  | none =>
    refine ⟨state, rfl, ?_, rfl, rfl⟩
    cases state.outbox <;> rfl
  | some sample =>
    obtain ⟨accepted, next, hreport, houtbox, hconsole, hcrash⟩ := result_report sample state
    dsimp only
    rw [result_bind_of_ok hreport]
    -- a refusal is only noted
    cases accepted with
    | false => exact ⟨_, rfl, houtbox, hconsole, hcrash⟩
    | true => exact ⟨_, rfl, houtbox, hconsole, hcrash⟩

/-- The recorder pushes the samples that the observer comes to see, and goes no further than
that. -/
theorem result_recordWindows (left : Nat) {state : Observation} {text : List Char}
    (h : state.Faces text)
    (hbefore : Sample.findLast state.console.before = Sample.findLast state.current) :
    ∃ count next, (recordWindows left).result state = (.ok count, next) ∧
      next.outbox = state.outbox.map (·.pushAll (shown state text left).reduceOption) ∧
      ∀ rest, behind (left - 1) text = some rest → next.console.ahead = rest := by
  -- induction on the windows that may still be recorded
  induction left generalizing state text with
  | zero =>
    refine ⟨0, state, rfl, ?_, fun rest hrest => h.ahead.trans (Option.some.inj hrest)⟩
    cases state.outbox <;> rfl
  | succ left ih =>
    obtain ⟨recorded, hrecord, hpushed, hconsole, hcrash⟩ := result_recordWindow state
    have hshown : (shown state text (left + 1)).reduceOption =
        (Sample.findLast state.console.before).toList ++ (received left text).reduceOption := by
      rw [shown, ← List.singleton_append, List.reduceOption_append, List.reduceOption_singleton,
        hbefore]
    have hexpect := result_expect_data (h.of_console_eq hconsole hcrash)
    rw [recordWindows_succ, result_bind_of_ok hrecord, hshown]
    -- the last window is recorded without waiting for another one
    by_cases hleft : left = 0
    · subst hleft
      rw [received, windows, List.map_nil, List.reduceOption_nil, List.append_nil]
      refine ⟨1, recorded, rfl, hpushed, fun rest hrest => ?_⟩
      rw [hconsole]
      exact h.ahead.trans (Option.some.inj hrest)
    · rw [if_neg hleft]
      obtain ⟨fewer, rfl⟩ := Nat.exists_eq_add_one.mpr (Nat.pos_of_ne_zero hleft)
      rw [Nat.add_sub_cancel, behind]
      cases hscan : scan [.marker .data] [] text with
      | none =>
        rw [hscan] at hexpect
        obtain ⟨reply, next, hresult, hvain, hwaited⟩ := hexpect
        rw [result_bind_of_ok hresult, received_of_none hscan]
        refine ⟨1, next, ?_, ?_, fun rest hrest => by cases hrest⟩
        · rcases hvain with rfl | rfl <;> rfl
        · rw [hwaited.outbox, hpushed, List.reduceOption_nil, List.append_nil]
      | some hit =>
        rw [hscan] at hexpect
        obtain ⟨next, hresult, hwaited, hfaces, hnext, hafter⟩ := hexpect
        have hcurrent : next.current = hit.before ++ hit.matched := by
          rw [Observation.current, hnext, hafter]
        -- the next window takes the place of the one recorded
        obtain ⟨count, last, hloop, hlast, hbehind⟩ := ih hfaces (by
          rw [hnext, hcurrent, findLast_window hscan])
        rw [result_bind_of_ok hresult, received_eq_shown hscan hcurrent]
        refine ⟨1 + count, last, ?_, ?_, hbehind⟩
        · dsimp only
          rw [result_bind_of_ok hloop, result_pure]
        · rw [hlast, hwaited.outbox, hpushed, Option.map_map]
          simp only [SampleQueue.pushAll_append]
          rfl

/-- A publisher that records puts the samples it shows into its queue, as many as fit. -/
theorem result_recordSamples {state : Observation} {text : List Char} {queue : SampleQueue}
    (h : state.Faces text)
    (hbefore : Sample.findLast state.console.before = Sample.findLast state.current)
    (houtbox : state.outbox = some queue) :
    ∃ next, recordSamples.result state = (.ok (), next) ∧
      next.outbox =
        some (queue.pushAll (shown state text SampleQueue.maxRecorded).reduceOption) ∧
      ∀ rest, behind (SampleQueue.maxRecorded - 1) text = some rest →
        next.console.ahead = rest := by
  obtain ⟨count, next, hrecord, hnext, hbehind⟩ :=
    result_recordWindows SampleQueue.maxRecorded h hbefore
  have hsome : state.outbox.isSome = true := by rw [houtbox]; rfl
  rw [houtbox] at hnext
  have hresult := result_note .debug ("recorded " ++ toString count ++ " samples") next
  refine ⟨_, Eq.trans ?_ hresult, hnext, hbehind⟩
  rw [recordSamples, result_bind_of_ok (result_get state), if_pos hsome, result_bind_of_ok hrecord]

/-- The stages of an entity before its data: those of a publisher, or of a subscriber. -/
def approachOf : Role → List Milestone
  | .publisher => [topicCreated, writerCreated, publicationMatched]
  | .subscriber => approach

/-- The samples that an entity shows by its output, in at most `limit` windows. -/
def shownBy (role : Role) (limit : Nat) (text : List Char) : List (Option Sample) :=
  match passage text (approachOf role) 0 with
  | .ok start => received limit (text.drop start)
  | .error _ => []

theorem shownBy_subscriber (limit : Nat) (text : List Char) :
    shownBy .subscriber limit text = samplesOf limit text := rfl

/-- The samples that a publisher reports. -/
def reported (text : List Char) : List Sample :=
  (shownBy .publisher SampleQueue.maxRecorded text).reduceOption

/-- The last stage of a publisher: its samples are recorded if there are any. -/
theorem result_sendData {state : Observation} {text : List Char} {start : Nat}
    {queue : SampleQueue} (h : state.At text start) (houtbox : state.outbox = some queue) :
    match scan [.marker .data] [] (text.drop start) with
    | none => ∃ next, sendData.result state = (.ok .dataNotSent, next) ∧
        next.outbox = some queue
    | some _ => ∃ next, sendData.result state = (.ok .ok, next) ∧
        next.outbox = some (queue.pushAll
          (received SampleQueue.maxRecorded (text.drop start)).reduceOption) ∧
        ∀ rest, behind SampleQueue.maxRecorded (text.drop start) = some rest →
          next.console.ahead = rest := by
  have hawait := result_await_data h.faces "data sent"
  cases hscan : scan [.marker .data] [] (text.drop start) with
  | none =>
    rw [hscan] at hawait
    obtain ⟨reply, next, heq, hvain, hwaited⟩ := hawait
    refine ⟨next, (result_bind_of_ok heq _).trans ?_, hwaited.outbox.trans houtbox⟩
    rcases hvain with rfl | rfl <;> rfl
  | some hit =>
    rw [hscan] at hawait
    obtain ⟨next, heq, hwaited, hfaces, hbefore, hafter⟩ := hawait
    have hcurrent : next.current = hit.before ++ hit.matched := by
      rw [Observation.current, hbefore, hafter]
    obtain ⟨last, hrecord, hlast, hbehind⟩ := result_recordSamples hfaces
      (by rw [hbefore, hcurrent, findLast_window hscan]) (hwaited.outbox.trans houtbox)
    rw [← received_eq_shown hscan hcurrent] at hlast
    refine ⟨last, (result_bind_of_ok heq _).trans (result_bind_of_ok hrecord _), hlast, ?_⟩
    -- the first window is the one at which the last stage ends
    intro rest hrest
    rw [SampleQueue.maxRecorded, behind, hscan] at hrest
    exact hbehind rest hrest

/-- What the observer of a publisher concludes from its output, and what it reports. -/
theorem result_observe_publisher (check : Check) {state : Observation} {text : List Char}
    {queue : SampleQueue} (h : state.At text 0) (houtbox : state.outbox = some queue) :
    ∃ next, (observe ⟨.publisher, true, check⟩).result state =
        (.ok (outcomeOf .publisher true text), next) ∧
      next.outbox = some (queue.pushAll (reported text)) := by
  have happroach := (passing_stages ⟨.publisher, true, check⟩).trans (passing_publish true)
    state text 0 h
  have hmilestones : milestones .publisher true = approachOf .publisher ++ [dataSent] := rfl
  rw [outcomeOf, hmilestones, passage_append, reported, shownBy, approachOf]
  rw [List.singleton_append] at happroach
  cases hpass : passage text [topicCreated, writerCreated, publicationMatched] 0 with
  | error outcome =>
    rw [hpass] at happroach
    obtain ⟨next, count, heq, hwaited, -⟩ := happroach
    rw [observe, result_bind_of_ok heq]
    exact ⟨_, rfl, hwaited.outbox.trans houtbox⟩
  | ok start =>
    rw [hpass] at happroach
    obtain ⟨between, heq, hat, hwaited⟩ := happroach
    -- behind the approach it is the data that decides
    have hsend := result_sendData hat (hwaited.outbox.trans houtbox)
    have hread := read_plain .data .dataNotSent text start
    dsimp only
    rw [passage]
    cases hscan : scan [.marker .data] [] (text.drop start) with
    | none =>
      rw [hscan] at hsend hread
      obtain ⟨next, hresult, hnext⟩ := hsend
      rw [observe, result_bind_of_ok (heq.trans hresult), dataSent, hread, received_of_none hscan]
      exact ⟨_, rfl, hnext⟩
    | some hit =>
      rw [hscan] at hsend hread
      obtain ⟨next, hresult, hnext, -⟩ := hsend
      obtain ⟨stop, hstop, -⟩ := hread
      rw [observe, result_bind_of_ok (heq.trans hresult), dataSent, hstop]
      exact ⟨_, rfl, hnext⟩

end Lifecycle

namespace Trial

variable {settings : Settings} {check : Check} {case : Case} {seat : Seat} {seats : List Seat}

/-! ## Publishers in their seats -/

/-- The outcome of a publisher that prints its samples. -/
theorem conclusion_of_publisher (hcalm : seat.IsCalm) (hrole : seat.entity.role = .publisher)
    (hreports : seat.entity.reportsSamples = true) (check : Check) (queue : SampleQueue) :
    (seat.conclusion check [] (some queue)).map Prod.fst =
      some (outcomeOf .publisher true seat.text) := by
  rw [Seat.conclusion, Seat.text, hrole, hreports]
  cases hlaunch : seat.launch with
  | error error => rfl
  | ok performance =>
    obtain ⟨next, hresult, -⟩ := result_observe_publisher check
      (performance.at_start [] (some queue) (hcalm performance hlaunch)) rfl
    simp only [hresult]
    rfl

/-- The queue of a publisher that prints its samples, before anybody reads from it. -/
theorem queue_of_publisher (hcalm : seat.IsCalm) (hrole : seat.entity.role = .publisher)
    (hreports : seat.entity.reportsSamples = true) (settings : Settings) (check : Check) :
    (seat.observePublisher settings check).2 =
      (SampleQueue.empty settings.queueCapacity).pushAll (reported seat.text) := by
  rw [Seat.observePublisher, Seat.observe, Seat.text, Seat.plan, hrole, hreports]
  cases hlaunch : seat.launch with
  | error error => rfl
  | ok performance =>
    obtain ⟨next, hresult, hnext⟩ := result_observe_publisher check
      (performance.at_start [] (some (.empty settings.queueCapacity))
        (hcalm performance hlaunch)) rfl
    simp only [hresult]
    rw [Option.bind_some, hnext, Option.getD_some]

/-- What a publisher reports is there to be read, as far as its queue takes it. -/
theorem queuedBy_filledQueues {k : Nat}
    (hk : (seats.filter (Seat.isOf .publisher))[k]? = some seat) (hcalm : seat.IsCalm)
    (hreports : seat.entity.reportsSamples = true) (settings : Settings) (check : Check) :
    queuedBy k (filledQueues settings check seats) =
      (reported seat.text).take settings.queueCapacity := by
  have hrole : seat.entity.role = .publisher :=
    eq_of_beq (List.mem_filter.mp (List.mem_of_getElem? hk)).2
  rw [queuedBy, filledQueues, List.getElem?_map, hk, Option.map_some, Option.map_some,
    Option.getD_some, queue_of_publisher hcalm hrole hreports,
    @SampleQueue.queued_pushAll (.empty settings.queueCapacity) rfl]
  rfl

/-! ## The only subscriber -/

theorem count_eq_countP (h : Seated case seats) (role : Role) :
    case.count role = seats.countP (Seat.isOf role) := by
  rw [Case.count, ← h.entities, List.countP_map]
  rfl

/-- Where there is one subscriber, only publishers come before it. -/
theorem role_of_mem_take {i : Nat} (h : Seated case seats) (hsole : case.count .subscriber = 1)
    (hseat : seats[i]? = some seat) (hrole : seat.entity.role = .subscriber) :
    ∀ other ∈ seats.take i, other.entity.role = .publisher := by
  intro other hother
  have hself : Seat.isOf .subscriber seat = true := by rw [Seat.isOf, hrole]; rfl
  rw [count_eq_countP h, eq_take_append_drop hseat, List.countP_append,
    List.countP_cons_of_pos hself] at hsole
  have hnone : (seats.take i).countP (Seat.isOf .subscriber) = 0 := by omega
  have hnot := List.countP_eq_zero.mp hnone other hother
  cases hother' : other.entity.role with
  | publisher => rfl
  | subscriber => exact absurd (by rw [Seat.isOf, hother']; rfl) hnot

/-- The only subscriber concludes what its output and the queues of the publishers tell, as these
have filled them. -/
theorem outcome_of_sole {result : CaseResult} (h : Seated case seats)
    (hvalid : case.validate = .ok ()) (hsole : case.count .subscriber = 1)
    (hreports : Reports settings case seats result) {i : Nat} (hseat : seats[i]? = some seat)
    (hcalm : seat.IsCalm) (hrole : seat.entity.role = .subscriber) :
    result.outcomes[i]? = some
      (subscriberOutcome case.check (filledQueues settings case.check seats) seat.text) := by
  have hqueues := queuesAfter_publishers case.check (filledQueues settings case.check seats)
    (role_of_mem_take h hsole hseat hrole)
  have houtcome := outcome_of_subscriber h hreports hseat hcalm hrole (by
    rw [hqueues]
    exact needed_le_length_filledQueues settings case.check h hvalid)
  rwa [hqueues] at houtcome

/-- The outcome of a publisher that prints its samples is what its output tells. -/
theorem outcome_of_publisher {result : CaseResult} (h : Seated case seats)
    (hreports : Reports settings case seats result) {i : Nat} (hseat : seats[i]? = some seat)
    (hcalm : seat.IsCalm) (hrole : seat.entity.role = .publisher)
    (hsamples : seat.entity.reportsSamples = true) :
    result.outcomes[i]? = some (outcomeOf .publisher true seat.text) := by
  have hi : i < case.entities.length := by
    rw [← h.length]
    exact (List.getElem?_eq_some_iff.mp hseat).1
  rw [hreports.outcomes_getElem? hi, conclusionAt, hseat, Option.bind_some, hrole]
  exact conclusion_of_publisher hcalm hrole hsamples _ _

end Trial

end PubSubTrials
