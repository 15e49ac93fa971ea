import PubSubTrials.Proofs.Examination
import PubSubTrials.Proofs.Trials

/-!
# What subscribers take from each other

All subscribers of a case read from the same queues. A check that has looked at a sample has
removed it, for the subscribers that take their turn later too. So the outcome of a subscriber is
not always the one that it has when it is the only one. `outcome_alone_iff` says when it is.
-/

namespace PubSubTrials

open Output Reception Lifecycle

/-! ## Cases with one subscriber -/

/-- The publishers among some things that have roles, and what stands at position `i`. -/
def retain {α : Type} (role : α → Role) (i : Nat) (xs : List α) : List α :=
  (xs.take i).filter (fun x => role x == .publisher) ++
    (xs[i]?.toList ++ (xs.drop (i + 1)).filter (fun x => role x == .publisher))

/-- The case in which all subscribers but the one at position `i` are missing. -/
def Case.only (case : Case) (i : Nat) : Case :=
  { case with entities := retain Entity.role i case.entities }

/-- How many publishers are declared before position `i`. -/
def Case.publishersBefore (case : Case) (i : Nat) : Nat :=
  (case.entities.take i).countP (fun entity => entity.role == .publisher)

section Retain

variable {α β : Type} {role : α → Role} {i : Nat} {xs : List α} {x : α}

/-- What stands before a position, what stands there, and what stands after it. -/
theorem eq_take_append_drop (h : xs[i]? = some x) : xs = xs.take i ++ x :: xs.drop (i + 1) := by
  obtain ⟨hlt, hget⟩ := List.getElem?_eq_some_iff.mp h
  rw [← hget, ← List.drop_eq_getElem_cons hlt, List.take_append_drop]

theorem filter_retain (h : xs[i]? = some x) (hrole : role x = .subscriber) :
    (retain role i xs).filter (fun x => role x == .publisher) =
      xs.filter (fun x => role x == .publisher) := by
  have hnot : ¬ (role x == Role.publisher) = true := by
    rw [hrole]
    decide
  -- the one in the middle is no publisher, so it does not count
  have hall : xs.filter (fun x => role x == .publisher) =
      (xs.take i).filter (fun x => role x == .publisher) ++
        (xs.drop (i + 1)).filter (fun x => role x == .publisher) := by
    have hfilter := congrArg (List.filter fun x => role x == .publisher) (eq_take_append_drop h)
    rwa [List.filter_append, List.filter_cons, if_neg hnot] at hfilter
  rw [hall, retain, h, List.filter_append, List.filter_append, Option.toList_some,
    List.filter_cons, if_neg hnot, List.filter_nil, List.nil_append, List.filter_filter,
    List.filter_filter]
  simp only [Bool.and_self]

/-- What stands at position `i` comes after the publishers before it. -/
theorem getElem?_retain (h : xs[i]? = some x) :
    (retain role i xs)[(xs.take i).countP (fun x => role x == .publisher)]? = some x := by
  rw [List.countP_eq_length_filter, retain, h, List.getElem?_append_right (Nat.le_refl _),
    Nat.sub_self]
  rfl

/-- In front of the one that is kept stand the publishers in front of it. -/
theorem take_retain :
    (retain role i xs).take ((xs.take i).countP (fun x => role x == .publisher)) =
      (xs.take i).filter (fun x => role x == .publisher) := by
  rw [List.countP_eq_length_filter, retain, List.take_left']
  rfl

theorem map_retain (f : β → α) (xs : List β) :
    (retain (fun x => role (f x)) i xs).map f = retain role i (xs.map f) := by
  rw [retain, retain, List.map_append, List.map_append, ← List.map_take, ← List.map_drop,
    List.filter_map, List.filter_map, List.getElem?_map]
  cases xs[i]? <;> rfl

end Retain

/-- An observer that is not made to crash has all of a performance ahead of it. -/
theorem Performance.at_start (performance : Performance) (inbox : List SampleQueue)
    (outbox : Option SampleQueue) (hcalm : performance.crashAfter = none) :
    ({ Observation.start performance.console inbox outbox with
      crashAfter := performance.crashAfter } : Observation).At
        (joinLines (performance.lines.map String.toList)) 0 :=
  ⟨hcalm, .inl rfl, rfl⟩

namespace Trial

/-- The seats of a case in which all subscribers but the one at position `i` are missing. -/
def aloneSeats (case : Case) (i : Nat) (seats : List Seat) : List Seat :=
  List.zipWith (fun label seat => { seat with label }) (case.only i).labels
    (retain (fun seat => seat.entity.role) i seats)

/-! ## One subscriber -/

/-- What the entity of a seat prints; nothing if it cannot be launched. -/
def Seat.text (seat : Seat) : List Char :=
  match seat.launch with
  | .ok performance => joinLines (performance.lines.map String.toList)
  | .error _ => []

/-- The observer of a seat is not made to crash. -/
def Seat.IsCalm (seat : Seat) : Prop :=
  ∀ performance, seat.launch = .ok performance → performance.crashAfter = none

variable {settings : Settings} {check : Check} {case : Case} {seat : Seat} {seats : List Seat}
  {queues : List SampleQueue}

theorem remaining_nil (check : Check) (queues : List SampleQueue) :
    remaining check queues [] = queues := rfl

/-- The outcome of a subscriber, as its output and the queues tell. -/
theorem conclusion_of_subscriber (hcalm : seat.IsCalm) (hrole : seat.entity.role = .subscriber)
    (hneeded : check.publishersNeeded ≤ queues.length) :
    (seat.conclusion check queues none).map Prod.fst =
      some (subscriberOutcome check queues seat.text) := by
  rw [Seat.conclusion, Seat.text, hrole]
  cases hlaunch : seat.launch with
  | error error => rfl
  | ok performance =>
    obtain ⟨next, hresult, -⟩ := result_observe_subscriber seat.entity.reportsSamples check
      (performance.at_start queues none (hcalm performance hlaunch)) hneeded
    simp only [hresult]
    rfl

/-- What a subscriber leaves in the queues, as its output tells. -/
theorem queues_of_subscriber (hcalm : seat.IsCalm) (hrole : seat.entity.role = .subscriber)
    (hneeded : check.publishersNeeded ≤ queues.length) :
    (seat.observeSubscriber check queues).2 =
      remaining check queues (samplesOf (reach check) seat.text) := by
  rw [Seat.observeSubscriber, Seat.observe, Seat.text, Seat.plan, hrole]
  cases hlaunch : seat.launch with
  | error error => rfl
  | ok performance =>
    obtain ⟨next, hresult, hnext⟩ := result_observe_subscriber seat.entity.reportsSamples check
      (performance.at_start queues none (hcalm performance hlaunch)) hneeded
    simp only [hresult]
    exact hnext

/-- An observer that is not made to crash comes to a conclusion. -/
theorem isSome_conclusion (hcalm : seat.IsCalm) (check : Check) (inbox : List SampleQueue)
    (outbox : Option SampleQueue) : (seat.conclusion check inbox outbox).isSome = true := by
  rw [Seat.conclusion]
  cases hlaunch : seat.launch with
  | error error => rfl
  | ok performance =>
    have hstart := (performance.at_start inbox outbox (hcalm performance hlaunch)).crashAfter
    obtain ⟨outcome, next, hresult, -⟩ :=
      calm_observe ⟨seat.entity.role, seat.entity.reportsSamples, check⟩ _ hstart
    simp only [hresult]
    rfl

/-- Every entity of a calm trial comes to an outcome. -/
theorem isSome_conclusionAt (settings : Settings) (check : Check)
    (hcalm : ∀ seat ∈ seats, seat.IsCalm) {i : Nat} (hi : i < seats.length) :
    (conclusionAt settings check seats i).isSome = true := by
  have hmem := hcalm _ (List.getElem_mem hi)
  rw [conclusionAt, List.getElem?_eq_getElem hi, Option.bind_some]
  cases seats[i].entity.role with
  | publisher => exact isSome_conclusion hmem ..
  | subscriber => exact isSome_conclusion hmem ..

/-- No observer is made to crash where no performance says so. -/
theorem calm_seats {stage : Stage}
    (h : ∀ role parameters performance, stage role parameters = .ok performance →
      performance.crashAfter = none) (case : Case) :
    ∀ seat ∈ Trial.seats stage case, seat.IsCalm := by
  intro seat hseat
  obtain ⟨i, hi⟩ := List.mem_iff_getElem?.mp hseat
  obtain ⟨label, entity, -, -, rfl⟩ := List.getElem?_zipWith_eq_some.mp hi
  exact h entity.role entity.parameters

/-! ## Subscribers in turn -/

theorem length_remaining (check : Check) (queues : List SampleQueue)
    (seen : List (Option Sample)) : (remaining check queues seen).length = queues.length := by
  cases seen with
  | nil => rfl
  | cons sample rest =>
    cases check with
    | noCheck => rfl
    | orderingCheck | multiSourceCheck => exact List.length_modify ..

/-- How many samples of the first publisher subscribers take that check the order, if `sent` are
left for the first of them. -/
def takenBy (sent : List Sample) : List Seat → Nat
  | [] => 0
  | seat :: rest =>
    match seat.entity.role with
    | .publisher => takenBy sent rest
    | .subscriber =>
      compared (samplesOf orderedSamples seat.text) sent +
        takenBy (sent.drop (compared (samplesOf orderedSamples seat.text) sent)) rest

/-- Seat by seat: a publisher leaves the queues alone, and a subscriber leaves what its check does
not take. -/
theorem queuesAfter_cons (check : Check) (queues : List SampleQueue) (seat : Seat)
    (rest : List Seat) (hcalm : seat.IsCalm)
    (hneeded : check.publishersNeeded ≤ queues.length) :
    queuesAfter check queues (seat :: rest) =
      match seat.entity.role with
      | .publisher => queuesAfter check queues rest
      | .subscriber =>
        queuesAfter check (remaining check queues (samplesOf (reach check) seat.text)) rest := by
  rw [queuesAfter]
  cases hrole : seat.entity.role with
  | publisher => rfl
  | subscriber => rw [queues_of_subscriber hcalm hrole hneeded]

/-- The ordering check takes from the first queue as many samples as it compares. -/
theorem queuedBy_remaining_ordering (queues : List SampleQueue) (seen : List (Option Sample)) :
    queuedBy 0 (remaining .orderingCheck queues seen) =
      (queuedBy 0 queues).drop (compared seen (queuedBy 0 queues)) := by
  cases seen with
  | nil =>
    rw [remaining_nil, compared_nil, List.drop_zero]
  | cons sample rest =>
    cases queues with
    | nil => rfl
    | cons queue others => rfl

/-- The multi-source check empties the second queue as soon as one window is seen. -/
theorem queuedBy_remaining_multiSource (queues : List SampleQueue) (seen : List (Option Sample)) :
    queuedBy 1 (remaining .multiSourceCheck queues seen) =
      if seen.isEmpty then queuedBy 1 queues else [] := by
  cases seen with
  | nil => rfl
  | cons sample rest =>
    match queues with
    | [] => rfl
    | [_] => rfl
    | first :: second :: others =>
      simp [queuedBy, remaining, SampleQueue.skip]

/-- After some subscribers the first queue has lost what each of them compared. -/
theorem queuedBy_queuesAfter_ordering (hcalm : ∀ seat ∈ seats, seat.IsCalm)
    (hneeded : Check.publishersNeeded .orderingCheck ≤ queues.length) :
    queuedBy 0 (queuesAfter .orderingCheck queues seats) =
      (queuedBy 0 queues).drop (takenBy (queuedBy 0 queues) seats) := by
  induction seats generalizing queues with
  | nil => rfl
  | cons seat rest ih =>
    have hrest := fun seat hseat => hcalm seat (List.mem_cons_of_mem _ hseat)
    rw [queuesAfter_cons _ _ _ _ (hcalm seat (List.mem_cons_self ..)) hneeded, takenBy]
    cases seat.entity.role with
    | publisher => exact ih hrest hneeded
    | subscriber =>
      dsimp only
      rw [ih hrest (by rwa [length_remaining]), queuedBy_remaining_ordering, List.drop_drop]
      rfl

/-- While no subscriber that tells the sources apart receives data, all samples of the second
publisher are left. -/
theorem queuedBy_queuesAfter_of_unheard (hcalm : ∀ seat ∈ seats, seat.IsCalm)
    (hneeded : Check.publishersNeeded .multiSourceCheck ≤ queues.length)
    (hunheard : ∀ seat ∈ seats, seat.entity.role = .subscriber →
      samplesOf sourceWindows seat.text = []) :
    queuesAfter .multiSourceCheck queues seats = queues := by
  induction seats with
  | nil => rfl
  | cons seat rest ih =>
    rw [List.forall_mem_cons] at hcalm hunheard
    rw [queuesAfter_cons _ _ _ _ hcalm.1 hneeded]
    cases hrole : seat.entity.role with
    | publisher => exact ih hcalm.2 hunheard.2
    | subscriber =>
      dsimp only [reach]
      rw [hunheard.1 hrole, remaining_nil]
      exact ih hcalm.2 hunheard.2

/-- Once such a subscriber has received data, there is nothing left of the second publisher. -/
theorem queuedBy_queuesAfter_of_heard (hcalm : ∀ seat ∈ seats, seat.IsCalm)
    (hneeded : Check.publishersNeeded .multiSourceCheck ≤ queues.length)
    (hheard : queuedBy 1 queues = [] ∨ ∃ seat ∈ seats, seat.entity.role = .subscriber ∧
      samplesOf sourceWindows seat.text ≠ []) :
    queuedBy 1 (queuesAfter .multiSourceCheck queues seats) = [] := by
  -- induction on the seats: the first subscriber that hears something empties the queue
  induction seats generalizing queues with
  | nil => exact hheard.resolve_right (by simp)
  | cons seat rest ih =>
    rw [List.forall_mem_cons] at hcalm
    rw [queuesAfter_cons _ _ _ _ hcalm.1 hneeded]
    cases hrole : seat.entity.role with
    | publisher =>
      refine ih hcalm.2 hneeded (hheard.imp_right ?_)
      rintro ⟨other, hother, hsubscriber, hsamples⟩
      refine ⟨other, (List.mem_cons.mp hother).resolve_left ?_, hsubscriber, hsamples⟩
      rintro rfl
      exact nomatch hrole.symm.trans hsubscriber
    | subscriber =>
      refine ih hcalm.2 (by rwa [length_remaining]) ?_
      dsimp only [reach]
      rw [queuedBy_remaining_multiSource]
      by_cases hsamples : samplesOf sourceWindows seat.text = []
      · rw [hsamples, List.isEmpty_nil, if_pos rfl]
        refine hheard.imp_right ?_
        rintro ⟨other, hother, hsubscriber, hnonempty⟩
        refine ⟨other, (List.mem_cons.mp hother).resolve_left ?_, hsubscriber, hnonempty⟩
        rintro rfl
        exact hnonempty hsamples
      · left
        rw [if_neg]
        simpa using hsamples

/-- What the subscribers before position `i` have done to the queues makes no difference to the
subscriber there. With the ordering check, its samples agree with those left for it just if they
agree with all that were sent. With the multi-source check, it does not tell both publishers apart
anyway, or no subscriber before it has received data. -/
def Undisturbed (settings : Settings) (check : Check) (seats : List Seat) (i : Nat) : Prop :=
  ∀ seat, seats[i]? = some seat →
    match check with
    | .noCheck => True
    | .orderingCheck =>
      let sent := queuedBy 0 (filledQueues settings check seats)
      let seen := samplesOf orderedSamples seat.text
      inOrder seen (sent.drop (takenBy sent (seats.take i))) = inOrder seen sent
    | .multiSourceCheck =>
      fromBoth (queuedBy 1 (filledQueues settings check seats))
          (samplesOf sourceWindows seat.text) = true →
        ∀ earlier ∈ seats.take i, earlier.entity.role = .subscriber →
          samplesOf sourceWindows earlier.text = []

theorem ite_ok_dataNotCorrect_inj {a b : Bool} :
    (if a then Outcome.ok else .dataNotCorrect) = (if b then Outcome.ok else .dataNotCorrect) ↔
      a = b := by
  cases a <;> cases b <;> decide

/-- The outcome is that under full queues precisely when the subscribers in front have left the
queue of this check as it was, or made no difference to it. -/
theorem subscriberOutcome_queuesAfter_eq_iff (hcalm : ∀ seat ∈ seats, seat.IsCalm) {i : Nat}
    (hseat : seats[i]? = some seat)
    (hneeded : check.publishersNeeded ≤ (filledQueues settings check seats).length) :
    subscriberOutcome check
        (queuesAfter check (filledQueues settings check seats) (seats.take i)) seat.text =
      subscriberOutcome check (filledQueues settings check seats) seat.text ↔
        Undisturbed settings check seats i := by
  have hearlier : ∀ seat ∈ seats.take i, seat.IsCalm := fun seat hmem =>
    hcalm seat (List.mem_of_mem_take hmem)
  have hunfold : Undisturbed settings check seats i ↔ _ :=
    ⟨fun h => h seat hseat, fun h other hother => by
      rw [hseat] at hother
      cases hother
      exact h⟩
  rw [hunfold]
  clear hunfold
  generalize filledQueues settings check seats = queues at hneeded ⊢
  rw [subscriberOutcome, subscriberOutcome]
  cases hpass : passage seat.text (milestones .subscriber false) 0 with
  | error outcome =>
    -- data was not received, so the queues do not matter
    have hnone := samplesOf_of_error hpass
    refine iff_of_true rfl ?_
    cases check with
    | noCheck => trivial
    | orderingCheck =>
      dsimp only
      rw [hnone, inOrder_nil, inOrder_nil]
    | multiSourceCheck =>
      dsimp only
      rw [hnone]
      exact fun h => absurd h Bool.false_ne_true
  | ok stop =>
    cases check with
    | noCheck => exact iff_of_true rfl trivial
    | orderingCheck =>
      dsimp only [verdict, reach]
      rw [queuedBy_queuesAfter_ordering hearlier hneeded, ite_ok_dataNotCorrect_inj]
    | multiSourceCheck =>
      dsimp only [verdict, reach]
      by_cases hunheard : ∀ earlier ∈ seats.take i, earlier.entity.role = .subscriber →
          samplesOf sourceWindows earlier.text = []
      · rw [queuedBy_queuesAfter_of_unheard hearlier hneeded hunheard]
        exact iff_of_true rfl fun _ => hunheard
      · have hheard : ∃ earlier ∈ seats.take i, earlier.entity.role = .subscriber ∧
            samplesOf sourceWindows earlier.text ≠ [] := by
          refine Classical.byContradiction fun hnone => hunheard fun earlier hmem hrole => ?_
          exact Classical.byContradiction fun hne => hnone ⟨earlier, hmem, hrole, hne⟩
        -- nothing is left of the second publisher, so only the first one is ever seen
        rw [queuedBy_queuesAfter_of_heard hearlier hneeded (.inr hheard), fromBoth_nil]
        cases fromBoth (queuedBy 1 queues) (samplesOf sourceWindows seat.text) with
        | false => exact iff_of_true rfl fun h => absurd h Bool.false_ne_true
        | true => exact iff_of_false (by decide) fun h => hunheard (h rfl)

/-! ## One subscriber of several -/

/-- A calm trial ends with a result that reports what every entity comes to. -/
theorem play_of_calm (settings : Settings) (h : Seated case seats)
    (hcalm : ∀ seat ∈ seats, seat.IsCalm) :
    ∃ result, (play settings case seats).2 = .ok result ∧ Reports settings case seats result := by
  refine conclude_of_calm h (List.find?_eq_none.mpr fun i hi => ?_)
  rw [mem_startOrder, h.length_roles] at hi
  have hsome := isSome_conclusionAt settings case.check hcalm hi
  obtain ⟨pair, hpair⟩ := Option.isSome_iff_exists.mp hsome
  rw [hpair]
  exact Bool.false_ne_true

theorem Reports.outcomes_getElem? {result : CaseResult} (h : Reports settings case seats result)
    {i : Nat} (hi : i < case.entities.length) :
    result.outcomes[i]? = (conclusionAt settings case.check seats i).map Prod.fst := by
  obtain ⟨label, outcome, output, -, hconclusion, hresult⟩ :=
    h.entity i _ (List.getElem?_eq_getElem hi)
  rw [CaseResult.outcomes, List.getElem?_map, hresult, hconclusion]
  rfl

/-- The outcome of a subscriber in the place that it has among the others. -/
theorem outcome_of_subscriber {result : CaseResult} (h : Seated case seats)
    (hreports : Reports settings case seats result) {i : Nat} (hseat : seats[i]? = some seat)
    (hcalm : seat.IsCalm) (hrole : seat.entity.role = .subscriber)
    (hneeded : case.check.publishersNeeded ≤
      (queuesAfter case.check (filledQueues settings case.check seats) (seats.take i)).length) :
    result.outcomes[i]? = some (subscriberOutcome case.check
      (queuesAfter case.check (filledQueues settings case.check seats) (seats.take i))
      seat.text) := by
  have hi : i < case.entities.length := by
    rw [← h.length]
    exact (List.getElem?_eq_some_iff.mp hseat).1
  rw [hreports.outcomes_getElem? hi, conclusionAt, hseat, Option.bind_some, hrole]
  exact conclusion_of_subscriber hcalm hrole hneeded

/-! ## The seats of the others removed -/

theorem length_labels_only {i : Nat} (h : Seated case seats) :
    (case.only i).labels.length =
      (retain (fun seat : Seat => seat.entity.role) i seats).length := by
  rw [Case.length_labels, Case.only, ← h.entities, ← map_retain, List.length_map]

theorem map_aloneSeats {α : Type} {i : Nat} (h : Seated case seats) {f : Seat → α}
    (hf : ∀ label seat, f { seat with label } = f seat) :
    (aloneSeats case i seats).map f =
      (retain (fun seat => seat.entity.role) i seats).map f := by
  have hsnd := List.map_snd_zip (Nat.le_of_eq (length_labels_only h (i := i)).symm)
  rw [List.zip, List.map_zipWith] at hsnd
  have hmap := congrArg (List.map f) hsnd
  rw [List.map_zipWith] at hmap
  rw [aloneSeats, List.map_zipWith, ← hmap]
  simp only [hf]

/-- The seats that are left fit the case that is left. -/
theorem seated_aloneSeats {i : Nat} (h : Seated case seats) :
    Seated (case.only i) (aloneSeats case i seats) where
  labels := by
    have hfst := List.map_fst_zip (Nat.le_of_eq (length_labels_only h (i := i)))
    rw [List.zip, List.map_zipWith] at hfst
    rw [aloneSeats, List.map_zipWith]
    exact hfst
  entities := by
    rw [map_aloneSeats h fun _ _ => rfl, map_retain, h.entities]
    rfl

/-- The publishers fill the same queues. -/
theorem filledQueues_aloneSeats {i : Nat} (h : Seated case seats) (hseat : seats[i]? = some seat)
    (hrole : seat.entity.role = .subscriber) :
    filledQueues settings check (aloneSeats case i seats) = filledQueues settings check seats := by
  -- the queues depend on the seats through their roles and what each publisher fills
  have hpairs : ∀ seats : List Seat, filledQueues settings check seats =
      ((seats.map fun seat => (seat.isOf .publisher,
        (seat.observePublisher settings check).2)).filter Prod.fst).map Prod.snd := by
    intro seats
    rw [List.filter_map, List.map_map]
    rfl
  rw [hpairs, map_aloneSeats h fun _ _ => rfl, ← hpairs, filledQueues, filledQueues]
  exact congrArg _ (filter_retain hseat hrole)

theorem calm_aloneSeats {i : Nat} (h : Seated case seats) (hcalm : ∀ seat ∈ seats, seat.IsCalm) :
    ∀ seat ∈ aloneSeats case i seats, seat.IsCalm := by
  intro seat hmem
  have hlaunch : seat.launch ∈ (aloneSeats case i seats).map Seat.launch :=
    List.mem_map_of_mem hmem
  rw [map_aloneSeats h fun _ _ => rfl] at hlaunch
  obtain ⟨original, horiginal, hsame⟩ := List.mem_map.mp hlaunch
  intro performance hperformance
  rw [← hsame] at hperformance
  refine hcalm original ?_ performance hperformance
  rw [retain] at horiginal
  rcases List.mem_append.mp horiginal with hbefore | hafter
  · exact List.mem_of_mem_take (List.mem_filter.mp hbefore).1
  · rcases List.mem_append.mp hafter with hself | hafter
    · exact List.mem_of_getElem? (Option.mem_toList.mp hself)
    · exact List.mem_of_mem_drop (List.mem_filter.mp hafter).1

/-- Where no subscriber comes before, the queues are as the publishers have filled them. -/
theorem queuesAfter_publishers (check : Check) (queues : List SampleQueue)
    (h : ∀ seat ∈ seats, seat.entity.role = .publisher) :
    queuesAfter check queues seats = queues := by
  induction seats with
  | nil => rfl
  | cons seat rest ih =>
    rw [List.forall_mem_cons] at h
    rw [queuesAfter, h.1]
    exact ih h.2

theorem length_queuesAfter (hcalm : ∀ seat ∈ seats, seat.IsCalm)
    (hneeded : check.publishersNeeded ≤ queues.length) :
    (queuesAfter check queues seats).length = queues.length := by
  induction seats generalizing queues with
  | nil => rfl
  | cons seat rest ih =>
    rw [List.forall_mem_cons] at hcalm
    rw [queuesAfter_cons _ _ _ _ hcalm.1 hneeded]
    cases seat.entity.role with
    | publisher => exact ih hcalm.2 hneeded
    | subscriber =>
      dsimp only
      rw [ih hcalm.2 (by rwa [length_remaining]), length_remaining]

theorem publishersBefore_eq {i : Nat} (h : Seated case seats) :
    case.publishersBefore i =
      (seats.take i).countP (fun seat => seat.entity.role == .publisher) := by
  rw [Case.publishersBefore, ← h.entities, ← List.map_take, List.countP_map]
  rfl

/-- The one subscriber that is left, behind the publishers that were before it. -/
theorem getElem?_aloneSeats {i : Nat} (h : Seated case seats) (hseat : seats[i]? = some seat) :
    ∃ own, (aloneSeats case i seats)[case.publishersBefore i]? = some own ∧
      own.entity = seat.entity ∧ own.launch = seat.launch := by
  have hparts := map_aloneSeats (i := i) h (f := fun seat => (seat.entity, seat.launch))
    fun _ _ => rfl
  have hget := congrArg (fun parts => parts[case.publishersBefore i]?) hparts
  simp only [List.getElem?_map] at hget
  rw [publishersBefore_eq h, getElem?_retain hseat] at hget
  rw [publishersBefore_eq h]
  obtain ⟨own, hown, hsame⟩ := Option.map_eq_some_iff.mp hget
  exact ⟨own, hown, congrArg Prod.fst hsame, congrArg Prod.snd hsame⟩

/-- Only publishers are in front of a subscriber that is alone. -/
theorem role_of_mem_take_aloneSeats {i : Nat} (h : Seated case seats) :
    ∀ other ∈ (aloneSeats case i seats).take (case.publishersBefore i),
      other.entity.role = .publisher := by
  intro other hother
  have hroles := map_aloneSeats (i := i) h (f := fun seat => seat.entity.role) fun _ _ => rfl
  have htake := congrArg (List.take (case.publishersBefore i)) hroles
  rw [← List.map_take, ← List.map_take, publishersBefore_eq h, take_retain] at htake
  rw [publishersBefore_eq h] at hother
  have hmem : other.entity.role ∈ ((aloneSeats case i seats).take
      ((seats.take i).countP fun seat => seat.entity.role == .publisher)).map
        (fun seat => seat.entity.role) := List.mem_map_of_mem hother
  rw [htake] at hmem
  obtain ⟨original, horiginal, hsame⟩ := List.mem_map.mp hmem
  rw [← hsame]
  exact eq_of_beq (List.mem_filter.mp horiginal).2

/-- A valid case stays valid with one of its subscribers alone, as only the publishers are
counted. -/
theorem validate_only {i : Nat} {entity : Entity} (hvalid : case.validate = .ok ())
    (hi : case.entities[i]? = some entity) (hrole : entity.role = .subscriber) :
    (case.only i).validate = .ok () := by
  rw [Case.validate_eq_ok_iff, Case.fault?_eq_none_iff] at hvalid ⊢
  obtain ⟨-, htimeout, hneeded⟩ := hvalid
  have hcount : (case.only i).count .publisher = case.count .publisher := by
    rw [Case.count, Case.count, List.countP_eq_length_filter, List.countP_eq_length_filter]
    exact congrArg List.length (filter_retain hi hrole)
  refine ⟨fun hnil => ?_, htimeout, ?_⟩
  · have hget : (case.only i).entities[case.publishersBefore i]? = some entity :=
      getElem?_retain hi
    rw [hnil] at hget
    exact nomatch hget
  · rw [hcount]
    exact hneeded

theorem needed_le_length_filledQueues (settings : Settings) (check : Check)
    (h : Seated case seats) (hvalid : case.validate = .ok ()) :
    case.check.publishersNeeded ≤ (filledQueues settings check seats).length := by
  rw [Case.validate_eq_ok_iff, Case.fault?_eq_none_iff] at hvalid
  have hlength := congrArg List.length (h.map_entity_filter .publisher)
  rw [List.length_map, Case.ofRole] at hlength
  rw [filledQueues, List.length_map, hlength, ← List.countP_eq_length_filter]
  exact hvalid.2.2

/-- A subscriber concludes the same as it does when all other subscribers are missing, just if
those before it have not disturbed it. -/
theorem outcome_alone_iff (settings : Settings) (h : Seated case seats)
    (hvalid : case.validate = .ok ()) (hcalm : ∀ seat ∈ seats, seat.IsCalm) {i : Nat}
    {entity : Entity} (hi : case.entities[i]? = some entity) (hrole : entity.role = .subscriber) :
    (case.only i).validate = .ok () ∧
      ∃ company alone outcome outcome', (play settings case seats).2 = .ok company ∧
        (play settings (case.only i) (aloneSeats case i seats)).2 = .ok alone ∧
        company.outcomes[i]? = some outcome ∧
        alone.outcomes[case.publishersBefore i]? = some outcome' ∧
        (outcome = outcome' ↔ Undisturbed settings case.check seats i) := by
  refine ⟨validate_only hvalid hi hrole, ?_⟩
  rw [← h.entities, List.getElem?_map] at hi
  obtain ⟨seat, hseat, rfl⟩ := Option.map_eq_some_iff.mp hi
  have hneeded := needed_le_length_filledQueues settings case.check h hvalid
  obtain ⟨company, hcompany, hreports⟩ := play_of_calm settings h hcalm
  have hearlier : ∀ other ∈ seats.take i, other.IsCalm := fun other hmem =>
    hcalm other (List.mem_of_mem_take hmem)
  have houtcome := outcome_of_subscriber h hreports hseat
    (hcalm seat (List.mem_of_getElem? hseat)) hrole (by rwa [length_queuesAfter hearlier hneeded])
  have halone := seated_aloneSeats (i := i) h
  have hcalm' := calm_aloneSeats (i := i) h hcalm
  obtain ⟨alone, hplay, hreports'⟩ := play_of_calm settings halone hcalm'
  obtain ⟨own, hown, hentity, hlaunch⟩ := getElem?_aloneSeats h hseat
  have hrole' : own.entity.role = .subscriber := hentity ▸ hrole
  -- alone, the subscriber finds the queues as the publishers have filled them
  have hqueues : queuesAfter case.check
      (filledQueues settings case.check (aloneSeats case i seats))
      ((aloneSeats case i seats).take (case.publishersBefore i)) =
        filledQueues settings case.check seats := by
    rw [queuesAfter_publishers _ _ (role_of_mem_take_aloneSeats h),
      filledQueues_aloneSeats h hseat hrole]
  have htext : own.text = seat.text := by
    rw [Seat.text, hlaunch, Seat.text]
  have houtcome' := outcome_of_subscriber halone hreports' hown
    (hcalm' own (List.mem_of_getElem? hown)) hrole'
    (Nat.le_trans hneeded (Nat.le_of_eq (congrArg List.length hqueues.symm)))
  have hsame : alone.outcomes[case.publishersBefore i]? = some
      (subscriberOutcome case.check (filledQueues settings case.check seats) seat.text) := by
    rw [← hqueues, ← htext]
    exact houtcome'
  exact ⟨company, alone, _, _, hcompany, hplay, houtcome, hsame,
    subscriberOutcome_queuesAfter_eq_iff hcalm hseat hneeded⟩

/-! ## Two rivals -/

/-- Two subscribers that check the order of the samples of one publisher. -/
def rivals : Case :=
  ⟨"rivals", none, [⟨.publisher, "-t Square -w", .ok⟩, ⟨.subscriber, "-t Square", .ok⟩,
    ⟨.subscriber, "-t Square", .ok⟩], .orderingCheck, none⟩

/-- A publisher that sends two samples. -/
def sender : Performance :=
  ⟨["Create topic: Square", "Create writer for topic: Square", "on_publication_matched()",
    "Square BLUE 001 001 [20]", "Square BLUE 002 002 [20]"], false, none⟩

/-- A subscriber that receives the first of them. -/
def listener : Performance :=
  ⟨["Create topic: Square", "Create reader for topic: Square", "on_subscription_matched()",
    "on_liveliness_changed()", "Square BLUE 001 001 [20]"], false, none⟩

/-- The stage on which each entity gives its part. -/
def duel : Stage := fun role _ =>
  match role with
  | .publisher => .ok sender
  | .subscriber => .ok listener

theorem calm_rivals : ∀ seat ∈ Trial.seats duel rivals, seat.IsCalm := by
  refine calm_seats (fun role parameters performance hperformance => ?_) rivals
  cases role <;> cases hperformance <;> rfl

/-- The second subscriber finds only the sample that it has not received. -/
theorem not_undisturbed_rivals :
    ¬ Undisturbed .standard .orderingCheck (Trial.seats duel rivals) 2 := by
  intro h
  have hsame := h ⟨"S1", ⟨.subscriber, "-t Square", .ok⟩, .ok listener⟩ rfl
  have hsent : queuedBy 0 (filledQueues .standard .orderingCheck (Trial.seats duel rivals)) =
      [⟨"001 001"⟩, ⟨"002 002"⟩] := by decide +kernel
  have htaken : takenBy [⟨"001 001"⟩, ⟨"002 002"⟩] ((Trial.seats duel rivals).take 2) = 1 := by
    decide +kernel
  dsimp only at hsame
  rw [hsent, htaken] at hsame
  revert hsame
  decide +kernel

/-- The theorem for two subscribers that print the same samples: the second one comes to another
outcome alone. -/
theorem outcome_alone_iff_rivals :
    ∃ company alone outcome outcome',
      (play .standard rivals (Trial.seats duel rivals)).2 = .ok company ∧
      (play .standard (rivals.only 2) (aloneSeats rivals 2 (Trial.seats duel rivals))).2 =
        .ok alone ∧
      company.outcomes[2]? = some outcome ∧ alone.outcomes[rivals.publishersBefore 2]? =
        some outcome' ∧ outcome ≠ outcome' := by
  obtain ⟨-, company, alone, outcome, outcome', hcompany, halone, houtcome, houtcome', hiff⟩ :=
    outcome_alone_iff .standard (seated_seats duel rivals) rfl calm_rivals (i := 2) rfl rfl
  exact ⟨company, alone, outcome, outcome', hcompany, halone, houtcome, houtcome',
    fun heq => not_undisturbed_rivals (hiff.mp heq)⟩

/-- Of two subscribers that have received the same, the one whose turn is second fails the check;
when the first one is missing it passes. -/
theorem rival_changes_outcome :
    rivals.validate = .ok () ∧
      (run .standard duel rivals).2.toOption.map CaseResult.outcomes =
        some [.ok, .ok, .dataNotCorrect] ∧
      (run .standard duel (rivals.only 2)).2.toOption.map CaseResult.outcomes =
        some [.ok, .ok] := by
  refine ⟨rfl, ?_, ?_⟩
  · decide +kernel
  · decide +kernel

end Trial

end PubSubTrials
