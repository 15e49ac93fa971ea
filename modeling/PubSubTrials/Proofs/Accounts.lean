import PubSubTrials.Proofs.Launches

/-!
# Who gets which account

The accounts of a case are worked out by role: all publishers, then the subscribers one after the
other on the queues that the earlier ones have left. Put in the order of the seats, each is the
account of its own entity.
-/

namespace PubSubTrials.Trial

variable {settings : Settings} {check : Check} {case : Case} {seat : Seat} {seats : List Seat}

/-! ## The observer of one seat -/

/-- What the observer of a seat comes to: the outcome and the output of its entity, unless it
crashes. An entity that cannot be launched has no topic, and the reason for an output. -/
def Seat.conclusion (check : Check) (inbox : List SampleQueue) (outbox : Option SampleQueue)
    (seat : Seat) : Option (Outcome × String) :=
  match seat.launch with
  | .error error => some (.topicNotCreated, error.message)
  | .ok performance =>
    match (Lifecycle.observe ⟨seat.entity.role, seat.entity.reportsSamples, check⟩).result
      { Observation.start performance.console inbox outbox with
        crashAfter := performance.crashAfter } with
    | (.ok outcome, final) => some (outcome, String.ofList final.console.transcript.text)
    | (.error _, _) => none

/-- The outcome of an entity that was seated depends on its own window and on the queues that it is
given, and not on what it notes on the way. -/
theorem outcome_observe (check : Check) (inbox : List SampleQueue) (outbox : Option SampleQueue)
    (seat : Seat) :
    (seat.observe check inbox outbox).1.outcome = seat.conclusion check inbox outbox := by
  rw [Seat.observe, Seat.conclusion]
  cases seat.launch with
  | error error => rfl
  | ok performance =>
    simp only [Seat.plan]
    generalize (Lifecycle.observe _).result _ = observed
    obtain ⟨result, final⟩ := observed
    cases result <;> rfl

/-- Giving up at the barrier is told of in the log and leaves the outcome alone. -/
@[simp] theorem outcome_impatient (account : Account) :
    account.impatient.outcome = account.outcome := by
  rw [Account.impatient]
  split <;> rfl

/-! ## Queues that pass from one subscriber to the next -/

/-- The queues after the subscribers among some seats have read from them. -/
def queuesAfter (check : Check) : List SampleQueue → List Seat → List SampleQueue
  | queues, [] => queues
  | queues, seat :: rest =>
    match seat.entity.role with
    | .publisher => queuesAfter check queues rest
    | .subscriber => queuesAfter check (seat.observeSubscriber check queues).2 rest

/-- The queues of the publishers before anybody reads from them. -/
def filledQueues (settings : Settings) (check : Check) (seats : List Seat) : List SampleQueue :=
  (seats.filter (Seat.isOf .publisher)).map (fun seat => (seat.observePublisher settings check).2)

/-- What the observer of the entity at position `i` comes to: a publisher has an empty queue to
fill, a subscriber the queues that the subscribers before it have left. -/
def conclusionAt (settings : Settings) (check : Check) (seats : List Seat) (i : Nat) :
    Option (Outcome × String) :=
  seats[i]?.bind (fun seat =>
    match seat.entity.role with
    | .publisher => seat.conclusion check [] (some (.empty settings.queueCapacity))
    | .subscriber =>
      seat.conclusion check (queuesAfter check (filledQueues settings check seats) (seats.take i))
        none)

/-- The accounts of seats, worked out in the order of the seats. -/
def tally (publisher : Seat → Account) (check : Check) :
    List SampleQueue → List Seat → List (Seat × Account)
  | _, [] => []
  | queues, seat :: rest =>
    match seat.entity.role with
    | .publisher => (seat, publisher seat) :: tally publisher check queues rest
    | .subscriber =>
      (seat, (seat.observeSubscriber check queues).1) ::
        tally publisher check (seat.observeSubscriber check queues).2 rest

/-- Gathering the accounts in the order of the case comes to the same as going through the seats one
by one, the queues handed on from subscriber to subscriber. -/
theorem collect_eq_tally (publisher : Seat → Account) (check : Check) (queues : List SampleQueue)
    (seats : List Seat) :
    collect seats ((seats.filter (Seat.isOf .publisher)).map publisher)
        (observeSubscribers check queues (seats.filter (Seat.isOf .subscriber))) =
      tally publisher check queues seats := by
  induction seats generalizing queues with
  | nil => rfl
  | cons seat rest ih =>
    cases hrole : seat.entity.role with
    | publisher =>
      have hpublisher : seat.isOf .publisher = true := by simp [Seat.isOf, hrole]
      have hsubscriber : ¬ seat.isOf .subscriber = true := by simp [Seat.isOf, hrole]
      rw [List.filter_cons_of_pos hpublisher, List.filter_cons_of_neg hsubscriber, List.map_cons]
      simp only [collect, tally, hrole, ih]
    | subscriber =>
      have hpublisher : ¬ seat.isOf .publisher = true := by simp [Seat.isOf, hrole]
      have hsubscriber : seat.isOf .subscriber = true := by simp [Seat.isOf, hrole]
      rw [List.filter_cons_of_neg hpublisher, List.filter_cons_of_pos hsubscriber]
      simp only [observeSubscribers, collect, tally, hrole, ih]

/-- The account at a place: a publisher's own, a subscriber's under the queues that those before it
have left. -/
theorem getElem?_tally (publisher : Seat → Account) (check : Check) (queues : List SampleQueue)
    (seats : List Seat) (i : Nat) :
    (tally publisher check queues seats)[i]? = seats[i]?.map (fun seat =>
      (seat, match seat.entity.role with
        | .publisher => publisher seat
        | .subscriber =>
          (seat.observeSubscriber check (queuesAfter check queues (seats.take i))).1)) := by
  induction seats generalizing queues i with
  | nil => rfl
  | cons seat rest ih =>
    rw [tally]
    cases hrole : seat.entity.role with
    | publisher =>
      cases i with
      | zero => simp [hrole]
      | succ i => simp [ih, queuesAfter, hrole]
    | subscriber =>
      cases i with
      | zero => simp [hrole, queuesAfter]
      | succ i => simp [ih, queuesAfter, hrole]

/-! ## The accounts of a case -/

/-- The account of a publisher, at the end of its wait for the subscribers. -/
def publisherAccount (settings : Settings) (case : Case) (seats : List Seat) (seat : Seat) :
    Account :=
  if settings.barrierTimeout (settings.timeoutFor case) ≠ .zero ∨
      (seats.filter (Seat.isOf .subscriber)).isEmpty then
    (seat.observePublisher settings case.check).1
  else (seat.observePublisher settings case.check).1.impatient

/-- The accounts of a trial are a tally over the queues that its publishers have filled. -/
theorem accounts_eq_tally (settings : Settings) (case : Case) (seats : List Seat) :
    accounts settings case seats =
      tally (publisherAccount settings case seats) case.check
        (filledQueues settings case.check seats) seats := by
  rw [← collect_eq_tally, accounts, filledQueues]
  simp only [List.map_map]
  rfl

theorem map_fst_accounts (settings : Settings) (case : Case) (seats : List Seat) :
    (accounts settings case seats).map Prod.fst = seats := by
  refine List.ext_getElem? fun i => ?_
  rw [List.getElem?_map, accounts_eq_tally, getElem?_tally, Option.map_map]
  exact Option.map_id'

theorem length_accounts (settings : Settings) (case : Case) (seats : List Seat) :
    (accounts settings case seats).length = seats.length := by
  have h := congrArg List.length (map_fst_accounts settings case seats)
  rwa [List.length_map] at h

theorem getElem?_accounts_seat {i : Nat} {entry : Seat × Account}
    (h : (accounts settings case seats)[i]? = some entry) : seats[i]? = some entry.1 := by
  rw [← map_fst_accounts settings case seats, List.getElem?_map, h]
  rfl

/-- Every seat has the account that its own observer gives. -/
theorem getElem?_accounts_outcome (settings : Settings) (case : Case) (seats : List Seat)
    (i : Nat) :
    (accounts settings case seats)[i]?.bind (fun (_, account) => account.outcome) =
      conclusionAt settings case.check seats i := by
  rw [accounts_eq_tally, getElem?_tally, conclusionAt]
  cases seats[i]? with
  | none => rfl
  | some seat =>
    simp only [Option.map_some, Option.bind_some]
    cases seat.entity.role with
    | publisher =>
      simp only [publisherAccount]
      split
      · exact outcome_observe ..
      · rw [outcome_impatient]
        exact outcome_observe ..
    | subscriber => exact outcome_observe ..

end PubSubTrials.Trial
