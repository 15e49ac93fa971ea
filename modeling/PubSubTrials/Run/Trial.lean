import PubSubTrials.Lifecycle
import PubSubTrials.Run.Journal
import PubSubTrials.Run.Performance
import PubSubTrials.Run.Result
import PubSubTrials.Run.Settings

/-!
# Running one case

All subscribers are started first, then the publishers with pauses between them; the run crashes
at an entity whose observer needs a thread of a name that no thread can have. Every entity
is observed until its outcome is known, and kept until its peers are done. Each publisher fills
a sample queue of its own; all subscribers read from the same queues, in turn. The result lists
the entities in the order of their declaration; a crash of an observer is reported instead, and
of several the one whose entity was started first.
-/

namespace PubSubTrials

/-- Whether a thread can have a name, which is handed on as a text that ends at a null character. -/
def isThreadName (name : String) : Bool :=
  !name.toList.contains '\x00'

/-- Why a case has no result. -/
inductive RunError where
  | invalidCase (fault : CaseError)
  | observerCrashed (case label : String)
  /-- The run itself has crashed, because the thread of an observer cannot have this name. -/
  | unnamable (thread : String)
  deriving DecidableEq, Repr

namespace RunError

/-- How the null character in the name of a thread reads: where it is, and all bytes. -/
def nullFault (thread : String) : String :=
  "NulError(" ++ toString (Text.byteLength (thread.toList.takeWhile (· ≠ '\x00'))) ++ ", [" ++
    ", ".intercalate ((Text.encode thread.toList).map toString) ++ "])"

/-- How the failure of a run reads. -/
def message : RunError → String
  | invalidCase fault => "invalid test case: " ++ fault.message
  | observerCrashed case label => "test case " ++ case ++ ": driver for " ++ label ++ " panicked"
  | unnamable thread => "thread name may not contain interior null bytes: " ++ nullFault thread

end RunError

namespace Trial

/-- An entity with its label and the performance that it gives. -/
structure Seat where
  label : String
  entity : Entity
  launch : Except LaunchError Performance

/-- The seats of a case, in the order of declaration. -/
def seats (stage : Stage) (case : Case) : List Seat :=
  List.zipWith (fun label entity => ⟨label, entity, stage entity.role entity.parameters⟩)
    case.labels case.entities

/-- Whether a seat is one of a role. -/
def Seat.isOf (role : Role) (seat : Seat) : Bool :=
  seat.entity.role == role

/-- The start of an application. -/
def Seat.launchEvent (seat : Seat) : Event :=
  .launched seat.entity.role seat.entity.parameters

/-- The pause before the launch of an entity when `launched` of its role were launched before. -/
def pauseBefore (settings : Settings) (launched : Nat) : Role → List Event
  | .publisher => if 0 < launched then [.slept settings.publisherStagger] else []
  | .subscriber => []

/-- The name of the thread on which the entity of a label is observed. -/
def threadName (case : Case) (label : String) : String :=
  case.name ++ "-" ++ label

/-- What comes of starting entities. -/
structure Start (σ : Type) where
  /-- The launches and the pauses between them. -/
  journal : List Event
  /-- All seats, with the performances of those that were launched. -/
  seats : List Seat
  /-- What the applications have left behind. -/
  state : σ
  /-- The name of the thread at which the run has crashed, if it has. -/
  unnamable : Option String

/-- What came of starting entities, with a seat in front of theirs. -/
def Start.after {σ : Type} (events : List Event) (seat : Seat) (later : Start σ) : Start σ :=
  { later with journal := events ++ later.journal, seats := seat :: later.seats }

/-- Start the entities of a role one after the other, when `launched` of them were launched before:
each is launched, and then the thread of its observer is started. -/
def startRole {σ : Type} (settings : Settings) (theatre : Theatre σ) (case : Case) (role : Role) :
    Nat → List Seat → σ → Start σ
  | _, [], state => ⟨[], [], state, none⟩
  | launched, seat :: rest, state =>
    if seat.isOf role then
      let (launch, state) :=
        theatre (settings.timeoutFor case) role seat.entity.parameters state
      let events := pauseBefore settings launched role ++ [seat.launchEvent]
      let thread := threadName case seat.label
      if isThreadName thread then
        (startRole settings theatre case role (launched + 1) rest state).after events
          { seat with launch }
      else ⟨events, { seat with launch } :: rest, state, some thread⟩
    else (startRole settings theatre case role launched rest state).after [] seat

/-- Start the entities of a case in a theatre: subscribers first, and then the publishers. -/
def seatsIn {σ : Type} (settings : Settings) (theatre : Theatre σ) (case : Case) (state : σ) :
    Start σ :=
  let missing : Stage := fun role parameters => .error (.noScript role parameters)
  let subscribers := startRole settings theatre case .subscriber 0 (seats missing case) state
  if subscribers.unnamable.isSome then subscribers
  else
    let publishers :=
      startRole settings theatre case .publisher 0 subscribers.seats subscribers.state
    { publishers with journal := subscribers.journal ++ publishers.journal }

/-- What is known about an entity at the end: the log of its observer, and its outcome and
output unless the observer crashed. -/
structure Account where
  log : List LogEntry
  outcome : Option (Outcome × String)
  deriving Repr

/-- How an entity of a case is observed. -/
def Seat.plan (check : Check) (seat : Seat) : Lifecycle.Plan :=
  ⟨seat.entity.role, seat.entity.reportsSamples, check⟩

/-- What is logged when an application cannot be started. -/
def launchFailure (error : LaunchError) : LogEntry :=
  ⟨.normal, "launch failed: " ++ error.message⟩

/-- The account of an observer at the end of its work. -/
def accountOf (result : Except Crash Outcome) (state : Observation) : Account where
  log := state.log.toList
  outcome :=
    match result with
    | .ok outcome => some (outcome, String.ofList state.console.transcript.text)
    | .error _ => none

/-- Observe an entity with the given queues at hand. -/
def Seat.observe (check : Check) (inbox : List SampleQueue) (outbox : Option SampleQueue)
    (seat : Seat) : Account × Option Observation :=
  match seat.launch with
  | .error error => (⟨[launchFailure error], some (.topicNotCreated, error.message)⟩, none)
  | .ok performance =>
    let start := { Observation.start performance.console inbox outbox with
      crashAfter := performance.crashAfter }
    let (result, state) := (Lifecycle.observe (seat.plan check)).result start
    (accountOf result state, some state)

/-- Observe a publisher, which fills a queue of its own. -/
def Seat.observePublisher (settings : Settings) (check : Check) (seat : Seat) :
    Account × SampleQueue :=
  let queue := SampleQueue.empty settings.queueCapacity
  let (account, state) := seat.observe check [] (some queue)
  (account, (state.bind Observation.outbox).getD queue)

/-- Observe a subscriber, which reads from the queues of the publishers. -/
def Seat.observeSubscriber (check : Check) (queues : List SampleQueue) (seat : Seat) :
    Account × List SampleQueue :=
  let (account, state) := seat.observe check queues none
  (account, (state.map Observation.inbox).getD queues)

/-- Observe subscribers in turn. -/
def observeSubscribers (check : Check) (queues : List SampleQueue) : List Seat → List Account
  | [] => []
  | seat :: rest =>
    let (account, queues) := seat.observeSubscriber check queues
    account :: observeSubscribers check queues rest

/-- What a publisher logs that gave up waiting for the subscribers. -/
def gaveUpWaiting : LogEntry :=
  ⟨.normal, "timed out waiting for peers to finish"⟩

/-- The account of a publisher whose time to wait for subscribers is over at once. -/
def Account.impatient (account : Account) : Account :=
  if account.outcome.isSome then { account with log := account.log ++ [gaveUpWaiting] }
  else account

/-- Put the accounts of publishers and subscribers in the order of their seats. -/
def collect : List Seat → List Account → List Account → List (Seat × Account)
  | [], _, _ => []
  | seat :: rest, publishers, subscribers =>
    match seat.entity.role, publishers, subscribers with
    | .publisher, account :: publishers, subscribers =>
      (seat, account) :: collect rest publishers subscribers
    | .subscriber, publishers, account :: subscribers =>
      (seat, account) :: collect rest publishers subscribers
    | _, _, _ => []

/-- The accounts of all entities, in the order of their seats. Publishers take their turns
first, so their queues are full when the first subscriber reads from them; they wait for the
subscribers, unless the time to do so is zero. -/
def accounts (settings : Settings) (case : Case) (seats : List Seat) : List (Seat × Account) :=
  let publishers := (seats.filter (Seat.isOf .publisher)).map
    (Seat.observePublisher settings case.check)
  let listeners := seats.filter (Seat.isOf .subscriber)
  let waits := settings.barrierTimeout (settings.timeoutFor case) ≠ .zero
  let publisherAccounts := publishers.map (fun (account, _) =>
    if waits ∨ listeners.isEmpty then account else account.impatient)
  collect seats publisherAccounts
    (observeSubscribers case.check (publishers.map Prod.snd) listeners)

/-- The messages about an entity. -/
def observedEvents (seat : Seat) (account : Account) : List Event :=
  account.log.map (Event.observed seat.label)

/-- The accounts in the order in which entities are started. -/
def inStartOrder (accounts : List (Seat × Account)) : List (Seat × Account) :=
  accounts.filter (fun (seat, _) => seat.isOf .subscriber) ++
    accounts.filter (fun (seat, _) => seat.isOf .publisher)

/-- The entity whose observer crashed; of several the one that was started first. -/
def crashed? (accounts : List (Seat × Account)) : Option Seat :=
  ((inStartOrder accounts).find? (fun (_, account) => account.outcome.isNone)).map Prod.fst

/-- The result of an entity whose observer did not crash. -/
def entityResult (seat : Seat) (account : Account) : Option EntityResult :=
  account.outcome.map (fun (actual, output) =>
    ⟨seat.label, seat.entity.role, seat.entity.parameters, seat.entity.expected, actual, output⟩)

/-- The result of a case, or the crash of an observer. -/
def conclude (case : Case) (accounts : List (Seat × Account)) : Except RunError CaseResult :=
  match crashed? accounts with
  | some seat => .error (.observerCrashed case.name seat.label)
  | none =>
    .ok ⟨case.name, accounts.filterMap (fun (seat, account) => entityResult seat account), .zero⟩

/-- What a run logs at the start of a case. -/
def announcement (settings : Settings) (case : Case) : LogEntry :=
  ⟨.verbose, "running " ++ case.name ++ " (timeout " ++
    (settings.timeoutFor case).render ++ ")"⟩

/-- What a run logs about a result. -/
def mismatchEntries (result : Except RunError CaseResult) : List LogEntry :=
  match result with
  | .ok result => result.mismatches.map (fun line => ⟨.verbose, result.name ++ ": " ++ line⟩)
  | .error _ => []

/-- What follows when the entities of a case have taken their seats, and the result. Performances
take no time, so the result shows none. -/
def play (settings : Settings) (case : Case) (seats : List Seat) :
    List Event × Except RunError CaseResult :=
  let accounts := accounts settings case seats
  let result := conclude case accounts
  (accounts.flatMap (fun (seat, account) => observedEvents seat account) ++
    (mismatchEntries result).map Event.logged, result)

/-- What a run does until all entities have taken their seats, or it crashes. -/
def prologue {σ : Type} (settings : Settings) (case : Case) (start : Start σ) : List Event :=
  .began case.name :: .logged (announcement settings case) :: start.journal

/-- Run a case in a theatre. -/
def runIn {σ : Type} (settings : Settings) (theatre : Theatre σ) (case : Case) (state : σ) :
    (List Event × Except RunError CaseResult) × σ :=
  match case.fault? with
  | some fault => (([], .error (.invalidCase fault)), state)
  | none =>
    let start := seatsIn settings theatre case state
    match start.unnamable with
    | some thread => ((prologue settings case start, .error (.unnamable thread)), start.state)
    | none =>
      let (journal, result) := play settings case start.seats
      ((prologue settings case start ++ journal, result), start.state)

/-- Run a case on a stage. -/
def run (settings : Settings) (stage : Stage) (case : Case) :
    List Event × Except RunError CaseResult :=
  (runIn settings stage.theatre case ()).1

end Trial

end PubSubTrials
