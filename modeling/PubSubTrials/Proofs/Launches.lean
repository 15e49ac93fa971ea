import PubSubTrials.Run.Trial
import PubSubTrials.Proofs.StartOrder

/-!
# Who is launched, and when

Taking seats in a theatre comes to launching the subscribers and then the publishers, each of them
once and in the order of declaration. The journal of a case shows these launches, and a pause
between one publisher and the next (`seatsIn_of_isNamable`).

This is so if the threads of the observers can have their names. That hangs on the name of the case
alone (`isThreadName_threadName`): if it holds a null character, the run crashes right after the
first launch (`runIn_of_not_isNamable`).
-/

namespace PubSubTrials

/-- The roles of the entities. -/
def Case.roles (case : Case) : List Role :=
  case.entities.map Entity.role

/-- The entities of a role. -/
def Case.ofRole (case : Case) (role : Role) : List Entity :=
  case.entities.filter (fun entity => entity.role == role)

theorem Case.validate_eq_ok_iff (case : Case) : case.validate = .ok () ↔ case.fault? = none := by
  rw [validate]
  cases case.fault? with
  | none => exact iff_of_true rfl rfl
  | some fault => exact iff_of_false nofun nofun

/-- A case can be run if it has an entity, time, and the publishers that its check needs. -/
theorem Case.fault?_eq_none_iff (case : Case) :
    case.fault? = none ↔
      case.entities ≠ [] ∧ case.timeout ≠ some .zero ∧
        case.check.publishersNeeded ≤ case.count .publisher := by
  rw [fault?]
  by_cases hentities : case.entities = []
  · simp [hentities]
  · by_cases htimeout : case.timeout = some .zero
    · simp [hentities, htimeout]
    · simp [hentities, htimeout]

/-- Whether the threads of a case's observers can have their names. -/
def Case.isNamable (case : Case) : Bool :=
  isThreadName case.name

/-- Whether an event is a launch or a pause. -/
def Event.IsPacing : Event → Bool
  | launched .. | slept _ => true
  | _ => false

/-- The launch of an entity as an event. -/
def Entity.launchEvent (entity : Entity) : Event :=
  .launched entity.role entity.parameters

namespace Trial

variable {σ : Type} {settings : Settings} {theatre : Theatre σ} {patience : Duration} {case : Case}
  {role other : Role} {launched : Nat} {seat : Seat} {seats : List Seat} {state : σ}

/-! ## The names of threads -/

/-- Two texts make a name for a thread precisely when both do. -/
theorem isThreadName_append (first second : String) :
    isThreadName (first ++ second) = (isThreadName first && isThreadName second) := by
  simp [isThreadName, String.toList_append, Bool.not_or]

/-- A label consists of a letter and digits. -/
theorem isThreadName_label (role : Role) (n : Nat) : isThreadName (role.label n) = true := by
  have hdigits : (toString n).toList = Nat.toDigits 10 n := Nat.toList_repr
  have hnumber : '\x00' ∉ Nat.toDigits 10 n := fun hmem =>
    absurd (Nat.isDigit_of_mem_toDigits (by decide) (by decide) hmem) (by decide)
  have hletter : '\x00' ≠ role.letter := by cases role <;> decide
  rw [isThreadName, Role.label, String.toList_append, String.toList_singleton, hdigits]
  simp [hnumber, hletter]

/-- Labels are always fit for a thread, so only the name of the case decides. -/
theorem isThreadName_of_mem_labelsFrom {publishers subscribers : Nat} {roles : List Role}
    {label : String} (h : label ∈ Case.labelsFrom publishers subscribers roles) :
    isThreadName label = true := by
  induction roles generalizing publishers subscribers with
  | nil => cases h
  | cons role rest ih =>
    cases role with
    | publisher | subscriber =>
      rcases List.mem_cons.mp h with rfl | h
      · exact isThreadName_label _ _
      · exact ih h

/-- The thread of an observer can have its name if the name of the case is one. -/
theorem isThreadName_threadName {label : String} (h : label ∈ case.labels) :
    isThreadName (threadName case label) = case.isNamable := by
  have hlabel := isThreadName_of_mem_labelsFrom h
  have hhyphen : isThreadName "-" = true := by decide
  rw [threadName, isThreadName_append, isThreadName_append, hlabel, hhyphen, Bool.and_true,
    Bool.and_true, Case.isNamable]

/-! ## Launching -/

/-- Launch entities one after the other: what comes of each, and what they leave behind. -/
def launchAll (theatre : Theatre σ) (patience : Duration) :
    List Entity → σ → List (Except LaunchError Performance) × σ
  | [], state => ([], state)
  | entity :: rest, state =>
    let launched := theatre patience entity.role entity.parameters state
    let others := launchAll theatre patience rest launched.2
    (launched.1 :: others.1, others.2)

theorem launchAll_append (first second : List Entity) (state : σ) :
    launchAll theatre patience (first ++ second) state =
      ((launchAll theatre patience first state).1 ++
          (launchAll theatre patience second (launchAll theatre patience first state).2).1,
        (launchAll theatre patience second (launchAll theatre patience first state).2).2) := by
  induction first generalizing state with
  | nil => rfl
  | cons entity rest ih =>
    rw [List.cons_append, launchAll, ih]
    rfl

/-- The launches of entities of a role and the pauses between them, when `launched` of them were
launched before. -/
def pacing (settings : Settings) (role : Role) : Nat → List Entity → List Event
  | _, [] => []
  | launched, entity :: rest =>
    pauseBefore settings launched role ++
      entity.launchEvent :: pacing settings role (launched + 1) rest

theorem pacing_subscriber (entities : List Entity) :
    pacing settings .subscriber launched entities = entities.map Entity.launchEvent := by
  induction entities generalizing launched with
  | nil => rfl
  | cons entity rest ih =>
    rw [pacing, ih]
    rfl

/-- There is a pause between each two publishers. -/
theorem pacing_publisher (entities : List Entity) :
    pacing settings .publisher 0 entities =
      (entities.map Entity.launchEvent).intersperse (.slept settings.publisherStagger) := by
  -- behind a first publisher each launch comes with a pause in front of it
  have hrest : ∀ (entity : Entity) (rest : List Entity) (launched : Nat),
      entity.launchEvent :: pacing settings .publisher (launched + 1) rest =
        ((entity :: rest).map Entity.launchEvent).intersperse
          (.slept settings.publisherStagger) := by
    intro entity rest
    induction rest generalizing entity with
    | nil => exact fun _ => rfl
    | cons next rest ih =>
      intro launched
      rw [List.map_cons, List.map_cons, List.intersperse_cons_cons, ← List.map_cons, ← ih,
        pacing, pauseBefore, if_pos (Nat.succ_pos launched)]
      rfl
  cases entities with
  | nil => rfl
  | cons entity rest => exact hrest entity rest 0

/-! ## Starting the entities of a role -/

/-- What is fixed about a seat before its entity is launched. -/
def Seat.place (seat : Seat) : String × Entity :=
  (seat.label, seat.entity)

/-- An entity of the other role keeps its place and is not launched. -/
theorem startRole_cons_of_not_isOf (h : seat.isOf role = false) :
    startRole settings theatre case role launched (seat :: seats) state =
      (startRole settings theatre case role launched seats state).after [] seat := by
  rw [startRole, if_neg (by rw [h]; decide)]

/-- An entity whose thread can be named is launched, and then those behind it. -/
theorem startRole_cons_of_isThreadName (h : seat.isOf role = true)
    (hname : isThreadName (threadName case seat.label) = true) :
    startRole settings theatre case role launched (seat :: seats) state =
      let application := theatre (settings.timeoutFor case) role seat.entity.parameters state
      (startRole settings theatre case role (launched + 1) seats application.2).after
        (pauseBefore settings launched role ++ [seat.launchEvent])
        { seat with launch := application.1 } := by
  rw [startRole, if_pos h]
  exact if_pos hname

/-- The run crashes when an entity is launched whose observer cannot be started. -/
theorem startRole_cons_of_not_isThreadName (h : seat.isOf role = true)
    (hname : isThreadName (threadName case seat.label) = false) :
    startRole settings theatre case role launched (seat :: seats) state =
      let application := theatre (settings.timeoutFor case) role seat.entity.parameters state
      ⟨pauseBefore settings launched role ++ [seat.launchEvent],
        { seat with launch := application.1 } :: seats, application.2,
        some (threadName case seat.label)⟩ := by
  rw [startRole, if_pos h]
  exact if_neg (by rw [hname]; decide)

/-- Starting entities changes nothing but what comes of their launches. -/
theorem map_place_startRole :
    (startRole settings theatre case role launched seats state).seats.map Seat.place =
      seats.map Seat.place := by
  induction seats generalizing launched state with
  | nil => rfl
  | cons seat rest ih =>
    cases h : seat.isOf role with
    | false => rw [startRole_cons_of_not_isOf h, Start.after, List.map_cons, List.map_cons, ih]
    | true =>
      cases hname : isThreadName (threadName case seat.label) with
      | true =>
        rw [startRole_cons_of_isThreadName h hname, Start.after, List.map_cons, List.map_cons, ih]
        rfl
      | false =>
        rw [startRole_cons_of_not_isThreadName h hname, List.map_cons, List.map_cons]
        rfl

/-- Where there is nobody of the role, nothing happens. -/
theorem startRole_of_filter_eq_nil (settings : Settings) (theatre : Theatre σ) (case : Case)
    (launched : Nat) (state : σ) (h : seats.filter (Seat.isOf role) = []) :
    startRole settings theatre case role launched seats state = ⟨[], seats, state, none⟩ := by
  induction seats with
  | nil => rfl
  | cons seat rest ih =>
    have hnone := List.filter_eq_nil_iff.mp h
    have hseat : seat.isOf role = false :=
      Bool.eq_false_iff.mpr (hnone seat (List.mem_cons_self ..))
    rw [startRole_cons_of_not_isOf hseat, ih]
    · rfl
    · exact List.filter_eq_nil_iff.mpr fun other hother =>
        hnone other (List.mem_cons_of_mem _ hother)

/-- With names that threads cannot have, the run crashes at the first entity of the role. -/
theorem startRole_of_not_isThreadName (settings : Settings) (theatre : Theatre σ) (launched : Nat)
    (state : σ) (hnames : ∀ seat ∈ seats, isThreadName (threadName case seat.label) = false)
    {first : Seat} {others : List Seat} (h : seats.filter (Seat.isOf role) = first :: others) :
    let start := startRole settings theatre case role launched seats state
    start.journal = pauseBefore settings launched role ++ [first.launchEvent] ∧
      start.state =
        (theatre (settings.timeoutFor case) role first.entity.parameters state).2 ∧
      start.unnamable = some (threadName case first.label) := by
  induction seats with
  | nil => cases h
  | cons seat rest ih =>
    rw [List.forall_mem_cons] at hnames
    cases hseat : seat.isOf role with
    | true =>
      rw [List.filter_cons_of_pos hseat] at h
      cases h
      rw [startRole_cons_of_not_isThreadName hseat hnames.1]
      exact ⟨rfl, rfl, rfl⟩
    | false =>
      rw [List.filter_cons_of_neg (by rw [hseat]; decide)] at h
      rw [startRole_cons_of_not_isOf hseat]
      exact ih hnames.2 h

/-- The entities of another role are left alone. -/
theorem filter_isOf_startRole_of_ne (hne : other ≠ role) (launched : Nat) (seats : List Seat)
    (state : σ) :
    (startRole settings theatre case role launched seats state).seats.filter (Seat.isOf other) =
      seats.filter (Seat.isOf other) := by
  induction seats generalizing launched state with
  | nil => rfl
  | cons seat rest ih =>
    cases h : seat.isOf role with
    | false =>
      rw [startRole_cons_of_not_isOf h, Start.after, List.filter_cons, List.filter_cons, ih]
    | true =>
      have hrole : seat.entity.role = role := eq_of_beq h
      have hother : ∀ launch, ¬ ({ seat with launch } : Seat).isOf other = true := by
        intro launch heq
        exact hne ((eq_of_beq heq).symm.trans hrole)
      rw [List.filter_cons_of_neg (hother seat.launch)]
      cases hname : isThreadName (threadName case seat.label) with
      | true =>
        rw [startRole_cons_of_isThreadName h hname, Start.after,
          List.filter_cons_of_neg (hother _), ih]
      | false =>
        rw [startRole_cons_of_not_isThreadName h hname]
        exact List.filter_cons_of_neg (hother _)

/-- What the journal of a start shows are launches and pauses. -/
theorem isPacing_of_mem_startRole {event : Event}
    (h : event ∈ (startRole settings theatre case role launched seats state).journal) :
    event.IsPacing = true := by
  -- both kinds of launch note a pause, if any, and the launch
  have hlaunch : ∀ (launched : Nat) (seat : Seat),
      event ∈ pauseBefore settings launched role ++ [seat.launchEvent] →
        event.IsPacing = true := by
    intro launched seat hevent
    rcases List.mem_append.mp hevent with hpause | hlaunch
    · cases role with
      | subscriber => cases hpause
      | publisher =>
        rw [pauseBefore, List.mem_ite_nil_right, List.mem_singleton] at hpause
        rw [hpause.2]
        rfl
    · rw [List.mem_singleton.mp hlaunch]
      rfl
  induction seats generalizing launched state with
  | nil => cases h
  | cons seat rest ih =>
    cases hseat : seat.isOf role with
    | false =>
      rw [startRole_cons_of_not_isOf hseat] at h
      exact ih h
    | true =>
      cases hname : isThreadName (threadName case seat.label) with
      | true =>
        rw [startRole_cons_of_isThreadName hseat hname] at h
        rcases List.mem_append.mp h with h | h
        · exact hlaunch _ _ h
        · exact ih h
      | false =>
        rw [startRole_cons_of_not_isThreadName hseat hname] at h
        exact hlaunch _ _ h

section

variable (hnames : ∀ seat ∈ seats, isThreadName (threadName case seat.label) = true)

include hnames

/-- If threads can have the names, all entities of the role are launched one after the other, with
pauses between them. -/
theorem startRole_of_isThreadName (settings : Settings) (theatre : Theatre σ) (role : Role)
    (launched : Nat) (state : σ) :
    let start := startRole settings theatre case role launched seats state
    start.unnamable = none ∧
      start.journal =
        pacing settings role launched ((seats.filter (Seat.isOf role)).map Seat.entity) ∧
      ((start.seats.filter (Seat.isOf role)).map Seat.launch, start.state) =
        launchAll theatre (settings.timeoutFor case)
          ((seats.filter (Seat.isOf role)).map Seat.entity) state := by
  induction seats generalizing launched state with
  | nil => exact ⟨rfl, rfl, rfl⟩
  | cons seat rest ih =>
    rw [List.forall_mem_cons] at hnames
    cases h : seat.isOf role with
    | true =>
      have hrole : seat.entity.role = role := eq_of_beq h
      -- launching fills a seat and does not change whose it is
      have hagain : ∀ launch, ({ seat with launch } : Seat).isOf role = true := fun _ => h
      rw [startRole_cons_of_isThreadName h hnames.1, List.filter_cons_of_pos h, List.map_cons]
      obtain ⟨hthrough, hjournal, hlaunches⟩ := ih hnames.2 (launched + 1)
        (theatre (settings.timeoutFor case) role seat.entity.parameters state).2
      refine ⟨hthrough, ?_, ?_⟩
      · rw [pacing, ← hjournal, Start.after, List.append_assoc]
        rfl
      · rw [launchAll, hrole, ← hlaunches, Start.after, List.filter_cons_of_pos (hagain _)]
        rfl
    | false =>
      have hnot : ∀ launch, ¬ ({ seat with launch } : Seat).isOf role = true := by
        intro launch heq
        exact Bool.false_ne_true (h.symm.trans heq)
      rw [startRole_cons_of_not_isOf h, List.filter_cons_of_neg (hnot seat.launch)]
      obtain ⟨hthrough, hjournal, hlaunches⟩ := ih hnames.2 launched state
      refine ⟨hthrough, hjournal, ?_⟩
      rw [← hlaunches, Start.after, List.filter_cons_of_neg (hnot seat.launch)]

end

/-! ## Taking seats -/

/-- Every entity of a case has its seat, in the order of declaration. -/
structure Seated (case : Case) (seats : List Seat) : Prop where
  labels : seats.map Seat.label = case.labels
  entities : seats.map Seat.entity = case.entities

/-- Being seated is a matter of the places alone. -/
theorem seated_of_map_place {seats' : List Seat} (h : Seated case seats)
    (hplace : seats'.map Seat.place = seats.map Seat.place) : Seated case seats' := by
  have hlabels := congrArg (List.map Prod.fst) hplace
  have hentities := congrArg (List.map Prod.snd) hplace
  rw [List.map_map, List.map_map] at hlabels hentities
  exact ⟨hlabels.trans h.labels, hentities.trans h.entities⟩

theorem seated_seats (stage : Stage) (case : Case) : Seated case (Trial.seats stage case) where
  labels := by
    have hfst := List.map_fst_zip (Nat.le_of_eq case.length_labels)
    rw [List.zip, List.map_zipWith] at hfst
    rw [Trial.seats, List.map_zipWith]
    exact hfst
  entities := by
    have hsnd := List.map_snd_zip (Nat.le_of_eq case.length_labels.symm)
    rw [List.zip, List.map_zipWith] at hsnd
    rw [Trial.seats, List.map_zipWith]
    exact hsnd

/-- The seats of a case before anybody is launched. -/
def vacant (case : Case) : List Seat :=
  Trial.seats (fun role parameters => .error (.noScript role parameters)) case

theorem seated_vacant (case : Case) : Seated case (vacant case) :=
  seated_seats _ case

/-- A run that crashes at a subscriber launches no publisher. -/
theorem seatsIn_of_isSome
    (h : (startRole settings theatre case .subscriber 0 (vacant case) state).unnamable.isSome) :
    seatsIn settings theatre case state =
      startRole settings theatre case .subscriber 0 (vacant case) state :=
  if_pos h

/-- With every subscriber in its thread, the publishers are launched after them. -/
theorem seatsIn_of_none
    (h : (startRole settings theatre case .subscriber 0 (vacant case) state).unnamable = none) :
    seatsIn settings theatre case state =
      let subscribers := startRole settings theatre case .subscriber 0 (vacant case) state
      let publishers :=
        startRole settings theatre case .publisher 0 subscribers.seats subscribers.state
      { publishers with journal := subscribers.journal ++ publishers.journal } := by
  refine if_neg ?_
  rw [← vacant, h]
  exact Bool.false_ne_true

/-- Whatever is launched, the seats are those of the case. -/
theorem seated_seatsIn (case : Case) :
    Seated case (seatsIn settings theatre case state).seats := by
  have hfirst : Seated case
      (startRole settings theatre case .subscriber 0 (vacant case) state).seats :=
    seated_of_map_place (seated_vacant case) map_place_startRole
  cases h : (startRole settings theatre case .subscriber 0 (vacant case) state).unnamable with
  | some thread =>
    rw [seatsIn_of_isSome (by rw [h]; rfl)]
    exact hfirst
  | none =>
    rw [seatsIn_of_none h]
    exact seated_of_map_place hfirst map_place_startRole

theorem isPacing_of_mem_seatsIn {event : Event}
    (h : event ∈ (seatsIn settings theatre case state).journal) : event.IsPacing = true := by
  cases hfirst : (startRole settings theatre case .subscriber 0 (vacant case) state).unnamable with
  | some thread =>
    rw [seatsIn_of_isSome (by rw [hfirst]; rfl)] at h
    exact isPacing_of_mem_startRole h
  | none =>
    rw [seatsIn_of_none hfirst] at h
    rcases List.mem_append.mp h with h | h
    · exact isPacing_of_mem_startRole h
    · exact isPacing_of_mem_startRole h

namespace Seated

theorem length (h : Seated case seats) : seats.length = case.entities.length := by
  rw [← h.entities, List.length_map]

theorem length_roles (h : Seated case seats) : case.roles.length = seats.length := by
  rw [h.length, Case.roles, List.length_map]

/-- The seats of a role are those of its entities. -/
theorem map_entity_filter (h : Seated case seats) (role : Role) :
    (seats.filter (Seat.isOf role)).map Seat.entity = case.ofRole role := by
  rw [Case.ofRole, ← h.entities, List.filter_map]
  rfl

theorem map_role (h : Seated case seats) :
    seats.map (fun seat => seat.entity.role) = case.roles := by
  rw [Case.roles, ← h.entities, List.map_map]
  rfl

theorem isThreadName (h : Seated case seats) :
    ∀ seat ∈ seats, isThreadName (threadName case seat.label) = case.isNamable := by
  intro seat hseat
  apply isThreadName_threadName
  rw [← h.labels]
  exact List.mem_map_of_mem hseat

/-- The seats in the order in which their entities are started. -/
theorem filterMap_startOrder (h : Seated case seats) :
    (startOrder case.roles).filterMap (fun i => seats[i]?) =
      seats.filter (Seat.isOf .subscriber) ++ seats.filter (Seat.isOf .publisher) := by
  rw [← h.map_role, startOrder, List.filterMap_append, filterMap_indicesOf, filterMap_indicesOf]
  rfl

/-- Who is started first. -/
theorem exists_first (h : Seated case seats) {first : Seat} {others : List Seat}
    (hfirst : seats.filter (Seat.isOf .subscriber) ++ seats.filter (Seat.isOf .publisher) =
      first :: others) :
    ∃ i, (startOrder case.roles).head? = some i ∧ case.entities[i]? = some first.entity ∧
      case.labels[i]? = some first.label := by
  rw [← h.filterMap_startOrder] at hfirst
  cases horder : startOrder case.roles with
  | nil =>
    rw [horder] at hfirst
    cases hfirst
  | cons i rest =>
    -- the place that comes first in the order is the seat launched first
    have hi : i < seats.length := by
      rw [← h.length_roles, ← mem_startOrder, horder]
      exact List.mem_cons_self ..
    have hseat := List.getElem?_eq_getElem hi
    rw [horder, List.filterMap_cons_some hseat] at hfirst
    obtain ⟨hfirst, -⟩ := List.cons.inj hfirst
    rw [hfirst] at hseat
    refine ⟨i, rfl, ?_, ?_⟩
    · rw [← h.entities, List.getElem?_map, hseat]
      rfl
    · rw [← h.labels, List.getElem?_map, hseat]
      rfl

end Seated

/-- If the observers can be named, the subscribers are launched before the publishers, each entity
once, and with a pause between each two publishers. -/
theorem seatsIn_of_isNamable (settings : Settings) (theatre : Theatre σ) (state : σ)
    (h : case.isNamable = true) :
    let start := seatsIn settings theatre case state
    start.unnamable = none ∧
      start.journal = (case.ofRole .subscriber).map Entity.launchEvent ++
        ((case.ofRole .publisher).map Entity.launchEvent).intersperse
          (.slept settings.publisherStagger) ∧
      ((start.seats.filter (Seat.isOf .subscriber) ++
          start.seats.filter (Seat.isOf .publisher)).map Seat.launch, start.state) =
        launchAll theatre (settings.timeoutFor case)
          (case.ofRole .subscriber ++ case.ofRole .publisher) state := by
  -- the subscribers are started on the vacant seats, the publishers on what that leaves
  have hseated := seated_vacant case
  have hseated' : Seated case
      (startRole settings theatre case .subscriber 0 (vacant case) state).seats :=
    seated_of_map_place hseated map_place_startRole
  obtain ⟨hthrough, hjournal, hlaunches⟩ :=
    startRole_of_isThreadName (fun seat hseat => (hseated.isThreadName seat hseat).trans h)
      settings theatre .subscriber 0 state
  rw [seatsIn_of_none hthrough]
  generalize startRole settings theatre case .subscriber 0 (vacant case) state = first
    at hjournal hlaunches hseated' ⊢
  obtain ⟨hthrough', hjournal', hlaunches'⟩ :=
    startRole_of_isThreadName (fun seat hseat => (hseated'.isThreadName seat hseat).trans h)
      settings theatre .publisher 0 first.state
  rw [hseated.map_entity_filter] at hjournal hlaunches
  rw [hseated'.map_entity_filter] at hjournal' hlaunches'
  refine ⟨hthrough', ?_, ?_⟩
  · show first.journal ++ _ = _
    rw [hjournal, hjournal', pacing_subscriber, pacing_publisher]
  · rw [launchAll_append, ← hlaunches, ← hlaunches', List.map_append,
      filter_isOf_startRole_of_ne (by decide)]

/-- If they cannot, the run crashes when it has launched the entity that is started first. -/
theorem seatsIn_of_not_isNamable (settings : Settings) (theatre : Theatre σ) (state : σ)
    (h : case.isNamable = false) (hne : case.entities ≠ []) :
    let start := seatsIn settings theatre case state
    ∃ i entity label, (startOrder case.roles).head? = some i ∧ case.entities[i]? = some entity ∧
      case.labels[i]? = some label ∧ start.journal = [entity.launchEvent] ∧
      start.state = (theatre (settings.timeoutFor case) entity.role entity.parameters state).2 ∧
      start.unnamable = some (threadName case label) := by
  have hseated := seated_vacant case
  have hnames : ∀ seat ∈ vacant case, isThreadName (threadName case seat.label) = false :=
    fun seat hseat => (hseated.isThreadName seat hseat).trans h
  -- the first entity of a role that has any is the one that is launched
  have hcrash : ∀ role first others, (vacant case).filter (Seat.isOf role) = first :: others →
      let start := startRole settings theatre case role 0 (vacant case) state
      start.journal = [first.entity.launchEvent] ∧
        start.state = (theatre (settings.timeoutFor case) first.entity.role
          first.entity.parameters state).2 ∧
        start.unnamable = some (threadName case first.label) := by
    intro role first others hfirst
    have hmem : first ∈ (vacant case).filter (Seat.isOf role) :=
      hfirst ▸ List.mem_cons_self ..
    obtain rfl : first.entity.role = role := eq_of_beq (List.mem_filter.mp hmem).2
    obtain ⟨hjournal, hstate, hthread⟩ :=
      startRole_of_not_isThreadName settings theatre 0 state hnames hfirst
    refine ⟨hjournal.trans ?_, hstate, hthread⟩
    cases first.entity.role <;> rfl
  cases hsubscribers : (vacant case).filter (Seat.isOf .subscriber) with
  | cons first others =>
    have hstart := hcrash _ _ _ hsubscribers
    obtain ⟨i, hi, hentity, hlabel⟩ := hseated.exists_first (by rw [hsubscribers]; rfl)
    rw [seatsIn_of_isSome (by rw [hstart.2.2]; rfl)]
    exact ⟨i, _, _, hi, hentity, hlabel, hstart⟩
  | nil =>
    have hnobody := startRole_of_filter_eq_nil settings theatre case 0 state hsubscribers
    rw [seatsIn_of_none (by rw [hnobody]), hnobody]
    cases hpublishers : (vacant case).filter (Seat.isOf .publisher) with
    | cons first others =>
      obtain ⟨i, hi, hentity, hlabel⟩ :=
        hseated.exists_first (by rw [hsubscribers, hpublishers]; rfl)
      exact ⟨i, _, _, hi, hentity, hlabel, hcrash _ _ _ hpublishers⟩
    | nil =>
      -- a case that has entities has one of a role
      have hnone := hseated.filterMap_startOrder
      rw [hsubscribers, hpublishers, List.append_nil, List.filterMap_eq_nil_iff] at hnone
      have hlength : 0 < (vacant case).length := by
        rw [hseated.length]
        exact List.length_pos_iff.mpr hne
      have habsent := hnone 0 (by rwa [mem_startOrder, hseated.length_roles])
      rw [List.getElem?_eq_getElem hlength] at habsent
      cases habsent

/-! ## On a stage -/

/-- The seat of an entity whose application is launched on a stage, if it has the role. -/
def Seat.launchedOn (stage : Stage) (role : Role) (seat : Seat) : Seat :=
  if seat.isOf role then { seat with launch := stage role seat.entity.parameters } else seat

/-- On a stage, launching fills the seats of one role with what the stage has for them. -/
theorem seats_startRole_theatre (stage : Stage) (role : Role)
    (hnames : ∀ seat ∈ seats, isThreadName (threadName case seat.label) = true) (launched : Nat)
    (state : σ) :
    (startRole settings stage.theatre case role launched seats state).seats =
      seats.map (Seat.launchedOn stage role) := by
  induction seats generalizing launched with
  | nil => rfl
  | cons seat rest ih =>
    rw [List.forall_mem_cons] at hnames
    cases h : seat.isOf role with
    | true =>
      rw [startRole_cons_of_isThreadName h hnames.1, List.map_cons, Seat.launchedOn, if_pos h,
        ← ih hnames.2 (launched + 1)]
      rfl
    | false =>
      rw [startRole_cons_of_not_isOf h, List.map_cons, Seat.launchedOn, if_neg (by rw [h]; decide),
        ← ih hnames.2 launched]
      rfl

/-- On a stage the order of the launches makes no difference. -/
theorem seats_seatsIn_theatre (settings : Settings) (stage : Stage) (h : case.isNamable = true)
    (state : σ) :
    (seatsIn settings stage.theatre case state).seats = Trial.seats stage case := by
  have hseat : ∀ (label : String) (entity : Entity) (launch : Except LaunchError Performance),
      Seat.launchedOn stage .publisher (Seat.launchedOn stage .subscriber ⟨label, entity, launch⟩) =
        ⟨label, entity, stage entity.role entity.parameters⟩ := by
    intro label ⟨role, parameters, expected⟩ launch
    cases role <;> rfl
  have hnames : ∀ {seats}, Seated case seats →
      ∀ seat ∈ seats, isThreadName (threadName case seat.label) = true :=
    fun hseated seat hseat => (hseated.isThreadName seat hseat).trans h
  have hseated := seated_vacant case
  have hseated' : Seated case
      (startRole settings stage.theatre case .subscriber 0 (vacant case) state).seats :=
    seated_of_map_place hseated map_place_startRole
  have hthrough :=
    (startRole_of_isThreadName (hnames hseated) settings stage.theatre .subscriber 0 state).1
  rw [seatsIn_of_none hthrough]
  show Start.seats (startRole settings stage.theatre case .publisher 0 _ _) = _
  rw [seats_startRole_theatre stage .publisher (hnames hseated'),
    seats_startRole_theatre stage .subscriber (hnames hseated), vacant, Trial.seats, Trial.seats,
    List.map_zipWith, List.map_zipWith]
  simp only [hseat]

/-! ## Running a case -/

/-- A case that can be run, and whose observers can be named, is played by the entities that have
taken their seats. -/
theorem runIn_of_isNamable (hvalid : case.validate = .ok ()) (h : case.isNamable = true) :
    runIn settings theatre case state =
      let start := seatsIn settings theatre case state
      ((prologue settings case start ++ (play settings case start.seats).1,
        (play settings case start.seats).2), start.state) := by
  have hthrough := (seatsIn_of_isNamable settings theatre state h).1
  rw [runIn, case.validate_eq_ok_iff.mp hvalid]
  simp only [hthrough]

/-- If the observers cannot be named, the run has crashed after a single launch, and has no
result. -/
theorem runIn_of_not_isNamable (settings : Settings) (theatre : Theatre σ) (state : σ)
    (hvalid : case.validate = .ok ()) (h : case.isNamable = false) :
    ∃ i entity label, (startOrder case.roles).head? = some i ∧ case.entities[i]? = some entity ∧
      case.labels[i]? = some label ∧
      runIn settings theatre case state =
        (([.began case.name, .logged (announcement settings case), entity.launchEvent],
          .error (.unnamable (threadName case label))),
          (theatre (settings.timeoutFor case) entity.role entity.parameters state).2) := by
  have hfault := case.validate_eq_ok_iff.mp hvalid
  have hne := (case.fault?_eq_none_iff.mp hfault).1
  obtain ⟨i, entity, label, hi, hentity, hlabel, hjournal, hstate, hcrash⟩ :=
    seatsIn_of_not_isNamable settings theatre state h hne
  refine ⟨i, entity, label, hi, hentity, hlabel, ?_⟩
  rw [runIn, hfault]
  simp only [hcrash, prologue, hjournal, hstate]

/-- A case with a result was played. -/
theorem exists_play_of_runIn {result : CaseResult}
    (h : (runIn settings theatre case state).1.2 = .ok result) :
    ∃ start : Start σ, (∀ event ∈ start.journal, event.IsPacing = true) ∧
      Seated case start.seats ∧
      (runIn settings theatre case state).1 =
        (prologue settings case start ++ (play settings case start.seats).1,
          (play settings case start.seats).2) := by
  refine ⟨seatsIn settings theatre case state, fun _ => isPacing_of_mem_seatsIn,
    seated_seatsIn case, ?_⟩
  -- an invalid case and one that no thread can be named after have no result
  cases hvalid : case.validate with
  | error fault =>
    rw [runIn] at h
    cases hfault : case.fault? with
    | some fault =>
      rw [hfault] at h
      cases h
    | none =>
      rw [case.validate_eq_ok_iff.mpr hfault] at hvalid
      cases hvalid
  | ok =>
    cases hnamable : case.isNamable with
    | true => rw [runIn_of_isNamable hvalid hnamable]
    | false =>
      obtain ⟨i, entity, label, -, -, -, hrun⟩ :=
        runIn_of_not_isNamable settings theatre state hvalid hnamable
      rw [hrun] at h
      cases h

/-! ## The journal -/

theorem filter_isPacing_seatsIn :
    (seatsIn settings theatre case state).journal.filter Event.IsPacing =
      (seatsIn settings theatre case state).journal :=
  List.filter_eq_self.mpr fun _ hevent => isPacing_of_mem_seatsIn hevent

/-- Nothing is launched, and nobody pauses, once all entities have been started. -/
theorem filter_isPacing_play (settings : Settings) (case : Case) (seats : List Seat) :
    (play settings case seats).1.filter Event.IsPacing = [] := by
  rw [play, List.filter_eq_nil_iff]
  intro event hevent
  rcases List.mem_append.mp hevent with hevent | hevent
  · obtain ⟨⟨seat, account⟩, -, hevent⟩ := List.mem_flatMap.mp hevent
    obtain ⟨entry, -, rfl⟩ := List.mem_map.mp hevent
    exact Bool.false_ne_true
  · obtain ⟨entry, -, rfl⟩ := List.mem_map.mp hevent
    exact Bool.false_ne_true

end Trial

end PubSubTrials
