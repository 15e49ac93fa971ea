import Mathlib.Data.List.Find
import PubSubTrials.Proofs.Accounts

/-!
# What a run of a case comes to

Three orders meet in a run: that of declaration, in which results are reported, that in which
entities are started, and that in which they take their turns. Here the result is described entity
by entity in the order of declaration; only for the choice among several crashes does it matter who
was started first.
-/

namespace PubSubTrials

namespace CaseResult

/-- A case has passed if every outcome is the one that was expected. -/
theorem passed_iff (result : CaseResult) :
    result.passed = true ↔ result.outcomes = result.entities.map EntityResult.expected := by
  rw [passed, outcomes, List.all_eq_true, List.map_inj_left]
  refine forall₂_congr fun entity _ => ?_
  rw [EntityResult.meets, beq_iff_eq, eq_comm]

end CaseResult

namespace Trial

variable {settings : Settings} {case : Case} {seats : List Seat}

/-! ## Crashes -/

/-- The accounts in the order of the launches are those at the places in this order. -/
theorem inStartOrder_eq_filterMap (accounts : List (Seat × Account)) :
    inStartOrder accounts =
      (startOrder (accounts.map (fun (seat, _) => seat.entity.role))).filterMap
        (fun i => accounts[i]?) := by
  rw [startOrder, List.filterMap_append, filterMap_indicesOf, filterMap_indicesOf]
  rfl

/-- Of several crashes the one of the entity that was started first is reported. -/
theorem crashed?_accounts (h : Seated case seats) :
    crashed? (accounts settings case seats) =
      ((startOrder case.roles).find? (fun i =>
        (conclusionAt settings case.check seats i).isNone)).bind (fun i => seats[i]?) := by
  have hseats := map_fst_accounts settings case seats
  have hroles : (accounts settings case seats).map (fun (seat, _) => seat.entity.role) =
      case.roles := by
    have hmap := congrArg (List.map fun seat => seat.entity.role) hseats
    rw [List.map_map] at hmap
    exact hmap.trans h.map_role
  -- look for the crash among positions instead of accounts
  rw [crashed?, inStartOrder_eq_filterMap, hroles, List.find?_filterMap, Option.map_bind]
  have hcrash : ∀ i ∈ startOrder case.roles,
      ((accounts settings case seats)[i]?).any (fun (_, account) => account.outcome.isNone) =
        (conclusionAt settings case.check seats i).isNone := by
    intro i hi
    rw [mem_startOrder, h.length_roles, ← length_accounts settings case seats] at hi
    rw [← getElem?_accounts_outcome, List.getElem?_eq_getElem hi]
    rfl
  rw [List.find?_congr hcrash]
  congr 1
  funext i
  rw [Function.comp_apply, ← List.getElem?_map, hseats]

/-! ## Reports -/

/-- When every entity of a list comes to something, what they come to is listed in their order. -/
private theorem getElem?_filterMap_of_isSome {α β : Type} {f : α → Option β} {xs : List α}
    (h : ∀ x ∈ xs, (f x).isSome = true) (i : Nat) : (xs.filterMap f)[i]? = xs[i]?.bind f := by
  induction xs generalizing i with
  | nil => rfl
  | cons x xs ih =>
    obtain ⟨y, hy⟩ := Option.isSome_iff_exists.mp (h x (List.mem_cons_self ..))
    rw [List.filterMap_cons_some hy]
    cases i with
    | zero => exact hy.symm
    | succ i => exact ih (fun z hz => h z (List.mem_cons_of_mem _ hz)) i

/-- A result that tells of every entity, in the order of declaration, what its own observer came
to. -/
structure Reports (settings : Settings) (case : Case) (seats : List Seat) (result : CaseResult) :
    Prop where
  name : result.name = case.name
  length : result.entities.length = case.entities.length
  entity : ∀ (i : Nat) (entity : Entity), case.entities[i]? = some entity →
    ∃ label outcome output, case.labels[i]? = some label ∧
      conclusionAt settings case.check seats i = some (outcome, output) ∧
      result.entities[i]? = some
        ⟨label, entity.role, entity.parameters, entity.expected, outcome, output⟩

/-- A case has passed if its outcomes are those expected. -/
theorem Reports.passed_iff {result : CaseResult} (h : Reports settings case seats result) :
    result.passed = true ↔ result.outcomes = case.expected := by
  have hexpected : result.entities.map EntityResult.expected = case.expected := by
    refine List.ext_getElem? fun i => ?_
    rw [Case.expected, List.getElem?_map, List.getElem?_map]
    cases hentity : case.entities[i]? with
    | none =>
      rw [List.getElem?_eq_none_iff, ← h.length, ← List.getElem?_eq_none_iff] at hentity
      rw [hentity]
      rfl
    | some entity =>
      obtain ⟨label, outcome, output, -, -, hresult⟩ := h.entity i entity hentity
      rw [hresult]
      rfl
  rw [CaseResult.passed_iff, hexpected]

/-- A crash is reported with the label of its entity. -/
theorem conclude_of_crash (h : Seated case seats) {i : Nat}
    (hcrash : (startOrder case.roles).find? (fun i =>
      (conclusionAt settings case.check seats i).isNone) = some i) :
    ∃ label, case.labels[i]? = some label ∧
      conclude case (accounts settings case seats) =
        .error (.observerCrashed case.name label) := by
  have hi := List.mem_of_find?_eq_some hcrash
  rw [mem_startOrder, h.length_roles] at hi
  refine ⟨seats[i].label, ?_, ?_⟩
  · rw [← h.labels, List.getElem?_map, List.getElem?_eq_getElem hi]
    rfl
  · rw [conclude, crashed?_accounts h, hcrash, Option.bind_some, List.getElem?_eq_getElem hi]

/-- Without a crash every account has a result. -/
theorem isSome_entityResult_of_calm (h : Seated case seats)
    (hcalm : (startOrder case.roles).find? (fun i =>
      (conclusionAt settings case.check seats i).isNone) = none) :
    ∀ entry ∈ accounts settings case seats, (entityResult entry.1 entry.2).isSome = true := by
  intro entry hentry
  obtain ⟨i, hi⟩ := List.getElem?_of_mem hentry
  have hmem : i ∈ startOrder case.roles := by
    rw [mem_startOrder, h.length_roles]
    exact (List.getElem?_eq_some_iff.mp (getElem?_accounts_seat hi)).1
  have houtcome := List.find?_eq_none.mp hcalm i hmem
  rw [← getElem?_accounts_outcome, hi] at houtcome
  rw [entityResult, Option.isSome_map]
  simpa [Option.isSome_iff_ne_none] using houtcome

/-- Without a crash every entity is reported on. -/
theorem conclude_of_calm (h : Seated case seats)
    (hcalm : (startOrder case.roles).find? (fun i =>
      (conclusionAt settings case.check seats i).isNone) = none) :
    ∃ result, conclude case (accounts settings case seats) = .ok result ∧
      Reports settings case seats result := by
  have hsome := isSome_entityResult_of_calm h hcalm
  refine ⟨⟨case.name, (accounts settings case seats).filterMap (fun (seat, account) =>
    entityResult seat account), .zero⟩, ?_, ⟨rfl, ?_, fun i entity hentity => ?_⟩⟩
  · rw [conclude, crashed?_accounts h, hcalm]
    rfl
  · exact (List.filterMap_length_eq_length.mpr hsome).trans
      ((length_accounts settings case seats).trans h.length)
  · have hi : i < (accounts settings case seats).length := by
      rw [length_accounts, h.length]
      exact (List.getElem?_eq_some_iff.mp hentity).1
    have hget := List.getElem?_eq_getElem hi
    -- both lists are read at one place, so the account there is all that matters
    generalize (accounts settings case seats)[i] = entry at hget
    have hseat := getElem?_accounts_seat hget
    have hresult := hsome entry (List.mem_of_getElem? hget)
    rw [← h.entities, List.getElem?_map, hseat] at hentity
    cases hentity
    obtain ⟨seat, log, outcome⟩ := entry
    cases outcome with
    | none => cases hresult -- would be a crash
    | some pair =>
      refine ⟨seat.label, pair.1, pair.2, ?_, ?_, ?_⟩
      · rw [← h.labels, List.getElem?_map, hseat]
        rfl
      · rw [← getElem?_accounts_outcome, hget]
        rfl
      · refine (getElem?_filterMap_of_isSome hsome i).trans ?_
        rw [hget]
        rfl

/-- A case has a result unless an observer crashes. -/
theorem conclude_eq_error_iff (h : Seated case seats) :
    (∃ error, conclude case (accounts settings case seats) = .error error) ↔
      ∃ i < case.entities.length, conclusionAt settings case.check seats i = none := by
  cases hfind : (startOrder case.roles).find? (fun i =>
      (conclusionAt settings case.check seats i).isNone) with
  | none =>
    obtain ⟨result, hresult, -⟩ := conclude_of_calm h hfind
    rw [hresult]
    refine iff_of_false (fun ⟨error, herror⟩ => nomatch herror) fun ⟨i, hi, hcrash⟩ => ?_
    have hmem : i ∈ startOrder case.roles := by
      rwa [mem_startOrder, h.length_roles, h.length]
    have hnot := List.find?_eq_none.mp hfind i hmem
    rw [hcrash] at hnot
    exact hnot rfl
  | some i =>
    obtain ⟨label, -, hresult⟩ := conclude_of_crash h hfind
    have hcrash := List.find?_some hfind
    have hmem := List.mem_of_find?_eq_some hfind
    rw [mem_startOrder, h.length_roles, h.length] at hmem
    exact iff_of_true ⟨_, hresult⟩ ⟨i, hmem, Option.isNone_iff_eq_none.mp hcrash⟩

/-! ## Runs -/

/-- What is launched in a run whose observers can be named, and when. -/
theorem filter_isPacing_runIn {σ : Type} (settings : Settings) (theatre : Theatre σ) (state : σ)
    (hvalid : case.validate = .ok ()) (h : case.isNamable = true) :
    (runIn settings theatre case state).1.1.filter Event.IsPacing =
      (case.ofRole .subscriber).map Entity.launchEvent ++
        ((case.ofRole .publisher).map Entity.launchEvent).intersperse
          (.slept settings.publisherStagger) := by
  rw [← (seatsIn_of_isNamable settings theatre state h).2.1, ← filter_isPacing_seatsIn,
    runIn_of_isNamable hvalid h]
  have hplay := filter_isPacing_play settings case (seatsIn settings theatre case state).seats
  show List.filter _ (_ ++ _) = _
  rw [List.filter_append, hplay, List.append_nil]
  rfl

/-- A run of a case that can be run. If the threads of its observers can have their names, all
subscribers and then all publishers are launched, each once and in the order of declaration, with
one pause between one publisher and the next. If observers crash the run tells of the one that was
started first among them; otherwise it reports on every entity what its own observer came to, and
has passed if these are the outcomes expected. If the name of the case does not allow for such
threads, only the entity that is to be started first is launched; then the run crashes, with no
result at all. -/
theorem runIn_of_validate {σ : Type} (settings : Settings) (theatre : Theatre σ) (case : Case)
    (state : σ) (hvalid : case.validate = .ok ()) :
    (case.isNamable = true → ∃ seats : List Seat, Seated case seats ∧
      ((seats.filter (Seat.isOf .subscriber) ++ seats.filter (Seat.isOf .publisher)).map
          Seat.launch, (runIn settings theatre case state).2) =
        launchAll theatre (settings.timeoutFor case)
          (case.ofRole .subscriber ++ case.ofRole .publisher) state ∧
      (runIn settings theatre case state).1.1.filter Event.IsPacing =
        (case.ofRole .subscriber).map Entity.launchEvent ++
          ((case.ofRole .publisher).map Entity.launchEvent).intersperse
            (.slept settings.publisherStagger) ∧
      ((∃ error, (runIn settings theatre case state).1.2 = .error error) ↔
        ∃ i < case.entities.length, conclusionAt settings case.check seats i = none) ∧
      match (startOrder case.roles).find? (fun i =>
        (conclusionAt settings case.check seats i).isNone) with
      | some i => ∃ label, case.labels[i]? = some label ∧
        (runIn settings theatre case state).1.2 = .error (.observerCrashed case.name label)
      | none => ∃ result, (runIn settings theatre case state).1.2 = .ok result ∧
        Reports settings case seats result ∧
        (result.passed = true ↔ result.outcomes = case.expected)) ∧
    (case.isNamable = false → ∃ i entity label, (startOrder case.roles).head? = some i ∧
      case.entities[i]? = some entity ∧ case.labels[i]? = some label ∧
      (runIn settings theatre case state).2 =
        (theatre (settings.timeoutFor case) entity.role entity.parameters state).2 ∧
      (runIn settings theatre case state).1.1.filter Event.IsPacing = [entity.launchEvent] ∧
      (runIn settings theatre case state).1.2 = .error (.unnamable (threadName case label))) := by
  constructor
  · intro hnamable
    obtain ⟨-, -, hlaunches⟩ := seatsIn_of_isNamable settings theatre state hnamable
    have hseated : Seated case (seatsIn settings theatre case state).seats := seated_seatsIn case
    have hpacing := filter_isPacing_runIn settings theatre state hvalid hnamable
    refine ⟨_, hseated, ?_, hpacing, ?_⟩
    · rw [runIn_of_isNamable hvalid hnamable]
      exact hlaunches
    · -- launching being done, only the seats matter for the rest
      have hresult : (runIn settings theatre case state).1.2 =
          conclude case (accounts settings case (seatsIn settings theatre case state).seats) := by
        rw [runIn_of_isNamable hvalid hnamable]
        rfl
      rw [hresult]
      generalize (seatsIn settings theatre case state).seats = seats at hseated ⊢
      refine ⟨conclude_eq_error_iff hseated, ?_⟩
      split
      -- the first entity in the order of the launches that crashed is named
      next i hcrash => exact conclude_of_crash hseated hcrash
      next hcalm =>
        obtain ⟨result, hresult, hreports⟩ := conclude_of_calm hseated hcalm
        exact ⟨result, hresult, hreports, hreports.passed_iff⟩
  · intro hnamable
    obtain ⟨i, entity, label, hi, hentity, hlabel, hrun⟩ :=
      runIn_of_not_isNamable settings theatre state hvalid hnamable
    refine ⟨i, entity, label, hi, hentity, hlabel, ?_⟩
    rw [hrun]
    exact ⟨rfl, rfl, rfl⟩

/-- A case whose subscriber is declared between two publishers. -/
def flanked : Case :=
  ⟨"flanked", none, [⟨.publisher, "-c BLUE", .ok⟩, ⟨.subscriber, "-c RED", .ok⟩,
    ⟨.publisher, "-c GREEN", .ok⟩], .noCheck, none⟩

/-- A theatre that counts launches; of these the second fails. -/
def flawed : Theatre Nat := fun _ role parameters launches =>
  (if launches = 1 then .error (.noScript role parameters) else .ok ⟨[], false, none⟩,
    launches + 1)

/-- A case that is run through although a launch fails, with all launches and the one pause. -/
theorem runIn_of_validate_flanked :
    flanked.validate = .ok () ∧ (runIn .standard flawed flanked 0).2 = 3 ∧
      (runIn .standard flawed flanked 0).1.1.filter Event.IsPacing =
        [.launched .subscriber "-c RED", .launched .publisher "-c BLUE", .slept (.ofSeconds 1),
          .launched .publisher "-c GREEN"] := by
  obtain ⟨seats, -, hlaunches, hpacing, -⟩ :=
    (runIn_of_validate .standard flawed flanked 0 rfl).1 (by decide)
  exact ⟨rfl, congrArg Prod.snd hlaunches, hpacing⟩

/-- A case with a null character in its name. -/
def voided : Case :=
  ⟨"a\x00b", none, [⟨.publisher, "-t Square", .ok⟩, ⟨.subscriber, "-t Square", .ok⟩], .noCheck,
    none⟩

/-- A theatre that counts launches, of which none fails. -/
def counting : Theatre Nat := fun _ _ _ launches => (.ok ⟨[], false, none⟩, launches + 1)

/-- It can be run as far as `validate` is concerned, and no launch fails; but of its two entities
only the subscriber is launched, and the run ends neither with a result nor with the crash of an
observer. -/
theorem runIn_voided :
    voided.validate = .ok () ∧ voided.entities.length = 2 ∧
      (runIn .standard counting voided 0).2 = 1 ∧
      (runIn .standard counting voided 0).1.1.filter Event.IsPacing =
        [.launched .subscriber "-t Square"] ∧
      (∀ result, (runIn .standard counting voided 0).1.2 ≠ .ok result) ∧
      ∀ label, (runIn .standard counting voided 0).1.2 ≠
        .error (.observerCrashed voided.name label) := by
  have hcrash : (runIn .standard counting voided 0).1.2 = .error (.unnamable "a\x00b-S0") := by
    decide +kernel
  refine ⟨rfl, rfl, rfl, rfl, fun result h => ?_, fun label h => ?_⟩
  · rw [hcrash] at h
    cases h
  · rw [hcrash] at h
    cases h

end Trial

end PubSubTrials
