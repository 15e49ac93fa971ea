import PubSubTrials.Proofs.Endurance
import PubSubTrials.Proofs.Reporting

/-!
# Entities that do not depend on their peers

The observer of an entity shares the queues with the observers of the other entities. All else that
it goes by is its own: the output of its entity, and whether there is a queue to fill. A publisher
fills its queue without looking at what becomes of the samples, and a subscriber reads from the
queues only for the sake of a check. So the outcome and the output of a publisher, or of any entity
of a case without a check, are the same whatever its peers do (`runIn_isolated`).

The argument is one about two observers that have the same things of their own, with different
things happening around them: each of their questions leaves both with the same things of their own,
and with the same answer, unless it is whether a sample was accepted, and that is only noted.
-/

namespace PubSubTrials

open Output (Console Marker Pattern Reply)

/-! ## What is an observer's own -/

/-- What no other observer has to do with: the console of the entity, when the observer crashes, and
whether it has a queue to fill. -/
def Observation.own (state : Observation) : Console × Option Nat × Bool :=
  (state.console, state.crashAfter, state.outbox.isSome)

/-- Whether others bring something about, and not the entity that is observed. -/
def Happening.IsForeign : Happening → Prop
  | line _ | closed => False
  | reported .. | received _ | collected => True

/-- Nothing but what others bring about happens around an observer. -/
def AllForeign (around : Nat → List Happening) : Prop :=
  ∀ k, ∀ happening ∈ around k, happening.IsForeign

theorem allForeign_nil : AllForeign fun _ => [] :=
  fun _ _ hmem => nomatch hmem

/-- What others bring about leaves an observer its own. -/
theorem own_befall {happenings : List Happening}
    (h : ∀ happening ∈ happenings, happening.IsForeign) (state : Observation) :
    (happenings.foldl Happening.befall state).own = state.own := by
  induction happenings generalizing state with
  | nil => rfl
  | cons happening rest ih =>
    have hhead := h happening List.mem_cons_self
    have htail := ih fun other hmem => h other (List.mem_cons_of_mem _ hmem)
    rw [List.foldl_cons, htail]
    cases happening with
    | line text => exact hhead.elim
    | closed => exact hhead.elim
    | reported publisher sample => rfl
    | received publisher => rfl
    | collected =>
      rw [Observation.own, Happening.befall, Option.isSome_map]
      rfl

namespace Inquiry

variable {α β : Type}

/-- Two inquiries in turn, amid what happens: the second one begins where the first one ends. -/
theorem amid_bind (inquiry : Inquiry α) (f : α → Inquiry β) (around : Nat → List Happening)
    (k : Nat) (state : Observation) :
    ∃ later, (inquiry >>= f).amid around k state =
      match inquiry.amid around k state with
      | (.ok a, next) => (f a).amid around later next
      | (.error crash, next) => (.error crash, next) := by
  induction inquiry generalizing k state with
  | done a => exact ⟨k, rfl⟩
  | ask question next ih =>
    show ∃ later, (ask question fun answer => next answer >>= f).amid around k state = _
    rw [amid, amid]
    generalize question.pose.result ((around k).foldl Happening.befall state) = posed
    obtain ⟨answer, after⟩ := posed
    cases answer with
    | error crash => exact ⟨k, rfl⟩
    | ok answer => exact ih answer (k + 1) after

/-- A question amid other things finds the state that they have made. -/
theorem amid_pose (question : Question) (around : Nat → List Happening) (k : Nat)
    (state : Observation) :
    (pose question).amid around k state =
      question.pose.result ((around k).foldl Happening.befall state) := by
  rw [pose, amid]
  generalize question.pose.result ((around k).foldl Happening.befall state) = posed
  obtain ⟨answer, after⟩ := posed
  cases answer <;> rfl

/-! ## Inquiries that leave everything as it is -/

/-- An inquiry that is always answered and leaves the observer its own. -/
def Quiet (inquiry : Inquiry α) : Prop :=
  ∀ around, AllForeign around → ∀ k state, ∃ a next,
    inquiry.amid around k state = (.ok a, next) ∧ next.own = state.own

theorem quiet_pure (a : α) : Quiet (pure a) :=
  fun _ _ _ state => ⟨a, state, rfl, rfl⟩

theorem quiet_bind {inquiry : Inquiry α} {f : α → Inquiry β} (h : inquiry.Quiet)
    (hf : ∀ a, (f a).Quiet) : (inquiry >>= f).Quiet := by
  intro around hforeign k state
  obtain ⟨later, hbind⟩ := amid_bind inquiry f around k state
  obtain ⟨a, between, hfirst, hbetween⟩ := h around hforeign k state
  obtain ⟨b, next, hsecond, hnext⟩ := hf a around hforeign later between
  refine ⟨b, next, ?_, hnext.trans hbetween⟩
  rw [hbind, hfirst]
  exact hsecond

/-- A question is quiet when it is answered whatever the state, and leaves the entity's own part
alone. -/
theorem quiet_pose {question : Question}
    (h : ∀ state, ∃ answer next, question.pose.result state = (.ok answer, next) ∧
      next.own = state.own) : (pose question).Quiet := by
  intro around hforeign k state
  obtain ⟨answer, next, hposed, hnext⟩ := h ((around k).foldl Happening.befall state)
  exact ⟨answer, next, (amid_pose ..).trans hposed, hnext.trans (own_befall (hforeign k) state)⟩

theorem quiet_note (level : Level) (message : String) : (note level message).Quiet :=
  quiet_pose fun state => ⟨(), _, Observing.result_note level message state, rfl⟩

theorem quiet_before : before.Quiet :=
  quiet_pose fun state => ⟨_, state, Observing.result_before state, rfl⟩

/-- A report may be refused, but the queue stays. -/
theorem quiet_report (sample : Sample) : (report sample).Quiet := by
  refine quiet_pose fun state => ?_
  obtain ⟨accepted, next, hreport, houtbox, hconsole, hcrash⟩ :=
    Observing.result_report sample state
  refine ⟨accepted, next, hreport, ?_⟩
  rw [Observation.own, houtbox, hconsole, hcrash, Option.isSome_map, Observation.own]

theorem quiet_recordWindow : recordWindow.Quiet := by
  refine quiet_bind quiet_before fun text => ?_
  cases Sample.findLast text with
  | none => exact quiet_pure _
  | some sample =>
    refine quiet_bind (quiet_report sample) fun accepted => ?_
    cases accepted with
    | false => exact quiet_note _ _
    | true => exact quiet_pure _

/-! ## Inquiries that go by an observer's own -/

/-- Two observers with the same of their own come to the same answer, and to the same of their own,
whatever others bring about around each of them. -/
def Secluded (inquiry : Inquiry α) : Prop :=
  ∀ around around', AllForeign around → AllForeign around' → ∀ k k' state state',
    state.own = state'.own →
      (inquiry.amid around k state).1 = (inquiry.amid around' k' state').1 ∧
        (inquiry.amid around k state).2.own = (inquiry.amid around' k' state').2.own

theorem secluded_pure (a : α) : Secluded (pure a) :=
  fun _ _ _ _ _ _ _ _ hown => ⟨rfl, hown⟩

/-- Inquiries that look only at what is their own do so one after the other: the first leaves alike
what it found alike. -/
theorem secluded_bind {inquiry : Inquiry α} {f : α → Inquiry β} (h : inquiry.Secluded)
    (hf : ∀ a, (f a).Secluded) : (inquiry >>= f).Secluded := by
  intro around around' hforeign hforeign' k k' state state' hown
  obtain ⟨later, hbind⟩ := amid_bind inquiry f around k state
  obtain ⟨later', hbind'⟩ := amid_bind inquiry f around' k' state'
  obtain ⟨hanswer, hnext⟩ := h around around' hforeign hforeign' k k' state state' hown
  rw [hbind, hbind']
  -- both come to the same answer, so both go on with the same inquiry or crash
  generalize inquiry.amid around k state = first at hanswer hnext
  generalize inquiry.amid around' k' state' = first' at hanswer hnext
  obtain ⟨answer, next⟩ := first
  obtain ⟨answer', next'⟩ := first'
  obtain rfl : answer = answer' := hanswer
  cases answer with
  | error crash => exact ⟨rfl, hnext⟩
  | ok a => exact hf a around around' hforeign hforeign' later later' next next' hnext

/-- A question is secluded when its answer and what it leaves of the entity's own part depend on
that part alone. -/
theorem secluded_pose {question : Question}
    (h : ∀ state state' : Observation, state.own = state'.own →
      (question.pose.result state).1 = (question.pose.result state').1 ∧
        (question.pose.result state).2.own = (question.pose.result state').2.own) :
    (pose question).Secluded := by
  intro around around' hforeign hforeign' k k' state state' hown
  rw [amid_pose, amid_pose]
  refine h _ _ ?_
  rw [own_befall (hforeign k), own_befall (hforeign' k'), hown]

/-- What is not answered at all leaves nothing to differ in. -/
theorem Quiet.secluded {inquiry : Inquiry Unit} (h : inquiry.Quiet) : inquiry.Secluded := by
  intro around around' hforeign hforeign' k k' state state' hown
  obtain ⟨⟨⟩, next, hresult, hnext⟩ := h around hforeign k state
  obtain ⟨⟨⟩, next', hresult', hnext'⟩ := h around' hforeign' k' state'
  rw [hresult, hresult']
  exact ⟨rfl, hnext.trans (hown.trans hnext'.symm)⟩

/-- Waiting for patterns depends on the entity's own window. -/
theorem secluded_expect (patterns : List Pattern) : (expect patterns).Secluded := by
  refine secluded_pose fun state state' hown => ?_
  obtain ⟨console, crashAfter, inbox, outbox, log, waits⟩ := state
  obtain ⟨console', crashAfter', inbox', outbox', log', waits'⟩ := state'
  simp only [Observation.own, Prod.mk.injEq] at hown
  obtain ⟨rfl, rfl, houtbox⟩ := hown
  match crashAfter with
  | some 0 => exact ⟨rfl, congrArg (fun isSome => (console, some 0, isSome)) houtbox⟩
  | some (n + 1) =>
    exact ⟨rfl, congrArg (fun isSome => ((console.expect patterns).2, some n, isSome)) houtbox⟩
  | none =>
    exact ⟨rfl, congrArg (fun isSome => ((console.expect patterns).2, none, isSome)) houtbox⟩

theorem secluded_hasQueue : hasQueue.Secluded := by
  refine secluded_pose fun state state' hown => ⟨?_, hown⟩
  have hsome : state.outbox.isSome = state'.outbox.isSome :=
    congrArg (fun own => own.2.2) hown
  exact congrArg Except.ok hsome

/-- Seclusion passes from questions to whatever is put together from them. -/
theorem compositional_secluded : Compositional Secluded where
  of_pure := secluded_pure
  of_bind := secluded_bind
  of_expect := secluded_expect
  of_debug message := (quiet_note .debug message).secluded
  of_hasQueue := secluded_hasQueue
  of_recordWindow := quiet_recordWindow.secluded

/-- Without a check a subscriber does not look at the queues. -/
theorem secluded_observe {plan : Lifecycle.Plan}
    (h : plan.role = .publisher ∨ plan.check = .noCheck) : (observe plan).Secluded := by
  refine compositional_secluded.of_observe fun hrole => ?_
  have hcheck : plan.check = .noCheck := h.resolve_left (hrole ▸ Role.noConfusion)
  rw [hcheck]
  exact secluded_pure _

end Inquiry

namespace Trial

variable {settings : Settings} {case : Case} {seat : Seat} {seats : List Seat}

/-! ## The observer of an isolated entity -/

/-- Whether the observer of a seat has nothing to do with what others report: the entity is a
publisher, or nothing is checked. -/
def Seat.IsIsolated (check : Check) (seat : Seat) : Prop :=
  seat.entity.role = .publisher ∨ check = .noCheck

/-- The observer of an isolated entity comes to the same conclusion with any queues at hand and with
anything happening to them. -/
theorem outcome_observeAmid {check : Check} (h : seat.IsIsolated check)
    {around around' : Nat → List Happening} (hforeign : AllForeign around)
    (hforeign' : AllForeign around') (inbox inbox' : List SampleQueue)
    {outbox outbox' : Option SampleQueue} (houtbox : outbox.isSome = outbox'.isSome) :
    (seat.observeAmid around check inbox outbox).1.outcome =
      (seat.observeAmid around' check inbox' outbox').1.outcome := by
  unfold Seat.observeAmid
  cases seat.launch with
  | error error => rfl
  | ok performance =>
    -- both runs begin alike in all that is the entity's own
    have hown : ({ Observation.start performance.console inbox outbox with
          crashAfter := performance.crashAfter } : Observation).own =
        ({ Observation.start performance.console inbox' outbox' with
          crashAfter := performance.crashAfter } : Observation).own :=
      congrArg (fun isSome => (performance.console, performance.crashAfter, isSome)) houtbox
    have hsecluded : (Inquiry.observe (seat.plan check)).Secluded := Inquiry.secluded_observe h
    obtain ⟨hanswer, hnext⟩ := hsecluded around around' hforeign hforeign' 0 0 _ _ hown
    dsimp only
    generalize (Inquiry.observe (seat.plan check)).amid around 0 _ = first at hanswer hnext ⊢
    generalize (Inquiry.observe (seat.plan check)).amid around' 0 _ = second at hanswer hnext ⊢
    obtain ⟨answer, next⟩ := first
    obtain ⟨answer', next'⟩ := second
    obtain rfl : answer = answer' := hanswer
    have hconsole : next.console = next'.console := congrArg Prod.fst hnext
    cases answer with
    | error crash => rfl
    | ok outcome => simp only [accountOf, hconsole]

/-- In a run an isolated entity comes to what its observer concludes with anything happening to the
queues. -/
theorem conclusionAt_of_isIsolated {i : Nat} (hseat : seats[i]? = some seat)
    (h : seat.IsIsolated case.check) {around : Nat → List Happening} (hforeign : AllForeign around)
    (inbox : List SampleQueue) {outbox : Option SampleQueue}
    (houtbox : outbox.isSome = seat.isOf .publisher) :
    conclusionAt settings case.check seats i =
      (seat.observeAmid around case.check inbox outbox).1.outcome := by
  -- what the others put into the queues does not matter
  have hsame : ∀ (inbox' : List SampleQueue) {outbox' : Option SampleQueue},
      outbox'.isSome = seat.isOf .publisher →
        seat.conclusion case.check inbox' outbox' =
          (seat.observeAmid around case.check inbox outbox).1.outcome := by
    intro inbox' outbox' houtbox'
    rw [← outcome_observe, ← observeAmid_alone]
    exact outcome_observeAmid h allForeign_nil hforeign inbox' inbox
      (houtbox'.trans houtbox.symm)
  rw [conclusionAt, hseat, Option.bind_some]
  cases hrole : seat.entity.role with
  | publisher =>
    refine hsame _ ?_
    rw [Seat.isOf, hrole]
    rfl
  | subscriber =>
    refine hsame _ ?_
    rw [Seat.isOf, hrole]
    rfl

/-! ## Two runs -/

/-- A run that has crashed because its observers cannot be named has crashed alike in any
theatre. -/
theorem exists_unnamable_runIn (hvalid : case.validate = .ok ()) (h : case.isNamable = false) :
    ∃ thread, ∀ {σ : Type} (theatre : Theatre σ) (state : σ),
      (runIn settings theatre case state).1.2 = .error (.unnamable thread) := by
  have hrun := fun {σ : Type} (theatre : Theatre σ) (state : σ) =>
    runIn_of_not_isNamable settings theatre state hvalid h
  -- whose thread it is does not hang on the theatre
  obtain ⟨first, -, label, hfirst, -, hlabel, -⟩ :=
    hrun (fun _ _ _ _ => (.ok ⟨[], false, none⟩, ())) ()
  refine ⟨threadName case label, fun theatre state => ?_⟩
  obtain ⟨first', entity, label', hfirst', -, hlabel', hcrash⟩ := hrun theatre state
  obtain rfl : first = first' := Option.some.inj (hfirst.symm.trans hfirst')
  obtain rfl : label = label' := Option.some.inj (hlabel.symm.trans hlabel')
  rw [hcrash]

/-- What a run tells of an isolated entity. -/
theorem Reports.entity_of_isIsolated {result : CaseResult}
    (h : Reports settings case seats result) (hseated : Seated case seats) {i : Nat}
    (hseat : seats[i]? = some seat) (hisolated : seat.IsIsolated case.check) :
    ∃ entity, result.entities[i]? = some entity ∧
      entity.label = seat.label ∧ entity.role = seat.entity.role ∧
      entity.parameters = seat.entity.parameters ∧ entity.expected = seat.entity.expected ∧
      ∀ around, AllForeign around → ∀ inbox outbox, outbox.isSome = seat.isOf .publisher →
        (seat.observeAmid around case.check inbox outbox).1.outcome =
          some (entity.actual, entity.output) := by
  have hentity : case.entities[i]? = some seat.entity := by
    rw [← hseated.entities, List.getElem?_map, hseat]
    rfl
  have hlabel : case.labels[i]? = some seat.label := by
    rw [← hseated.labels, List.getElem?_map, hseat]
    rfl
  obtain ⟨label, outcome, output, hlabel', hconclusion, hresult⟩ := h.entity i seat.entity hentity
  obtain rfl := Option.some.inj (hlabel'.symm.trans hlabel)
  refine ⟨_, hresult, rfl, rfl, rfl, rfl, fun around hforeign inbox outbox houtbox => ?_⟩
  rw [← hconclusion, conclusionAt_of_isIsolated hseat hisolated hforeign inbox houtbox]

/-- In two runs of a case, in any theatres, an entity that starts in the same way has the same
result, if it is a publisher or nothing is checked, and if no observer is made to crash. It is what
the observer of the entity finds with anything happening to the queues that it shares with its
peers. Where the observers cannot be named, the two runs end alike as well. -/
theorem runIn_isolated {σ τ : Type} (theatre : Theatre σ) (theatre' : Theatre τ) (state : σ)
    (state' : τ) (hvalid : case.validate = .ok ())
    (hcalm : ∀ seat ∈ (seatsIn settings theatre case state).seats, seat.IsCalm)
    (hcalm' : ∀ seat ∈ (seatsIn settings theatre' case state').seats, seat.IsCalm) {i : Nat}
    (hseat : (seatsIn settings theatre case state).seats[i]? = some seat)
    (hseat' : (seatsIn settings theatre' case state').seats[i]? = some seat)
    (hisolated : seat.IsIsolated case.check) :
    (case.isNamable = true →
      ∃ result result' entity, (runIn settings theatre case state).1.2 = .ok result ∧
        (runIn settings theatre' case state').1.2 = .ok result' ∧
        result.entities[i]? = some entity ∧ result'.entities[i]? = some entity ∧
        ∀ around, AllForeign around → ∀ inbox outbox, outbox.isSome = seat.isOf .publisher →
          (seat.observeAmid around case.check inbox outbox).1.outcome =
            some (entity.actual, entity.output)) ∧
    (case.isNamable = false →
      ∃ thread, (runIn settings theatre case state).1.2 = .error (.unnamable thread) ∧
        (runIn settings theatre' case state').1.2 = .error (.unnamable thread)) := by
  refine ⟨fun hnamable => ?_, fun hnamable =>
    have ⟨thread, hcrash⟩ := exists_unnamable_runIn hvalid hnamable
    ⟨thread, hcrash theatre state, hcrash theatre' state'⟩⟩
  have hseated : Seated case (seatsIn settings theatre case state).seats := seated_seatsIn case
  have hseated' : Seated case (seatsIn settings theatre' case state').seats := seated_seatsIn case
  rw [runIn_of_isNamable hvalid hnamable, runIn_of_isNamable hvalid hnamable]
  obtain ⟨result, hplay, hreports⟩ := play_of_calm settings hseated hcalm
  obtain ⟨result', hplay', hreports'⟩ := play_of_calm settings hseated' hcalm'
  obtain ⟨entity, hentity, hlabel, hrole, hparameters, hexpected, hfound⟩ :=
    hreports.entity_of_isIsolated hseated hseat hisolated
  obtain ⟨entity', hentity', hlabel', hrole', hparameters', hexpected', hfound'⟩ :=
    hreports'.entity_of_isIsolated hseated' hseat' hisolated
  -- both runs tell what the observer finds when it is alone, with a queue to fill or without
  have hsame : (entity.actual, entity.output) = (entity'.actual, entity'.output) := by
    obtain ⟨outbox, houtbox⟩ :
        ∃ outbox : Option SampleQueue, outbox.isSome = seat.isOf .publisher := by
      cases seat.isOf .publisher with
      | true => exact ⟨some (.empty 0), rfl⟩
      | false => exact ⟨none, rfl⟩
    have halone := hfound _ allForeign_nil [] outbox houtbox
    have halone' := hfound' _ allForeign_nil [] outbox houtbox
    exact Option.some.inj (halone.symm.trans halone')
  obtain rfl : entity = entity' := by
    obtain ⟨label, role, parameters, expected, actual, output⟩ := entity
    obtain ⟨label', role', parameters', expected', actual', output'⟩ := entity'
    obtain ⟨rfl, rfl⟩ := Prod.mk.inj hsame
    obtain rfl : label = label' := hlabel.trans hlabel'.symm
    obtain rfl : role = role' := hrole.trans hrole'.symm
    obtain rfl : parameters = parameters' := hparameters.trans hparameters'.symm
    obtain rfl : expected = expected' := hexpected.trans hexpected'.symm
    rfl
  exact ⟨result, result', entity, hplay, hplay', hentity, hentity', hfound⟩

/-- A stage on which a publisher gives its part, and no subscriber can be launched. -/
def deserted : Stage := fun role parameters =>
  match role with
  | .publisher => .ok sender
  | .subscriber => .error (.noScript role parameters)

/-- The publisher of the rivals sends its samples as well when there is nobody to receive them. -/
theorem runIn_isolated_deserted :
    ∃ result result' entity, (runIn .standard duel.theatre rivals ()).1.2 = .ok result ∧
      (runIn .standard deserted.theatre rivals ()).1.2 = .ok result' ∧
      result.entities[0]? = some entity ∧ result'.entities[0]? = some entity ∧
      entity.actual = .ok := by
  have hcalm : ∀ seat ∈ Trial.seats deserted rivals, seat.IsCalm := by
    refine calm_seats (fun role parameters performance hperformance => ?_) rivals
    cases role <;> cases hperformance
    rfl
  have hseats : ∀ stage : Stage, (seatsIn .standard stage.theatre rivals ()).seats =
      seats stage rivals := fun stage => seats_seatsIn_theatre .standard stage rfl ()
  obtain ⟨result, result', entity, hrun, hrun', hentity, hentity', hfound⟩ :=
    (@runIn_isolated .standard rivals ⟨"P0", ⟨.publisher, "-t Square -w", .ok⟩, .ok sender⟩ _ _
      duel.theatre deserted.theatre () () rfl (by rw [hseats]; exact calm_rivals)
      (by rw [hseats]; exact hcalm) 0 rfl rfl (.inl rfl)).1 rfl
  refine ⟨result, result', entity, hrun, hrun', hentity, hentity', ?_⟩
  have hactual := congrArg (Option.map Prod.fst)
    (hfound _ allForeign_nil [] (some (.empty 2)) rfl)
  refine Option.some.inj (hactual.symm.trans ?_)
  decide +kernel

end Trial

end PubSubTrials
