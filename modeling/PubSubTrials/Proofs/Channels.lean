import PubSubTrials.Proofs.Isolation

/-!
# Labels and queues

Entities are numbered within their roles (`Case.getElem?_labels`), and the queues that subscribers
read from stand in the order of the publishers. So the queue with number `k` is the one that the
publisher labelled with `k` has filled, less what earlier subscribers have taken from it
(`Trial.areQueuesOf_queuesAfter`), and a case that is valid has the queues that its check asks for
(`Trial.runIn_channels`).

For the observers it is enough to know which questions they ask (`Inquiry.Orderly`): if the
publishers are as many as the check needs, samples are only taken from the last one of these, and no
complaint is made about a queue that is missing.
-/

namespace PubSubTrials

open Output (Marker)

/-! ## Labels -/

namespace Case

/-- The label at a place: the role with the number of entities of that role in front of it, counted
from where the labelling begins. -/
theorem getElem?_labelsFrom (publishers subscribers : Nat) (roles : List Role) (i : Nat) :
    (labelsFrom publishers subscribers roles)[i]? = roles[i]?.map (fun role =>
      role.label ((match role with | .publisher => publishers | .subscriber => subscribers) +
        (roles.take i).countP (· == role))) := by
  induction roles generalizing publishers subscribers i with
  | nil => rfl
  | cons first rest ih =>
    cases i with
    | zero => cases first <;> simp [labelsFrom]
    | succ i =>
      -- the entity in front counts for those of its role
      have hnumber : ∀ role : Role, ∀ n, n + 1 + (rest.take i).countP (· == role) =
          n + (((rest.take i).countP (· == role)) + 1) := by
        intro role n
        omega
      cases first with
      | publisher | subscriber =>
        rw [labelsFrom, List.getElem?_cons_succ, ih, List.getElem?_cons_succ, List.take_succ_cons]
        cases rest[i]? with
        | none => rfl
        | some role => cases role <;> simp [List.countP_cons, hnumber]

/-- The label of an entity tells its role and how many of its role stand before it. -/
theorem getElem?_labels (case : Case) (i : Nat) :
    case.labels[i]? = case.entities[i]?.map (fun entity => entity.role.label
      ((case.entities.take i).countP (fun earlier => earlier.role == entity.role))) := by
  rw [labels, getElem?_labelsFrom, List.getElem?_map, Option.map_map]
  congr 1
  funext entity
  have hcount : ((case.entities.map Entity.role).take i).countP (· == entity.role) =
      (case.entities.take i).countP (fun earlier => earlier.role == entity.role) := by
    rw [← List.map_take, List.countP_map]
    rfl
  show entity.role.label (_ + _) = _
  rw [hcount]
  cases entity.role <;> simp

/-- No two entities of a case are labelled alike. -/
theorem nodup_labels (case : Case) : case.labels.Nodup := by
  apply List.pairwise_iff_getElem.mpr
  intro i j hi hj hlt heq
  -- of two entities of one role the later one has a greater number
  have hi' : i < case.entities.length := case.length_labels ▸ hi
  have hj' : j < case.entities.length := case.length_labels ▸ hj
  have hlabel : case.labels[i]? = case.labels[j]? := by
    rw [List.getElem?_eq_getElem hi, List.getElem?_eq_getElem hj, heq]
  rw [getElem?_labels, getElem?_labels, List.getElem?_eq_getElem hi', List.getElem?_eq_getElem hj',
    Option.map_some, Option.map_some, Option.some.injEq, Role.label_eq_label_iff] at hlabel
  obtain ⟨hrole, hnumber⟩ := hlabel
  -- the earlier one is counted before the later one
  have hself : (case.entities.take (i + 1)).countP (fun earlier =>
      earlier.role == case.entities[i].role) =
      (case.entities.take i).countP (fun earlier => earlier.role == case.entities[i].role) + 1 := by
    rw [List.take_succ_eq_append_getElem hi', List.countP_append]
    simp
  have hmore : (case.entities.take (i + 1)).countP (fun earlier =>
      earlier.role == case.entities[i].role) ≤
      (case.entities.take j).countP (fun earlier => earlier.role == case.entities[i].role) :=
    (List.take_sublist_take_left hlt).countP_le
  rw [hrole] at hself hmore hnumber
  omega

end Case

/-! ## What is taken from queues -/

/-- That samples were taken from queues for the sake of a check: only from the queue of the last
publisher that the check needs. -/
def Drawn (check : Check) (before after : List SampleQueue) : Prop :=
  ∀ k, ∃ taken, after[k]? = before[k]?.map (fun queue => queue.skip taken) ∧
    (k + 1 ≠ check.publishersNeeded → taken = 0)

namespace Drawn

variable {check : Check} {first second third queues : List SampleQueue}

theorem refl (queues : List SampleQueue) : Drawn check queues queues := by
  intro k
  refine ⟨0, ?_, fun _ => rfl⟩
  cases queues[k]? <;> rfl

theorem trans (h : Drawn check first second) (h' : Drawn check second third) :
    Drawn check first third := by
  intro k
  obtain ⟨taken, hsecond, hfew⟩ := h k
  obtain ⟨more, hthird, hfew'⟩ := h' k
  refine ⟨taken + more, ?_, ?_⟩
  · rw [hthird, hsecond, Option.map_map]
    congr 1
    funext queue
    exact SampleQueue.skip_skip queue taken more
  · intro hother
    rw [hfew hother, hfew' hother]

/-- Drawing takes samples and no queue away. -/
theorem length_eq (h : Drawn check first second) : second.length = first.length := by
  have hnone : ∀ k : Nat, second[k]? = none ↔ first[k]? = none := by
    intro k
    obtain ⟨taken, hget, -⟩ := h k
    rw [hget, Option.map_eq_none_iff]
  have hfirst := (hnone first.length).mpr (List.getElem?_eq_none (Nat.le_refl _))
  have hsecond := (hnone second.length).mp (List.getElem?_eq_none (Nat.le_refl _))
  rw [List.getElem?_eq_none_iff] at hfirst hsecond
  omega

/-- Samples are taken from one queue. -/
theorem set {publisher : Nat} (hneeded : publisher + 1 = check.publishersNeeded)
    {queue : SampleQueue} (hqueue : queues[publisher]? = some queue) (taken : Nat) :
    Drawn check queues (queues.set publisher (queue.skip taken)) := by
  intro k
  by_cases hk : publisher = k
  · subst hk
    refine ⟨taken, ?_, fun hother => absurd hneeded hother⟩
    rw [List.getElem?_set_self (List.getElem?_eq_some_iff.mp hqueue).1, hqueue]
    rfl
  · refine ⟨0, ?_, fun _ => rfl⟩
    rw [List.getElem?_set_ne hk]
    cases queues[k]? <;> rfl

end Drawn

theorem SampleQueue.snd_take (queue : SampleQueue) : queue.take.2 = queue.skip 1 := by
  obtain ⟨capacity, queued, writerOpen, hasReaders⟩ := queue
  cases queued <;> rfl

theorem SampleQueue.snd_drain (queue : SampleQueue) :
    queue.drain.2 = queue.skip queue.queued.length := by
  rw [drain, skip, List.drop_length]

/-! ## Questions that suit a check -/

/-- Whether a question suits a check: samples are those of the last publisher that it needs, and
nothing is complained about. -/
def Question.Suits (check : Check) : Question → Prop
  | take publisher | drain publisher => publisher + 1 = check.publishersNeeded
  | note level _ => level ≠ .normal
  | _ => True

namespace Inquiry

variable {α β : Type} {n : Nat} {check : Check} {inquiry : Inquiry α} {f : α → Inquiry β}

/-- An inquiry all of whose questions suit a check, when there are queues of `n` publishers. -/
inductive Orderly (n : Nat) (check : Check) : Inquiry α → Prop
  | done (a : α) : Orderly n check (.done a)
  | count {next : Nat → Inquiry α} (h : Orderly n check (next n)) :
      Orderly n check (.ask .publishers next)
  | ask {question : Question} {next : question.Answer → Inquiry α} (hsuits : question.Suits check)
      (h : ∀ answer, Orderly n check (next answer)) : Orderly n check (.ask question next)

theorem orderly_pure (a : α) : (pure a : Inquiry α).Orderly n check :=
  .done a

theorem orderly_pose {question : Question} (h : question.Suits check) :
    (pose question).Orderly n check :=
  .ask h fun answer => .done answer

/-- Orderly inquiries stay so one after the other. -/
theorem orderly_bind (h : inquiry.Orderly n check) (hf : ∀ a, (f a).Orderly n check) :
    (inquiry >>= f).Orderly n check := by
  induction h with
  | done a => exact hf a
  | count _ ih => exact .count ih
  | ask hsuits _ ih => exact .ask hsuits ih

/-- What holds of a state and a later one, whatever happens in between, if it holds for what happens
and for single questions. -/
theorem Orderly.amid_rel (rel : Observation → Observation → Prop) (hrefl : ∀ state, rel state state)
    (htrans : ∀ {first second third}, rel first second → rel second third → rel first third)
    (hlength : ∀ {before after}, rel before after → after.inbox.length = before.inbox.length)
    (hpose : ∀ question : Question, question.Suits check → ∀ state,
      rel state (question.pose.result state).2)
    {around : Nat → List Happening}
    (haround : ∀ k state, rel state ((around k).foldl Happening.befall state))
    (h : inquiry.Orderly n check) {state : Observation} (hn : state.inbox.length = n) (k : Nat) :
    rel state (inquiry.amid around k state).2 := by
  induction h generalizing state k with
  | done a => exact hrefl state
  | count _ ih =>
    have hbefore := haround k state
    have hn' := (hlength hbefore).trans hn
    rw [amid]
    generalize (around k).foldl Happening.befall state = before at hbefore hn'
    -- the answer is the number of queues
    have hanswer : Question.publishers.pose.result before = (.ok n, before) := by
      rw [← hn']
      rfl
    rw [hanswer]
    exact htrans hbefore (ih hn' (k + 1))
  | @ask question next hsuits _ ih =>
    have hbefore := haround k state
    rw [amid]
    generalize (around k).foldl Happening.befall state = before at hbefore
    have hposed := htrans hbefore (hpose question hsuits before)
    generalize question.pose.result before = posed at hposed
    obtain ⟨answer, after⟩ := posed
    cases answer with
    | error crash => exact hposed
    | ok answer => exact htrans hposed (ih answer ((hlength hposed).trans hn) (k + 1))

/-! ### The questions of each stage -/

theorem orderly_debug (message : String) : (note .debug message).Orderly n check := by
  apply orderly_pose
  show Level.debug ≠ .normal
  decide

theorem orderly_verbose (message : String) : (note .verbose message).Orderly n check := by
  apply orderly_pose
  show Level.verbose ≠ .normal
  decide

theorem orderly_recordWindow : recordWindow.Orderly n check := by
  refine orderly_bind (orderly_pose trivial) fun text => ?_
  cases Sample.findLast text with
  | none => exact orderly_pure _
  | some sample =>
    refine orderly_bind (orderly_pose trivial) fun accepted => ?_
    cases accepted with
    | false => exact orderly_debug _
    | true => exact orderly_pure _

/-- Orderliness passes from questions to whatever is put together from them. -/
theorem compositional_orderly : Compositional (Orderly n check) where
  of_pure := orderly_pure
  of_bind := orderly_bind
  of_expect _ := orderly_pose trivial
  of_debug := orderly_debug
  of_hasQueue := orderly_pose trivial
  of_recordWindow := orderly_recordWindow

theorem orderly_currentSample : currentSample.Orderly n check :=
  orderly_bind (orderly_pose trivial) fun _ => orderly_pure _

theorem orderly_nextData : nextData.Orderly n check := by
  refine orderly_bind (orderly_verbose _) fun _ => ?_
  refine orderly_bind (orderly_pose trivial) fun reply => ?_
  cases reply with
  | found index | timeout | endOfOutput => exact orderly_pure _

/-- The ordering check takes samples of the first publisher, the last one that it needs. -/
theorem orderly_compareOrder (left : Nat) : (compareOrder left).Orderly n .orderingCheck := by
  induction left with
  | zero => exact orderly_pure _
  | succ left ih =>
    refine orderly_bind (orderly_pose rfl) fun sent => ?_
    match sent with
    | none => exact orderly_bind (orderly_verbose _) fun _ => orderly_pure _
    | some sent =>
      refine orderly_bind orderly_currentSample fun received => ?_
      split
      · exact orderly_bind (orderly_verbose _) fun _ => orderly_pure _
      · refine orderly_bind orderly_nextData fun hasNext => ?_
        cases hasNext with
        | true => exact ih
        | false => exact orderly_pure _

open Reception (Sources)

/-- The multi-source check takes samples of the second publisher, the last one that it needs. -/
theorem orderly_collectSecond (sources : Sources) :
    (collectSecond sources).Orderly n .multiSourceCheck := by
  unfold collectSecond
  split
  · exact orderly_bind (orderly_pose rfl) fun _ => orderly_pure _
  · refine orderly_bind (orderly_pose rfl) fun sample => ?_
    match sample with
    | some sample => exact orderly_bind (orderly_pose rfl) fun _ => orderly_pure _
    | none =>
      dsimp only
      split
      · exact orderly_bind (orderly_verbose _) fun _ => orderly_pure _
      · exact orderly_bind (orderly_pose rfl) fun _ => orderly_pure _

/-- Telling the sources apart asks for the first two queues only, which its check has. -/
theorem orderly_tellSources (sources : Sources) (left : Nat) :
    (tellSources sources left).Orderly n .multiSourceCheck := by
  induction left generalizing sources with
  | zero => exact orderly_pure _
  | succ left ih =>
    refine orderly_bind (orderly_collectSecond sources) fun collected => ?_
    match collected with
    | none => exact orderly_pure _
    | some sources =>
      refine orderly_bind orderly_currentSample fun received => ?_
      -- the same goes on whether or not the window shows a sample
      have hseen : ∀ seen : Sources, (if seen.both then pure .receivingFromBoth
          else nextData >>= fun hasNext =>
            if hasNext then tellSources seen left
            else pure .receivingFromOne : Inquiry Outcome).Orderly n .multiSourceCheck := by
        intro seen
        split
        · exact orderly_pure _
        · refine orderly_bind orderly_nextData fun hasNext => ?_
          cases hasNext with
          | true => exact ih seen
          | false => exact orderly_pure _
      cases received with
      | none => exact hseen sources
      | some sample => exact hseen (sources.see sample)

/-- With as many publishers as the check needs nothing is complained about. -/
theorem orderly_examine (h : check.publishersNeeded ≤ n) : (examine check).Orderly n check := by
  cases check with
  | noCheck => exact orderly_pure _
  | orderingCheck =>
    refine .count ?_
    have hone : 1 ≤ n := h
    show (if n = 0 then _ else compareOrder _).Orderly n .orderingCheck
    rw [if_neg (by omega)]
    exact orderly_compareOrder _
  | multiSourceCheck =>
    refine .count ?_
    have htwo : 2 ≤ n := h
    show (if n < 2 then _ else tellSources _ _).Orderly n .multiSourceCheck
    rw [if_neg (by omega)]
    exact orderly_tellSources _ _

/-- The observer of an entity asks nothing but what suits the check. -/
theorem orderly_observe (plan : Lifecycle.Plan)
    (h : plan.role = .subscriber → plan.check.publishersNeeded ≤ n) :
    (observe plan).Orderly n plan.check :=
  compositional_orderly.of_observe fun hrole => orderly_examine (h hrole)

/-! ### What becomes of the queues and of the log -/

/-- A question that suits a check takes samples as it should, and complains about nothing. -/
theorem drawn_pose {question : Question} (h : question.Suits check) (state : Observation) :
    Drawn check state.inbox (question.pose.result state).2.inbox := by
  cases question with
  | take publisher =>
    unfold Question.pose Observing.take
    rw [Observing.result_update]
    dsimp only
    split
    · exact .refl _
    · next queue hqueue =>
      rw [SampleQueue.snd_take]
      exact .set h hqueue 1
  | drain publisher =>
    unfold Question.pose Observing.drain
    rw [Observing.result_update]
    dsimp only
    split
    · exact .refl _
    · next queue hqueue =>
      rw [SampleQueue.snd_drain]
      exact .set h hqueue _
  -- a wait may be the one that crashes, and draws nothing in either case
  | expect patterns =>
    obtain ⟨console, crashAfter, inbox, outbox, log, waits⟩ := state
    match crashAfter with
    | some 0 | some (_ + 1) | none => exact .refl inbox
  | report sample =>
    unfold Question.pose Observing.report
    rw [Observing.result_update]
    dsimp only
    split <;> exact .refl _
  | before | window | publishers | hasQueue | note => exact .refl _

/-- That nothing is complained about between two states, and no queue comes or goes. -/
structure Content (before after : Observation) : Prop where
  length_eq : after.inbox.length = before.inbox.length
  log : ∀ entry ∈ after.log.toList, entry.level = .normal → entry ∈ before.log.toList

theorem Content.refl (state : Observation) : Content state state :=
  ⟨rfl, fun _ hentry _ => hentry⟩

theorem Content.trans {first second third : Observation} (h : Content first second)
    (h' : Content second third) : Content first third where
  length_eq := h'.length_eq.trans h.length_eq
  log := by
    intro entry hentry hlevel
    exact h.log entry (h'.log entry hentry hlevel) hlevel

/-- A question that suits the check leaves the observation content, as no queue it asks for is
missing. -/
theorem content_pose {question : Question} (h : question.Suits check) (state : Observation) :
    Content state (question.pose.result state).2 := by
  refine ⟨(drawn_pose h state).length_eq, ?_⟩
  cases question with
  -- a question that suits the check notes nothing at this level, so the lines were there before
  | note level message =>
    intro entry hentry hlevel
    have hlog : entry ∈ (state.log.push ⟨level, message⟩).toList := hentry
    rw [Array.toList_push, List.mem_append, List.mem_singleton] at hlog
    rcases hlog with hlog | rfl
    · exact hlog
    · exact absurd hlevel h
  | take publisher =>
    unfold Question.pose Observing.take
    rw [Observing.result_update]
    dsimp only
    split <;> exact fun _ hentry _ => hentry
  | drain publisher =>
    unfold Question.pose Observing.drain
    rw [Observing.result_update]
    dsimp only
    split <;> exact fun _ hentry _ => hentry
  | report sample =>
    unfold Question.pose Observing.report
    rw [Observing.result_update]
    dsimp only
    split <;> exact fun _ hentry _ => hentry
  | expect patterns =>
    obtain ⟨console, crashAfter, inbox, outbox, log, waits⟩ := state
    match crashAfter with
    | some 0 | some (_ + 1) | none => exact fun _ hentry _ => hentry
  | before | window | publishers | hasQueue => exact fun _ hentry _ => hentry

theorem content_befall (happenings : List Happening) (state : Observation) :
    Content state (happenings.foldl Happening.befall state) := by
  induction happenings generalizing state with
  | nil => exact .refl state
  | cons happening rest ih =>
    have hone : Content state (happening.befall state) := by
      refine ⟨?_, ?_⟩
      · cases happening with
        | reported | received => exact List.length_modify ..
        | line | closed | collected => rfl
      · cases happening <;> exact fun _ hentry _ => hentry
    exact hone.trans (ih _)

/-- Whatever happens around it, an inquiry that suits the check complains about nothing. -/
theorem Orderly.content (h : inquiry.Orderly n check) (around : Nat → List Happening)
    (state : Observation) (hn : state.inbox.length = n) :
    Content state (inquiry.amid around 0 state).2 :=
  h.amid_rel Content .refl .trans Content.length_eq (fun _ hsuits => content_pose hsuits)
    (fun k => content_befall (around k)) hn 0

/-- Alone, it leaves the queues less what it has taken. -/
theorem Orderly.drawn (h : inquiry.Orderly n check) (state : Observation)
    (hn : state.inbox.length = n) :
    Drawn check state.inbox (inquiry.amid (fun _ => []) 0 state).2.inbox :=
  h.amid_rel (fun before after => Drawn check before.inbox after.inbox)
    (fun state => .refl state.inbox) .trans Drawn.length_eq (fun _ hsuits => drawn_pose hsuits)
    (fun _ state => .refl state.inbox) hn 0

end Inquiry

/-! ## Complaints about missing queues -/

namespace Reception

/-- What the checks complain about when there are not as many publishers as they need. -/
def complaints : List LogEntry :=
  [⟨.normal, "ordering check without a publisher sample channel"⟩,
    ⟨.normal, "multi-source check without a second publisher sample channel"⟩]

/-- A check that lacks a publisher complains. -/
theorem exists_complaint {check : Check} {state : Observation}
    (h : ¬ check.publishersNeeded ≤ state.inbox.length) :
    ∃ complaint ∈ complaints,
      ((examine check).result state).2.log = state.log.push complaint := by
  cases check with
  | noCheck => exact absurd (Nat.zero_le _) h
  | orderingCheck =>
    have hempty : state.inbox.isEmpty = true := by
      rw [List.isEmpty_iff_length_eq_zero]
      exact Nat.lt_one_iff.mp (Nat.not_le.mp h)
    refine ⟨_, List.mem_cons_self, ?_⟩
    show ((get >>= fun state => if state.inbox.isEmpty then _ else _ : Observing Outcome).result
      state).2.log = _
    rw [Observing.result_bind_of_ok (Observing.result_get state), if_pos hempty]
    rfl
  | multiSourceCheck =>
    have hshort : state.inbox.length < 2 := Nat.not_le.mp h
    refine ⟨_, List.mem_cons_of_mem _ List.mem_cons_self, ?_⟩
    show ((get >>= fun state => if state.inbox.length < 2 then _ else _ : Observing Outcome).result
      state).2.log = _
    rw [Observing.result_bind_of_ok (Observing.result_get state), if_pos hshort]
    rfl

end Reception

namespace Trial

open Reception (complaints)

variable {settings : Settings} {check : Check} {case : Case} {seat : Seat} {seats : List Seat}
  {queues inbox : List SampleQueue} {outbox : Option SampleQueue}

/-! ## The observers of a case -/

/-- Whatever happens around the observer of an entity, it complains about nothing but an application
that cannot be started. -/
theorem normal_of_mem_log
    (h : seat.entity.role = .subscriber → check.publishersNeeded ≤ inbox.length)
    (around : Nat → List Happening) {entry : LogEntry}
    (hentry : entry ∈ (seat.observeAmid around check inbox outbox).1.log)
    (hlevel : entry.level = .normal) :
    ∃ error, seat.launch = .error error ∧ entry = launchFailure error := by
  obtain ⟨label, entity, launch⟩ := seat
  cases launch with
  | error error => exact ⟨error, rfl, List.mem_singleton.mp hentry⟩
  | ok performance =>
    have horderly :=
      Inquiry.orderly_observe (Seat.plan check ⟨label, entity, .ok performance⟩) h
    have hcontent := horderly.content around
      { Observation.start performance.console inbox outbox with
        crashAfter := performance.crashAfter } rfl
    cases hcontent.log entry hentry hlevel

/-- A subscriber leaves the queues less what it has taken. -/
theorem drawn_observeSubscriber (seat : Seat) (h : check.publishersNeeded ≤ queues.length) :
    Drawn check queues (seat.observeSubscriber check queues).2 := by
  unfold Seat.observeSubscriber
  rw [← observeAmid_alone]
  obtain ⟨label, entity, launch⟩ := seat
  cases launch with
  | error error => exact .refl queues
  | ok performance =>
    have horderly :=
      Inquiry.orderly_observe (Seat.plan check ⟨label, entity, .ok performance⟩) (fun _ => h)
    exact horderly.drawn { Observation.start performance.console queues none with
      crashAfter := performance.crashAfter } rfl

/-- Subscribers one after the other only draw from the queues. -/
theorem drawn_queuesAfter (seats : List Seat) (h : check.publishersNeeded ≤ queues.length) :
    Drawn check queues (queuesAfter check queues seats) := by
  induction seats generalizing queues with
  | nil => exact .refl queues
  | cons seat rest ih =>
    unfold queuesAfter
    cases seat.entity.role with
    | publisher => exact ih h
    | subscriber =>
      have hdrawn := drawn_observeSubscriber seat h
      exact hdrawn.trans (ih (hdrawn.length_eq ▸ h))

/-! ## Whose queue stands where -/

/-- An element that is left over is as many places from the front as such elements stand before
it. -/
theorem exists_getElem?_of_filter {α : Type} {p : α → Bool} {xs : List α} {x : α} {k : Nat}
    (h : (xs.filter p)[k]? = some x) :
    ∃ i, xs[i]? = some x ∧ (xs.take i).countP p = k := by
  induction xs generalizing k with
  | nil => cases h
  | cons first rest ih =>
    by_cases hfirst : p first = true
    · rw [List.filter_cons_of_pos hfirst] at h
      cases k with
      | zero => exact ⟨0, h, rfl⟩
      | succ k =>
        obtain ⟨i, hi, hcount⟩ := ih h
        exact ⟨i + 1, hi, by rw [List.take_succ_cons, List.countP_cons_of_pos hfirst, hcount]⟩
    · rw [List.filter_cons_of_neg hfirst] at h
      obtain ⟨i, hi, hcount⟩ := ih h
      exact ⟨i + 1, hi, by rw [List.take_succ_cons, List.countP_cons_of_neg hfirst, hcount]⟩

/-- The seats of a role are labelled in their order. -/
theorem Seated.label_of_filter (h : Seated case seats) {role : Role} {k : Nat}
    (hk : (seats.filter (Seat.isOf role))[k]? = some seat) : seat.label = role.label k := by
  obtain ⟨i, hi, hcount⟩ := exists_getElem?_of_filter hk
  have hrole : seat.entity.role = role := eq_of_beq (List.mem_filter.mp (List.mem_of_getElem? hk)).2
  have hlabel : case.labels[i]? = some seat.label := by
    rw [← h.labels, List.getElem?_map, hi]
    rfl
  have hentity : case.entities[i]? = some seat.entity := by
    rw [← h.entities, List.getElem?_map, hi]
    rfl
  rw [Case.getElem?_labels, hentity, Option.map_some, Option.some.injEq, hrole, ← h.entities,
    ← List.map_take, List.countP_map] at hlabel
  rw [← hlabel, ← hcount]
  rfl

/-- That the queue with number `k` is the one that the publisher labelled with `k` has filled, less
what was taken from it; that is nothing unless the check needs just so many publishers. -/
def HasQueueOf (settings : Settings) (check : Check) (seats : List Seat) (queues : List SampleQueue)
    (k : Nat) : Prop :=
  ∃ publisher ∈ seats, publisher.entity.role = .publisher ∧
    publisher.label = Role.label .publisher k ∧
    ∃ taken, queues[k]? = some ((publisher.observePublisher settings check).2.skip taken) ∧
      (k + 1 ≠ check.publishersNeeded → taken = 0)

/-- The queues that any subscriber reads from are those of the publishers, in their order. -/
theorem hasQueueOf_queuesAfter (h : Seated case seats) (settings : Settings)
    (hvalid : case.validate = .ok ()) (others : List Seat) {k : Nat}
    (hk : k < case.count .publisher) :
    HasQueueOf settings case.check seats
      (queuesAfter case.check (filledQueues settings case.check seats) others) k := by
  have hneeded := needed_le_length_filledQueues settings case.check h hvalid
  obtain ⟨taken, hget, hfew⟩ := drawn_queuesAfter others hneeded k
  have hlength : k < (seats.filter (Seat.isOf .publisher)).length := by
    rwa [← List.countP_eq_length_filter, ← count_eq_countP h]
  have hpublisher := List.getElem?_eq_getElem hlength
  have hmem := List.mem_filter.mp (List.getElem_mem hlength)
  refine ⟨_, hmem.1, eq_of_beq hmem.2, h.label_of_filter hpublisher, taken, ?_, hfew⟩
  rw [hget, filledQueues, List.getElem?_map, hpublisher]
  rfl

/-! ## No complaints -/

theorem launchFailure_notMem_complaints (error : LaunchError) :
    launchFailure error ∉ complaints := by
  intro hmem
  -- no complaint starts like this
  have hfirst : ∀ complaint ∈ complaints, complaint.message.toList.head? ≠ some 'l' := by decide
  apply hfirst _ hmem
  show ("launch failed: " ++ error.message).toList.head? = some 'l'
  rw [String.toList_append]
  rfl

/-- A publisher's account holds what its observer notes and, when it had to give up, one line on
that. -/
theorem mem_log_of_publisherAccount {entry : LogEntry}
    (hentry : entry ∈ (publisherAccount settings case seats seat).log) :
    entry ∈ (seat.observePublisher settings case.check).1.log ∨ entry = gaveUpWaiting := by
  unfold publisherAccount at hentry
  split at hentry
  · exact .inl hentry
  · unfold Account.impatient at hentry
    split at hentry
    · rcases List.mem_append.mp hentry with hentry | hentry
      · exact .inl hentry
      · exact .inr (List.mem_singleton.mp hentry)
    · exact .inl hentry

/-- What an account logs its observer has logged, unless it is that a publisher gave up waiting. The
observers of subscribers have as many queues as the check needs. -/
theorem exists_observe_of_mem_log (h : Seated case seats) (hvalid : case.validate = .ok ())
    {account : Account} (haccount : (seat, account) ∈ accounts settings case seats)
    {entry : LogEntry} (hentry : entry ∈ account.log) :
    entry = gaveUpWaiting ∨ ∃ inbox outbox,
      (seat.entity.role = .subscriber → case.check.publishersNeeded ≤ inbox.length) ∧
        entry ∈ (seat.observe case.check inbox outbox).1.log := by
  obtain ⟨i, hi⟩ := List.mem_iff_getElem?.mp haccount
  rw [accounts_eq_tally, getElem?_tally] at hi
  obtain ⟨other, -, hother⟩ := Option.map_eq_some_iff.mp hi
  obtain ⟨rfl, hwork⟩ := Prod.mk.inj hother
  cases hrole : other.entity.role with
  | publisher =>
    simp only [hrole] at hwork
    rw [← hwork] at hentry
    rcases mem_log_of_publisherAccount hentry with hentry | hentry
    · refine .inr ⟨[], some (.empty settings.queueCapacity), ?_, hentry⟩
      intro hsubscriber
      cases hsubscriber
    · exact .inl hentry
  | subscriber =>
    simp only [hrole] at hwork
    rw [← hwork] at hentry
    refine .inr ⟨_, none, ?_, hentry⟩
    intro _
    -- the subscribers before took samples, but no queue
    have hneeded := needed_le_length_filledQueues settings case.check h hvalid
    rw [(drawn_queuesAfter _ hneeded).length_eq]
    exact hneeded

/-- No account of a valid case holds a complaint. -/
theorem complaint_notMem_log (h : Seated case seats) (hvalid : case.validate = .ok ())
    {account : Account} (haccount : (seat, account) ∈ accounts settings case seats)
    {complaint : LogEntry} (hcomplaint : complaint ∈ complaints) : complaint ∉ account.log := by
  intro hmem
  have hlevel : complaint.level = .normal := by
    have hall : ∀ complaint ∈ complaints, complaint.level = .normal := by decide
    exact hall complaint hcomplaint
  rcases exists_observe_of_mem_log h hvalid haccount hmem with rfl | ⟨inbox, outbox, hneeded, hlog⟩
  · exact absurd hcomplaint (by decide)
  · rw [← observeAmid_alone] at hlog
    obtain ⟨error, -, rfl⟩ := normal_of_mem_log hneeded _ hlog hlevel
    exact launchFailure_notMem_complaints error hcomplaint

/-- What a run shows of an observer stands in the account of a seat. -/
theorem exists_account_of_mem_play {label : String} {entry : LogEntry}
    (hentry : .observed label entry ∈ (play settings case seats).1) :
    ∃ seat account, (seat, account) ∈ accounts settings case seats ∧ entry ∈ account.log := by
  rw [play] at hentry
  rcases List.mem_append.mp hentry with hentry | hentry
  · obtain ⟨⟨seat, account⟩, haccount, hentry⟩ := List.mem_flatMap.mp hentry
    obtain ⟨logged, hlogged, heq⟩ := List.mem_map.mp hentry
    obtain ⟨-, rfl⟩ := Event.observed.inj heq
    exact ⟨seat, account, haccount, hlogged⟩
  · obtain ⟨mismatch, -, heq⟩ := List.mem_map.mp hentry
    cases heq

/-- Nobody is observed while the entities take their seats. -/
theorem observed_notMem_prologue {σ : Type} (settings : Settings) (theatre : Theatre σ)
    (case : Case) (state : σ) (label : String) (entry : LogEntry) :
    .observed label entry ∉ prologue settings case (seatsIn settings theatre case state) := by
  intro hmem
  rcases List.mem_cons.mp hmem with heq | hmem
  · cases heq
  rcases List.mem_cons.mp hmem with heq | hmem
  · cases heq
  cases isPacing_of_mem_seatsIn hmem

/-- Nobody is observed in a run that has crashed because its observers cannot be named. -/
theorem observed_notMem_runIn {σ : Type} (settings : Settings) (theatre : Theatre σ) (state : σ)
    (hvalid : case.validate = .ok ()) (h : case.isNamable = false) (label : String)
    (entry : LogEntry) : .observed label entry ∉ (runIn settings theatre case state).1.1 := by
  obtain ⟨i, entity, name, -, -, -, hrun⟩ :=
    runIn_of_not_isNamable settings theatre state hvalid h
  rw [hrun]
  simp [Entity.launchEvent]

/-- In no trial does an entity complain about a missing channel. -/
theorem complaint_notMem_runIn {σ : Type} (settings : Settings) (theatre : Theatre σ) (case : Case)
    (state : σ) (label : String) {complaint : LogEntry} (hcomplaint : complaint ∈ complaints) :
    .observed label complaint ∉ (runIn settings theatre case state).1.1 := by
  intro hmem
  cases hvalid : case.validate with
  | error fault =>
    -- nothing is run
    unfold runIn at hmem
    cases hfault : case.fault? with
    | none =>
      rw [case.validate_eq_ok_iff.mpr hfault] at hvalid
      cases hvalid
    | some fault =>
      rw [hfault] at hmem
      cases hmem
  | ok =>
    cases hnamable : case.isNamable with
    | false => exact observed_notMem_runIn settings theatre state hvalid hnamable _ _ hmem
    | true =>
      rw [runIn_of_isNamable hvalid hnamable] at hmem
      rcases List.mem_append.mp hmem with hmem | hmem
      · exact observed_notMem_prologue settings theatre case state _ _ hmem
      · have hseated : Seated case (seatsIn settings theatre case state).seats :=
          seated_seatsIn case
        obtain ⟨seat, account, haccount, hlog⟩ := exists_account_of_mem_play hmem
        exact complaint_notMem_log hseated hvalid haccount hcomplaint hlog

/-- An entity is labelled with its role and the number of entities of its role before it, and no two
labels of a case are the same. A subscriber of a valid case has one queue for each publisher, in the
order of their labels, and so the one that its check compares with; whatever happens around it, it
complains about nothing but an application that cannot be started. A check that lacks a queue would
complain about it, and no run shows such a complaint; if the observers cannot be named, nobody is
observed at all. -/
theorem runIn_channels {σ : Type} (settings : Settings) (theatre : Theatre σ) (case : Case)
    (state : σ) :
    (∀ i : Nat, case.labels[i]? = case.entities[i]?.map (fun entity => entity.role.label
      ((case.entities.take i).countP (fun earlier => earlier.role == entity.role)))) ∧
    case.labels.Nodup ∧
    (case.validate = .ok () →
      ∃ start : Start σ, let seats := start.seats
        (case.isNamable = true → (runIn settings theatre case state).1 =
          (prologue settings case start ++ (play settings case seats).1,
            (play settings case seats).2)) ∧
        (case.isNamable = false → ∀ label entry,
          .observed label entry ∉ (runIn settings theatre case state).1.1) ∧
        seats.map Seat.label = case.labels ∧ seats.map Seat.entity = case.entities ∧
        ∀ (i : Nat) (seat : Seat), seats[i]? = some seat → seat.entity.role = .subscriber →
          (∃ inbox, (accounts settings case seats)[i]? =
              some (seat, (seat.observeSubscriber case.check inbox).1) ∧
            inbox.length = case.count .publisher ∧
            (∀ k < case.count .publisher, HasQueueOf settings case.check seats inbox k) ∧
            (case.check = .orderingCheck → HasQueueOf settings case.check seats inbox 0) ∧
            (case.check = .multiSourceCheck → HasQueueOf settings case.check seats inbox 1)) ∧
          ∀ inbox outbox around, inbox.length = case.count .publisher →
            ∀ entry ∈ (seat.observeAmid around case.check inbox outbox).1.log,
              entry.level = .normal → ∃ error, seat.launch = .error error ∧
                entry = launchFailure error) ∧
    (∀ (check : Check) (observation : Observation),
      ¬ check.publishersNeeded ≤ observation.inbox.length → ∃ complaint ∈ complaints,
        ((Reception.examine check).result observation).2.log = observation.log.push complaint) ∧
    ∀ label, ∀ complaint ∈ complaints,
      .observed label complaint ∉ (runIn settings theatre case state).1.1 := by
  refine ⟨case.getElem?_labels, case.nodup_labels, ?_, fun _ _ => Reception.exists_complaint,
    fun label complaint hcomplaint =>
      complaint_notMem_runIn settings theatre case state label hcomplaint⟩
  intro hvalid
  have hseated : Seated case (seatsIn settings theatre case state).seats := seated_seatsIn case
  refine ⟨seatsIn settings theatre case state,
    fun hnamable => congrArg Prod.fst (runIn_of_isNamable hvalid hnamable),
    observed_notMem_runIn settings theatre state hvalid, hseated.labels, hseated.entities, ?_⟩
  generalize (seatsIn settings theatre case state).seats = seats at hseated
  have hneeded := needed_le_length_filledQueues settings case.check hseated hvalid
  -- one queue for each publisher, whatever they put into them
  have hlength : (filledQueues settings case.check seats).length = case.count .publisher := by
    rw [filledQueues, List.length_map, ← List.countP_eq_length_filter, count_eq_countP hseated]
  rw [hlength] at hneeded
  intro i seat hseat hrole
  refine ⟨?_, ?_⟩
  · -- the subscribers in front have read from the queues before
    have hqueue : ∀ k < case.count .publisher, HasQueueOf settings case.check seats
        (queuesAfter case.check (filledQueues settings case.check seats) (seats.take i)) k := by
      intro k hk
      exact hasQueueOf_queuesAfter hseated settings hvalid (seats.take i) hk
    refine ⟨_, ?_, ?_, hqueue, ?_, ?_⟩
    · rw [accounts_eq_tally, getElem?_tally, hseat, Option.map_some]
      simp only [hrole]
    · rw [(drawn_queuesAfter _ (hlength ▸ hneeded)).length_eq, hlength]
    · intro hcheck
      rw [hcheck] at hneeded
      exact hqueue 0 hneeded
    · intro hcheck
      rw [hcheck] at hneeded
      exact hqueue 1 hneeded
  · -- with a queue for each publisher only a failed launch is worth a normal line
    intro inbox outbox around hinbox entry hentry hlevel
    exact normal_of_mem_log (fun _ => hinbox ▸ hneeded) around hentry hlevel

/-- A case in which both roles take turns. -/
def quartet : Case where
  name := "Quartet"
  description := none
  entities :=
    [⟨.subscriber, "-t S", .ok⟩, ⟨.publisher, "-t S -c BLUE -w", .ok⟩, ⟨.subscriber, "-t S", .ok⟩,
      ⟨.publisher, "-t S -c RED -w", .ok⟩]
  check := .multiSourceCheck
  timeout := none

/-- Everybody comes to the data. -/
def steadyStage : Stage := fun role _ => .ok (steadyPerformance role)

/-- The second subscriber compares with the second publisher, who is declared last. -/
theorem runIn_channels_quartet :
    quartet.validate = .ok () ∧
      ∃ start : Start Unit, (runIn .standard steadyStage.theatre quartet ()).1 =
          (prologue .standard quartet start ++ (play .standard quartet start.seats).1,
            (play .standard quartet start.seats).2) ∧
        start.seats.map Seat.label = ["S0", "P0", "S1", "P1"] ∧
        ∃ seat inbox, start.seats[2]? = some seat ∧
          (accounts .standard quartet start.seats)[2]? =
            some (seat, (seat.observeSubscriber .multiSourceCheck inbox).1) ∧
          HasQueueOf .standard .multiSourceCheck start.seats inbox 1 := by
  obtain ⟨-, -, hrun, -⟩ := runIn_channels .standard steadyStage.theatre quartet ()
  obtain ⟨start, hplay, -, hlabels, hentities, hsubscribers⟩ := hrun rfl
  refine ⟨rfl, start, hplay rfl, hlabels.trans (by decide), ?_⟩
  have hentity := congrArg (fun entities => entities[2]?) hentities
  rw [List.getElem?_map] at hentity
  obtain ⟨seat, hseat, hentity⟩ := Option.map_eq_some_iff.mp hentity
  obtain ⟨⟨inbox, haccount, -, -, -, hqueue⟩, -⟩ :=
    hsubscribers 2 seat hseat (congrArg Entity.role hentity)
  exact ⟨seat, inbox, hseat, haccount, hqueue rfl⟩

end Trial

end PubSubTrials
