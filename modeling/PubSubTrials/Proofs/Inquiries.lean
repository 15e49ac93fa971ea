import PubSubTrials.Proofs.Observers

/-!
# Observers as inquiries

An observer is at work at the same time as its peers, so what it learns from one question to the
next is not settled beforehand: more output may have come, and more samples may have been reported.
An inquiry keeps the questions apart from the answers, so that it can be carried out with anything
happening around it (`Inquiry.amid`). The observer of an entity is the inquiry with nothing
happening (`amid_alone`, `carryOut_observe`).
-/

namespace PubSubTrials

open Output (Marker Pattern Reply)

/-- What an observer asks of its surroundings. -/
inductive Question where
  /-- Wait for patterns in the output. -/
  | expect (patterns : List Pattern)
  /-- The text before the last hit. -/
  | before
  /-- The window that the last hit ends. -/
  | window
  /-- How many publishers have a queue. -/
  | publishers
  /-- Whether there is a queue to fill. -/
  | hasQueue
  /-- Wait for a sample of a publisher. -/
  | take (publisher : Nat)
  /-- Take the samples of a publisher that are there. -/
  | drain (publisher : Nat)
  /-- Report a sample. -/
  | report (sample : Sample)
  /-- Add an entry to the log. -/
  | note (level : Level) (message : String)

namespace Question

/-- What a question is answered with. -/
abbrev Answer : Question → Type
  | expect _ => Reply
  | before | window => List Char
  | publishers => Nat
  | hasQueue => Bool
  | take _ => Option Sample
  | drain _ => List Sample
  | report _ => Bool
  | note .. => Unit

/-- Whether the answer may take as long as a stage. -/
def isTimed : Question → Bool
  | expect _ | take _ => true
  | _ => false

/-- How an observer gets its answers. -/
def pose : (question : Question) → Observing question.Answer
  | expect patterns => Observing.expect patterns
  | before => Observing.before
  | window => Observing.window
  | publishers => return (← get).inbox.length
  | hasQueue => return (← get).outbox.isSome
  | take publisher => Observing.take publisher
  | drain publisher => Observing.drain publisher
  | report sample => Observing.report sample
  | note level message => Observing.note level message

end Question

/-- What may happen around an observer. -/
inductive Happening where
  /-- One more line of the output arrives. -/
  | line (text : List Char)
  /-- The output ends. -/
  | closed
  /-- A publisher reports a sample. -/
  | reported (publisher : Nat) (sample : Sample)
  /-- Another subscriber takes the oldest sample of a publisher. -/
  | received (publisher : Nat)
  /-- A subscriber takes the oldest sample that this entity has reported. -/
  | collected

/-- What an observer has at hand after something has happened. -/
def Happening.befall (state : Observation) : Happening → Observation
  | line text => { state with console := state.console.deliver [text] }
  | closed => { state with console := state.console.close }
  | reported publisher sample =>
    { state with inbox := state.inbox.modify publisher fun queue => (queue.push sample).2 }
  | received publisher =>
    { state with inbox := state.inbox.modify publisher fun queue => queue.take.2 }
  | collected => { state with outbox := state.outbox.map fun queue => queue.take.2 }

/-- Questions that are asked one after the other, each of them by the answers so far. -/
inductive Inquiry (α : Type) : Type where
  | done (a : α)
  | ask (question : Question) (next : question.Answer → Inquiry α)

namespace Inquiry

variable {α β : Type}

/-- An inquiry with another one after it. -/
def bind (inquiry : Inquiry α) (f : α → Inquiry β) : Inquiry β :=
  match inquiry with
  | done a => f a
  | ask question next => ask question (fun answer => (next answer).bind f)

instance : Monad Inquiry where
  pure := done
  bind := bind

/-- One question. -/
def pose (question : Question) : Inquiry question.Answer :=
  ask question done

def expect (patterns : List Pattern) : Inquiry Reply := pose (.expect patterns)

def before : Inquiry (List Char) := pose .before

def window : Inquiry (List Char) := pose .window

def publishers : Inquiry Nat := pose .publishers

def hasQueue : Inquiry Bool := pose .hasQueue

def take (publisher : Nat) : Inquiry (Option Sample) := pose (.take publisher)

def drain (publisher : Nat) : Inquiry (List Sample) := pose (.drain publisher)

def report (sample : Sample) : Inquiry Bool := pose (.report sample)

def note (level : Level) (message : String) : Inquiry Unit := pose (.note level message)

/-! ## Carrying out an inquiry -/

/-- The observer that asks the questions of an inquiry. -/
def carryOut : Inquiry α → Observing α
  | done a => pure a
  | ask question next => question.pose >>= fun answer => (next answer).carryOut

theorem carryOut_pose (question : Question) : (pose question).carryOut = question.pose :=
  bind_pure question.pose

theorem carryOut_bind (inquiry : Inquiry α) (f : α → Inquiry β) :
    (inquiry >>= f).carryOut = inquiry.carryOut >>= fun a => (f a).carryOut := by
  induction inquiry with
  | done a =>
    show (f a).carryOut = pure a >>= fun a => (f a).carryOut
    rw [pure_bind]
  | ask question next ih =>
    show (question.pose >>= fun answer => (next answer >>= f).carryOut) = _
    simp only [ih, carryOut, bind_assoc]

theorem calm_pose (question : Question) : Observing.Calm question.pose := by
  cases question with
  | expect patterns => exact Observing.calm_expect patterns
  | before => exact Observing.calm_before
  | window => exact Observing.calm_window
  | publishers | hasQueue =>
    exact Observing.calm_bind Observing.calm_get fun _ => Observing.calm_pure _
  | take publisher => exact Observing.calm_take publisher
  | drain publisher => exact Observing.calm_drain publisher
  | report sample => exact Observing.calm_report sample
  | note level message => exact Observing.calm_note level message

/-- Nothing that is carried out as an inquiry crashes of itself. -/
theorem calm_carryOut (inquiry : Inquiry α) : Observing.Calm inquiry.carryOut := by
  induction inquiry with
  | done a => exact Observing.calm_pure a
  | ask question next ih => exact Observing.calm_bind (calm_pose question) ih

/-! ## Amid what happens -/

/-- Carry out an inquiry, when `around k` happens before its question `k`. -/
def amid (around : Nat → List Happening) :
    Inquiry α → Nat → Observation → Except Crash α × Observation
  | done a, _, state => (.ok a, state)
  | ask question next, k, state =>
    match question.pose.result ((around k).foldl Happening.befall state) with
    | (.ok answer, state) => (next answer).amid around (k + 1) state
    | (.error crash, state) => (.error crash, state)

/-- With nothing happening this is the observer that asks the questions. -/
theorem amid_alone (inquiry : Inquiry α) (k : Nat) (state : Observation) :
    inquiry.amid (fun _ => []) k state = inquiry.carryOut.result state := by
  induction inquiry generalizing k state with
  | done a => rfl
  | ask question next ih =>
    rw [carryOut, Observing.result_bind, amid, List.foldl_nil]
    generalize question.pose.result state = posed
    obtain ⟨answer, after⟩ := posed
    cases answer with
    | error crash => rfl
    | ok answer => exact ih answer (k + 1) after

/-! ## The observer of an entity -/

/-- Wait for the markers of a stage. -/
def await (stage : String) (markers : List Marker) : Inquiry Reply := do
  let reply ← expect (markers.map Pattern.marker)
  match reply with
  | .found 0 => note .debug stage
  | .found _ => note .debug (stage ++ " failed")
  | .timeout => note .debug (stage ++ ": timed out")
  | .endOfOutput => note .debug (stage ++ ": output closed")
  return reply

/-- Record the current window. -/
def recordWindow : Inquiry Unit := do
  match Sample.findLast (← before) with
  | some sample => if !(← report sample) then note .debug "sample channel full, sample dropped"
  | none => pure ()

/-- Record windows, at most `left` in all. -/
def recordWindows : Nat → Inquiry Nat
  | 0 => return 0
  | left + 1 => do
    recordWindow
    if left = 0 then return 1
    else
      match ← expect [.marker .data] with
      | .found _ => return 1 + (← recordWindows left)
      | _ => return 1

/-- Record the samples of a publisher that has a queue for them. -/
def recordSamples : Inquiry Unit := do
  if ← hasQueue then
    let windows ← recordWindows SampleQueue.maxRecorded
    note .debug ("recorded " ++ toString windows ++ " samples")

/-- The stages of a publisher that has its topic. -/
def publish (reportsSamples : Bool) : Inquiry Outcome := do
  match ← await "writer created" [.writerCreated] with
  | .found 0 =>
    match ← await "publication matched" [.publicationMatched, .offeredIncompatibleQos] with
    | .found 0 =>
      if reportsSamples then
        match ← await "data sent" [.data] with
        | .found 0 => do
          recordSamples
          return .ok
        | _ => return .dataNotSent
      else return .ok
    | .found _ => return .incompatibleQos
    | _ => return .readerNotMatched
  | _ => return .writerNotCreated

/-- The sample just received. -/
def currentSample : Inquiry (Option Sample) :=
  return Sample.findLast (← window)

/-- Go on to the next data marker. -/
def nextData : Inquiry Bool := do
  note .verbose "waiting for samples"
  match ← expect [.marker .data] with
  | .found _ => return true
  | _ => return false

/-- Compare up to `left` more samples with those of the first publisher. -/
def compareOrder : Nat → Inquiry Outcome
  | 0 => return .ok
  | left + 1 => do
    match ← take 0 with
    | none =>
      note .verbose "publisher sample channel starved"
      return .ok
    | some sent =>
      let received ← currentSample
      if received ≠ some sent then
        note .verbose
          ("expected sample " ++ sent.token ++ ", received " ++ Reception.describe received)
        return .dataNotCorrect
      else if ← nextData then compareOrder left
      else return .ok

open Reception (Sources)

/-- Learn about the samples of the second publisher. -/
def collectSecond (sources : Sources) : Inquiry (Option Sources) := do
  if sources.exhausted then return some (sources.collect (← drain 1))
  else
    match ← take 1 with
    | some sample => return some ((sources.collect [sample]).collect (← drain 1))
    | none =>
      if sources.second.isEmpty then
        note .verbose "second publisher sample channel starved"
        return none
      else return some { sources.collect (← drain 1) with exhausted := true }

/-- Look at up to `left` more windows. -/
def tellSources (sources : Sources) : Nat → Inquiry Outcome
  | 0 => return .receivingFromOne
  | left + 1 => do
    match ← collectSecond sources with
    | none => return .receivingFromOne
    | some sources =>
      let sources :=
        match ← currentSample with
        | some sample => sources.see sample
        | none => sources
      if sources.both then return .receivingFromBoth
      else if ← nextData then tellSources sources left
      else return .receivingFromOne

/-- Examine the data of a subscriber as its case asks for. -/
def examine (check : Check) : Inquiry Outcome := do
  match check with
  | .noCheck => return .ok
  | .orderingCheck =>
    if (← publishers) = 0 then
      note .normal "ordering check without a publisher sample channel"
      return .dataNotCorrect
    else compareOrder Reception.orderedSamples
  | .multiSourceCheck =>
    if (← publishers) < 2 then
      note .normal "multi-source check without a second publisher sample channel"
      return .receivingFromOne
    else tellSources .unknown Reception.sourceWindows

/-- The stages of a subscriber that has its topic. -/
def subscribe (check : Check) : Inquiry Outcome := do
  match ← await "reader created" [.readerCreated, .filterFailed] with
  | .found 0 =>
    match ← await "subscription matched" [.subscriptionMatched, .requestedIncompatibleQos] with
    | .found 0 =>
      match ← await "writer alive" [.livelinessChanged] with
      | .found 0 =>
        match ← await "data received" [.data] with
        | .found 0 => examine check
        | _ => return .dataNotReceived
      | _ => return .writerNotAlive
    | .found _ => return .incompatibleQos
    | _ => return .writerNotMatched
  | .found _ => return .filterNotCreated
  | _ => return .readerNotCreated

/-- All stages of an entity. -/
def stages (plan : Lifecycle.Plan) : Inquiry Outcome := do
  match ← await "topic created"
      [.topicCreated, .topicNameRequired, .parseError, .unrecognizedValue] with
  | .found 0 =>
    match plan.role with
    | .publisher => publish plan.reportsSamples
    | .subscriber => subscribe plan.check
  | .found 3 => return .unrecognizedValue
  | _ => return .topicNotCreated

/-- Observe an entity to the end. -/
def observe (plan : Lifecycle.Plan) : Inquiry Outcome := do
  let outcome ← stages plan
  note .debug ("outcome " ++ outcome.name)
  return outcome

/-! ## The inquiry is the observer -/

variable {inquiry : Inquiry α} {steps : Observing α} {f : α → Inquiry β} {next : α → Observing β}

/-- Inquiries that are carried out as steps, one after the other. -/
theorem carryOut_bind_eq (h : inquiry.carryOut = steps) (hnext : ∀ a, (f a).carryOut = next a) :
    (inquiry >>= f).carryOut = steps >>= next := by
  rw [carryOut_bind, h]
  exact bind_congr hnext

theorem carryOut_await (stage : String) (markers : List Marker) :
    (await stage markers).carryOut = Lifecycle.await stage markers := by
  refine carryOut_bind_eq (carryOut_pose _) fun reply => ?_
  rcases reply with (_ | n) | _ | _
  all_goals exact carryOut_bind_eq (carryOut_pose _) fun _ => rfl

theorem carryOut_recordWindow : recordWindow.carryOut = Lifecycle.recordWindow := by
  refine carryOut_bind_eq (carryOut_pose _) fun text => ?_
  cases Sample.findLast text with
  | none => rfl
  | some sample =>
    refine carryOut_bind_eq (carryOut_pose _) fun accepted => ?_
    cases accepted with
    | false => exact carryOut_pose _
    | true => rfl

theorem carryOut_recordWindows (left : Nat) :
    (recordWindows left).carryOut = Lifecycle.recordWindows left := by
  induction left with
  | zero => rfl
  | succ left ih =>
    rw [Lifecycle.recordWindows_succ]
    refine carryOut_bind_eq carryOut_recordWindow fun _ => ?_
    split
    · rfl
    · refine carryOut_bind_eq (carryOut_pose _) fun reply => ?_
      cases reply with
      | found index => exact carryOut_bind_eq ih fun _ => rfl
      | timeout => rfl
      | endOfOutput => rfl

/-- What is asked about the queues at hand is seen from the state. -/
theorem carryOut_hasQueue_bind {f : Bool → Inquiry β} {next : Observation → Observing β}
    (h : ∀ state, (f state.outbox.isSome).carryOut = next state) :
    (hasQueue >>= f).carryOut = get >>= next := by
  have hpose : hasQueue.carryOut = (get >>= fun state => pure state.outbox.isSome) :=
    carryOut_pose _
  rw [carryOut_bind, hpose, bind_assoc]
  simp only [pure_bind, h]

theorem carryOut_publishers_bind {f : Nat → Inquiry β} {next : Observation → Observing β}
    (h : ∀ state, (f state.inbox.length).carryOut = next state) :
    (publishers >>= f).carryOut = get >>= next := by
  have hpose : publishers.carryOut = (get >>= fun state => pure state.inbox.length) :=
    carryOut_pose _
  rw [carryOut_bind, hpose, bind_assoc]
  simp only [pure_bind, h]

theorem carryOut_recordSamples : recordSamples.carryOut = Lifecycle.recordSamples := by
  refine carryOut_hasQueue_bind fun state => ?_
  split
  · exact carryOut_bind_eq (carryOut_recordWindows _) fun _ => carryOut_pose _
  · rfl

theorem carryOut_publish (reportsSamples : Bool) :
    (publish reportsSamples).carryOut = Lifecycle.publish reportsSamples := by
  refine carryOut_bind_eq (carryOut_await _ _) fun created => ?_
  match created with
  | .found (_ + 1) | .timeout | .endOfOutput => rfl
  | .found 0 =>
    refine carryOut_bind_eq (carryOut_await _ _) fun matched => ?_
    match matched with
    | .found (_ + 1) | .timeout | .endOfOutput => rfl
    | .found 0 =>
      cases reportsSamples with
      | false => rfl
      | true =>
        refine carryOut_bind_eq (carryOut_await _ _) fun sent => ?_
        match sent with
        | .found (_ + 1) | .timeout | .endOfOutput => rfl
        | .found 0 => exact carryOut_bind_eq carryOut_recordSamples fun _ => rfl

theorem carryOut_currentSample : currentSample.carryOut = Reception.currentSample :=
  carryOut_bind_eq (carryOut_pose _) fun _ => rfl

theorem carryOut_nextData : nextData.carryOut = Reception.nextData := by
  refine carryOut_bind_eq (carryOut_pose _) fun _ => carryOut_bind_eq (carryOut_pose _) ?_
  intro reply
  cases reply <;> rfl

theorem carryOut_compareOrder (left : Nat) :
    (compareOrder left).carryOut = Reception.compareOrder left := by
  induction left with
  | zero => rfl
  | succ left ih =>
    refine carryOut_bind_eq (carryOut_pose _) fun sent => ?_
    match sent with
    | none => exact carryOut_bind_eq (carryOut_pose _) fun _ => rfl
    | some sent =>
      refine carryOut_bind_eq carryOut_currentSample fun received => ?_
      split
      · exact carryOut_bind_eq (carryOut_pose _) fun _ => rfl
      · refine carryOut_bind_eq carryOut_nextData fun hasNext => ?_
        cases hasNext with
        | true => exact ih
        | false => rfl

theorem carryOut_collectSecond (sources : Sources) :
    (collectSecond sources).carryOut = Reception.collectSecond sources := by
  unfold collectSecond Reception.collectSecond
  split
  · exact carryOut_bind_eq (carryOut_pose _) fun _ => rfl
  · refine carryOut_bind_eq (carryOut_pose _) fun sample => ?_
    match sample with
    | some sample => exact carryOut_bind_eq (carryOut_pose _) fun _ => rfl
    | none =>
      dsimp only
      split
      · exact carryOut_bind_eq (carryOut_pose _) fun _ => rfl
      · exact carryOut_bind_eq (carryOut_pose _) fun _ => rfl

theorem carryOut_tellSources (sources : Sources) (left : Nat) :
    (tellSources sources left).carryOut = Reception.tellSources sources left := by
  induction left generalizing sources with
  | zero => rfl
  | succ left ih =>
    refine carryOut_bind_eq (carryOut_collectSecond sources) fun collected => ?_
    match collected with
    | none => rfl
    | some sources =>
      refine carryOut_bind_eq carryOut_currentSample fun received => ?_
      -- the sources seen are the same on both sides
      have hsame : ∀ seen : Sources, (if seen.both then pure .receivingFromBoth
          else nextData >>= fun hasNext =>
            if hasNext then tellSources seen left else pure .receivingFromOne).carryOut =
          if seen.both then pure .receivingFromBoth
          else Reception.nextData >>= fun hasNext =>
            if hasNext then Reception.tellSources seen left else pure .receivingFromOne := by
        intro seen
        split
        · rfl
        · refine carryOut_bind_eq carryOut_nextData fun hasNext => ?_
          cases hasNext with
          | true => exact ih seen
          | false => rfl
      cases received with
      | none => exact hsame sources
      | some sample => exact hsame (sources.see sample)

theorem carryOut_examine (check : Check) :
    (examine check).carryOut = Reception.examine check := by
  cases check with
  | noCheck => rfl
  | orderingCheck =>
    refine carryOut_publishers_bind fun state => ?_
    simp only [List.isEmpty_iff_length_eq_zero]
    split
    · exact carryOut_bind_eq (carryOut_pose _) fun _ => rfl
    · exact carryOut_compareOrder _
  | multiSourceCheck =>
    refine carryOut_publishers_bind fun state => ?_
    split
    · exact carryOut_bind_eq (carryOut_pose _) fun _ => rfl
    · exact carryOut_tellSources _ _

theorem carryOut_subscribe (check : Check) :
    (subscribe check).carryOut = Lifecycle.subscribe check := by
  refine carryOut_bind_eq (carryOut_await _ _) fun created => ?_
  match created with
  | .found (_ + 1) | .timeout | .endOfOutput => rfl
  | .found 0 =>
    refine carryOut_bind_eq (carryOut_await _ _) fun matched => ?_
    match matched with
    | .found (_ + 1) | .timeout | .endOfOutput => rfl
    | .found 0 =>
      refine carryOut_bind_eq (carryOut_await _ _) fun alive => ?_
      match alive with
      | .found (_ + 1) | .timeout | .endOfOutput => rfl
      | .found 0 =>
        refine carryOut_bind_eq (carryOut_await _ _) fun received => ?_
        match received with
        | .found (_ + 1) | .timeout | .endOfOutput => rfl
        | .found 0 => exact carryOut_examine check

/-- The plan of an observer as questions comes to what the plan does. -/
theorem carryOut_stages (plan : Lifecycle.Plan) :
    (stages plan).carryOut = Lifecycle.stages plan := by
  refine carryOut_bind_eq (carryOut_await _ _) fun created => ?_
  obtain ⟨role, reportsSamples, check⟩ := plan
  match created with
  | .found 1 | .found 2 | .found 3 | .found (_ + 4) | .timeout | .endOfOutput => rfl
  | .found 0 =>
    cases role with
    | publisher => exact carryOut_publish reportsSamples
    | subscriber => exact carryOut_subscribe check

/-- The observer of an entity is carried out as an inquiry. -/
theorem carryOut_observe (plan : Lifecycle.Plan) :
    (observe plan).carryOut = Lifecycle.observe plan := by
  refine carryOut_bind_eq (carryOut_stages plan) fun outcome => ?_
  exact carryOut_bind_eq (carryOut_pose _) fun _ => rfl

/-! ## Properties of all that is asked -/

/-- A property that an inquiry has if all its parts have it. Windows are recorded as a whole, since
whether a sample was accepted makes no difference outside. -/
structure Compositional (P : {α : Type} → Inquiry α → Prop) : Prop where
  of_pure : ∀ {α : Type} (a : α), P (pure a)
  of_bind : ∀ {α β : Type} {inquiry : Inquiry α} {f : α → Inquiry β},
    P inquiry → (∀ a, P (f a)) → P (inquiry >>= f)
  of_expect : ∀ patterns : List Pattern, P (expect patterns)
  of_debug : ∀ message : String, P (note .debug message)
  of_hasQueue : P hasQueue
  of_recordWindow : P recordWindow

namespace Compositional

variable {P : {α : Type} → Inquiry α → Prop} (h : Compositional P)
include h

theorem of_await (stage : String) (markers : List Marker) : P (await stage markers) := by
  refine h.of_bind (h.of_expect _) fun reply => ?_
  match reply with
  | .found 0 | .found (_ + 1) | .timeout | .endOfOutput =>
    exact h.of_bind (h.of_debug _) fun _ => h.of_pure _

theorem of_recordWindows (left : Nat) : P (recordWindows left) := by
  induction left with
  | zero => exact h.of_pure _
  | succ left ih =>
    refine h.of_bind h.of_recordWindow fun _ => ?_
    split
    · exact h.of_pure _
    · refine h.of_bind (h.of_expect _) fun reply => ?_
      cases reply with
      | found index => exact h.of_bind ih fun _ => h.of_pure _
      | timeout | endOfOutput => exact h.of_pure _

theorem of_recordSamples : P recordSamples := by
  refine h.of_bind h.of_hasQueue fun hasQueue => ?_
  cases hasQueue with
  | false => exact h.of_pure _
  | true => exact h.of_bind (h.of_recordWindows _) fun _ => h.of_debug _

theorem of_publish (reportsSamples : Bool) : P (publish reportsSamples) := by
  refine h.of_bind (h.of_await _ _) fun created => ?_
  match created with
  | .found (_ + 1) | .timeout | .endOfOutput => exact h.of_pure _
  | .found 0 =>
    refine h.of_bind (h.of_await _ _) fun matched => ?_
    match matched with
    | .found (_ + 1) | .timeout | .endOfOutput => exact h.of_pure _
    | .found 0 =>
      cases reportsSamples with
      | false => exact h.of_pure _
      | true =>
        refine h.of_bind (h.of_await _ _) fun sent => ?_
        match sent with
        | .found (_ + 1) | .timeout | .endOfOutput => exact h.of_pure _
        | .found 0 => exact h.of_bind h.of_recordSamples fun _ => h.of_pure _

theorem of_subscribe {check : Check} (hexamine : P (examine check)) : P (subscribe check) := by
  refine h.of_bind (h.of_await _ _) fun created => ?_
  match created with
  | .found (_ + 1) | .timeout | .endOfOutput => exact h.of_pure _
  | .found 0 =>
    refine h.of_bind (h.of_await _ _) fun matched => ?_
    match matched with
    | .found (_ + 1) | .timeout | .endOfOutput => exact h.of_pure _
    | .found 0 =>
      refine h.of_bind (h.of_await _ _) fun alive => ?_
      match alive with
      | .found (_ + 1) | .timeout | .endOfOutput => exact h.of_pure _
      | .found 0 =>
        refine h.of_bind (h.of_await _ _) fun received => ?_
        match received with
        | .found (_ + 1) | .timeout | .endOfOutput => exact h.of_pure _
        | .found 0 => exact hexamine

/-- The observer of an entity has the property, if that of a subscriber also examines data so. -/
theorem of_observe {plan : Lifecycle.Plan}
    (hexamine : plan.role = .subscriber → P (examine plan.check)) : P (observe plan) := by
  obtain ⟨role, reportsSamples, check⟩ := plan
  refine h.of_bind (h.of_bind (h.of_await _ _) fun created => ?_) fun outcome =>
    h.of_bind (h.of_debug _) fun _ => h.of_pure _
  match created with
  | .found 1 | .found 2 | .found 3 | .found (_ + 4) | .timeout | .endOfOutput =>
    exact h.of_pure _
  | .found 0 =>
    cases role with
    | publisher => exact h.of_publish reportsSamples
    | subscriber => exact h.of_subscribe (hexamine rfl)

end Compositional

end Inquiry

/-! ## Observers that are not made to crash -/

theorem Lifecycle.calm_recordSamples : Observing.Calm recordSamples :=
  Inquiry.carryOut_recordSamples ▸ Inquiry.calm_carryOut _

/-- An observer that is not made to crash ends with an outcome. -/
theorem Lifecycle.calm_observe (plan : Plan) : Observing.Calm (observe plan) :=
  Inquiry.carryOut_observe plan ▸ Inquiry.calm_carryOut _

end PubSubTrials
