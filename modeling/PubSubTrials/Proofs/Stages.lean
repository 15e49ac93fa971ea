import PubSubTrials.Proofs.Inquiries

/-!
# The stages in a whole output

An observer waits for one marker after the other while lines arrive. What it concludes can be
read off the whole text instead. The stages of an entity are a list of milestones; each one takes
the leftmost of its markers that begins where the milestone before it ended, or later
(`leftmost`), and the first one that is not reached decides the outcome (`passage`,
`outcomeOf`). `observe_eq_outcomeOf` says that both agree for every output, as long as received
data is not examined. `result_publish` and `result_subscribe` say in what state an observer is
when its entity has passed all milestones.
-/

namespace PubSubTrials

namespace Output

/-! ## The leftmost marker from a position on -/

/-- The end of a marker that begins at a position of a text. -/
def Marker.endAt? (m : Marker) (text : List Char) (start : Nat) : Option Nat :=
  (m.forms.find? (fun form => stands form (text.drop start))).map (fun form => start + form.length)

/-- The first of several markers that begins at a position, and where it ends. -/
def markerAt? (markers : List Marker) (text : List Char) (start : Nat) : Option (Marker × Nat) :=
  markers.findSome? (fun m => (m.endAt? text start).map (fun stop => (m, stop)))

/-- The leftmost of several markers that begins at a position or after it, and where it ends. -/
def leftmost (markers : List Marker) (text : List Char) (start : Nat) : Option (Marker × Nat) :=
  (List.range' start (text.length - start)).findSome? (markerAt? markers text)

/-- Where a marker ends, counted from the start of the text. -/
theorem Marker.endAt?_eq (m : Marker) (text : List Char) (start : Nat) :
    m.endAt? text start = ((Pattern.marker m).lengthAt? (text.drop start)).map (start + ·) := by
  rw [endAt?, Pattern.lengthAt?, Option.map_map]
  rfl

/-- The first marker that begins at a position is the pattern found there. -/
theorem firstAt?_markers (markers : List Marker) (text : List Char) (start first : Nat) :
    match markerAt? markers text start with
    | some (m, stop) => ∃ i n,
        Pattern.firstAt? first (markers.map .marker) (text.drop start) = some (first + i, n) ∧
          markers[i]? = some m ∧ stop = start + n
    | none => Pattern.firstAt? first (markers.map .marker) (text.drop start) = none := by
  induction markers generalizing first with
  | nil => rfl
  | cons m rest ih =>
    rw [markerAt?, List.findSome?_cons, List.map_cons, Pattern.firstAt?, Marker.endAt?_eq]
    cases hlen : (Pattern.marker m).lengthAt? (text.drop start) with
    | some n => exact ⟨0, n, rfl, rfl, rfl⟩
    | none =>
      -- the marker does not begin here, so the patterns after it are counted from the next index
      have hrest := ih (first + 1)
      rw [Option.map_none, Option.map_none]
      dsimp only
      rw [← markerAt?]
      cases hfound : markerAt? rest text start with
      | some found =>
        obtain ⟨m', stop⟩ := found
        rw [hfound] at hrest
        obtain ⟨i, n, hfirst, hget, hstop⟩ := hrest
        refine ⟨i + 1, n, ?_, hget, hstop⟩
        rw [hfirst, Nat.add_assoc, Nat.add_comm 1 i]
      | none =>
        rw [hfound] at hrest
        exact hrest

/-- Scanning what follows a position finds the leftmost marker from there on. -/
theorem scan_leftmost (markers : List Marker) (text passed : List Char) (start : Nat) :
    match leftmost markers text start with
    | some (m, stop) => ∃ hit, scan (markers.map .marker) passed (text.drop start) = some hit ∧
        markers[hit.index]? = some m ∧ hit.rest = text.drop stop
    | none => scan (markers.map .marker) passed (text.drop start) = none := by
  rw [leftmost]
  generalize hleft : text.length - start = left
  induction left generalizing start passed with
  | zero =>
    have hnil : text.drop start = [] := List.drop_eq_nil_of_le (by omega)
    rw [hnil, scan, Pattern.firstAt?_markers_nil]
    rfl
  | succ left ih =>
    have hlt : start < text.length := by omega
    have hfirst := firstAt?_markers markers text start 0
    rw [List.range'_succ, List.findSome?_cons]
    rw [List.drop_eq_getElem_cons hlt] at hfirst ⊢
    cases hhere : markerAt? markers text start with
    | some found =>
      obtain ⟨m, stop⟩ := found
      rw [hhere] at hfirst
      obtain ⟨i, n, hi, hget, rfl⟩ := hfirst
      refine ⟨_, by rw [scan, hi], ?_, ?_⟩
      · rwa [Nat.zero_add]
      · rw [← List.drop_eq_getElem_cons hlt, List.drop_drop]
    | none =>
      rw [hhere] at hfirst
      rw [scan, hfirst]
      exact ih (text[start] :: passed) (start + 1) (by omega)

end Output

namespace Lifecycle

open Output

/-! ## Milestones -/

/-- A stage of an entity: the marker that says that it is reached, the markers that say why it
will not be, and the outcome when there is none of them. -/
structure Milestone where
  marker : Marker
  refusals : List (Marker × Outcome)
  missing : Outcome

/-- All markers of a stage. -/
def Milestone.markers (milestone : Milestone) : List Marker :=
  milestone.marker :: milestone.refusals.map Prod.fst

/-- Where a stage ends that is looked for from a position on, or the outcome it fails with. -/
def Milestone.read (milestone : Milestone) (text : List Char) (start : Nat) :
    Except Outcome Nat :=
  match leftmost milestone.markers text start with
  | none => .error milestone.missing
  | some (m, stop) =>
    if m = milestone.marker then .ok stop
    else .error ((milestone.refusals.lookup m).getD milestone.missing)

/-- Where the last of several stages ends, or the outcome of the first one that fails. -/
def passage (text : List Char) : List Milestone → Nat → Except Outcome Nat
  | [], start => .ok start
  | milestone :: rest, start =>
    match milestone.read text start with
    | .ok stop => passage text rest stop
    | .error outcome => .error outcome

/-- The topic is created. -/
def topicCreated : Milestone where
  marker := .topicCreated
  refusals := [(.topicNameRequired, .topicNotCreated), (.parseError, .topicNotCreated),
    (.unrecognizedValue, .unrecognizedValue)]
  missing := .topicNotCreated

/-- The writer of a publisher is created. -/
def writerCreated : Milestone := ⟨.writerCreated, [], .writerNotCreated⟩

/-- A publisher has found a subscriber. -/
def publicationMatched : Milestone where
  marker := .publicationMatched
  refusals := [(.offeredIncompatibleQos, .incompatibleQos)]
  missing := .readerNotMatched

/-- A publisher that prints its samples has sent one. -/
def dataSent : Milestone := ⟨.data, [], .dataNotSent⟩

/-- The reader of a subscriber is created. -/
def readerCreated : Milestone :=
  ⟨.readerCreated, [(.filterFailed, .filterNotCreated)], .readerNotCreated⟩

/-- A subscriber has found a publisher. -/
def subscriptionMatched : Milestone where
  marker := .subscriptionMatched
  refusals := [(.requestedIncompatibleQos, .incompatibleQos)]
  missing := .writerNotMatched

/-- A subscriber knows that its publisher is alive. -/
def writerAlive : Milestone := ⟨.livelinessChanged, [], .writerNotAlive⟩

/-- A subscriber has received data. -/
def dataReceived : Milestone := ⟨.data, [], .dataNotReceived⟩

/-- The stages of a publisher that has its topic. -/
def publisherMilestones (reportsSamples : Bool) : List Milestone :=
  [writerCreated, publicationMatched] ++ if reportsSamples then [dataSent] else []

/-- The stages of a subscriber that has its topic. -/
def subscriberMilestones : List Milestone :=
  [readerCreated, subscriptionMatched, writerAlive, dataReceived]

/-- All stages of an entity. -/
def milestones (role : Role) (reportsSamples : Bool) : List Milestone :=
  topicCreated ::
    match role with
    | .publisher => publisherMilestones reportsSamples
    | .subscriber => subscriberMilestones

/-- The outcome of an entity whose data is not examined, read off all that it printed. -/
def outcomeOf (role : Role) (reportsSamples : Bool) (text : List Char) : Outcome :=
  match passage text (milestones role reportsSamples) 0 with
  | .ok _ => .ok
  | .error outcome => outcome

end Lifecycle

/-! ## One stage of an observer -/

/-- The observer has consumed the text before a position, and will not crash. -/
structure Observation.At (state : Observation) (text : List Char) (position : Nat) : Prop where
  crashAfter : state.crashAfter = none
  lined : state.console.Lined
  ahead : state.console.ahead = text.drop position

/-- Only the console and the log have changed, in a number of timed waits. -/
structure Observation.Waited (count : Nat) (state next : Observation) : Prop where
  crashAfter : next.crashAfter = state.crashAfter
  inbox : next.inbox = state.inbox
  outbox : next.outbox = state.outbox
  waits : next.waits = state.waits + count

theorem Observation.Waited.trans {m n : Nat} {first second third : Observation}
    (h : first.Waited m second) (h' : second.Waited n third) : first.Waited (m + n) third where
  crashAfter := h'.crashAfter.trans h.crashAfter
  inbox := h'.inbox.trans h.inbox
  outbox := h'.outbox.trans h.outbox
  waits := by rw [h'.waits, h.waits, Nat.add_assoc]

/-- A reply that says that nothing was found. -/
def Output.Reply.IsVain (reply : Output.Reply) : Prop :=
  reply = .timeout ∨ reply = .endOfOutput

theorem Output.Console.isVain_vainReply (console : Output.Console) :
    console.vainReply.IsVain := by
  unfold Console.vainReply
  cases console.isOpen
  · exact .inr rfl
  · exact .inl rfl

namespace Lifecycle

open Observing Output

/-- Waiting for the markers of a stage is waiting for patterns, with a message. -/
theorem result_await {state next : Observation} {markers : List Marker} {reply : Reply}
    (h : (expect (markers.map .marker)).result state = (.ok reply, next)) (stage : String) :
    ∃ log, (await stage markers).result state = (.ok reply, { next with log }) := by
  rw [await, result_bind_of_ok h]
  rcases reply with (_ | _) | _ | _ <;> exact ⟨_, rfl⟩

/-- With different markers, each one leads to its own outcome. -/
theorem lookup_of_nodup {refusals : List (Marker × Outcome)} {m : Marker} {outcome : Outcome}
    (h : (refusals.map Prod.fst).Nodup) (hmem : (m, outcome) ∈ refusals) :
    refusals.lookup m = some outcome := by
  obtain ⟨front, rest, rfl⟩ := List.append_of_mem hmem
  refine List.lookup_eq_some_iff.mpr ⟨front, rest, rfl, fun refusal hfront => ?_⟩
  rw [List.map_append] at h
  have hdisjoint := (List.nodup_append.mp h).2.2 refusal.1 (List.mem_map_of_mem hfront) m (by simp)
  simpa using fun heq => hdisjoint heq.symm

/-- An observer that waits for the markers of a milestone learns what reading the text says. -/
theorem result_await_milestone {state : Observation} {text : List Char} {start : Nat}
    (h : state.At text start) (milestone : Milestone) (hdistinct : milestone.markers.Nodup)
    (stage : String) :
    (∃ next stop, milestone.read text start = .ok stop ∧
      (await stage milestone.markers).result state = (.ok (.found 0), next) ∧
      next.At text stop ∧ state.Waited 1 next) ∨
    (∃ next i m outcome, milestone.read text start = .error outcome ∧
      milestone.refusals[i]? = some (m, outcome) ∧
      (await stage milestone.markers).result state = (.ok (.found (i + 1)), next) ∧
      state.Waited 1 next) ∨
    (∃ next reply, milestone.read text start = .error milestone.missing ∧ reply.IsVain ∧
      (await stage milestone.markers).result state = (.ok reply, next) ∧
      state.Waited 1 next) := by
  have hscan := scan_leftmost milestone.markers text [] start
  rw [← h.ahead] at hscan
  have hexpect := result_expect h.crashAfter (milestone.markers.map .marker)
  rw [Milestone.read]
  cases hleft : leftmost milestone.markers text start with
  | none =>
    rw [hleft] at hscan
    obtain ⟨console, hconsole, -⟩ := Console.expect_vain h.lined hscan
    rw [hconsole] at hexpect
    obtain ⟨log, hawait⟩ := result_await hexpect stage
    exact .inr (.inr ⟨_, _, rfl, Console.isVain_vainReply _, hawait, rfl, rfl, rfl, rfl⟩)
  | some found =>
    obtain ⟨m, stop⟩ := found
    rw [hleft] at hscan
    obtain ⟨hit, hhit, hindex, hrest⟩ := hscan
    obtain ⟨console, hconsole, hreached⟩ := Console.expect_found h.lined hhit
    rw [hconsole] at hexpect
    obtain ⟨log, hawait⟩ := result_await hexpect stage
    rw [Milestone.markers] at hindex hdistinct
    obtain ⟨hfresh, hrefusals⟩ := List.nodup_cons.mp hdistinct
    cases hcase : hit.index with
    | zero =>
      rw [hcase] at hindex hawait
      have hm : m = milestone.marker := (Option.some.inj hindex).symm
      exact .inl ⟨_, stop, if_pos hm, hawait,
        ⟨h.crashAfter, hreached.lined, hreached.ahead.trans hrest⟩, rfl, rfl, rfl, rfl⟩
    | succ i =>
      rw [hcase] at hindex hawait
      rw [List.getElem?_cons_succ, List.getElem?_map] at hindex
      obtain ⟨⟨m', outcome⟩, hget, rfl⟩ := Option.map_eq_some_iff.mp hindex
      have hmem := List.mem_of_getElem? hget
      -- the refusals are other markers than that of the stage, so the hit is told apart from it
      have hne : m' ≠ milestone.marker := by
        rintro rfl
        exact hfresh (List.mem_map.mpr ⟨_, hmem, rfl⟩)
      have hlookup := lookup_of_nodup hrefusals hmem
      refine .inr (.inl ⟨_, i, m', outcome, ?_, hget, hawait, rfl, rfl, rfl, rfl⟩)
      simp only [if_neg hne, hlookup, Option.getD_some]

/-! ## All stages -/

/-- Steps that walk through milestones and then go on with others. -/
def Passing (steps onward : Observing Outcome) (milestones : List Milestone) : Prop :=
  ∀ (state : Observation) (text : List Char) (start : Nat), state.At text start →
    match passage text milestones start with
    | .ok stop => ∃ next, steps.result state = onward.result next ∧ next.At text stop ∧
        state.Waited milestones.length next
    | .error outcome => ∃ next count, steps.result state = (.ok outcome, next) ∧
        state.Waited count next ∧ count ≤ milestones.length

/-- What an observer does after it has waited for the markers of a milestone: it goes on if the
first one was found, and else answers as the milestone says. -/
structure Handles (milestone : Milestone) (answer : Reply → Observing Outcome)
    (onward : Observing Outcome) : Prop where
  found : answer (.found 0) = onward
  refused : ∀ i m outcome, milestone.refusals[i]? = some (m, outcome) →
    answer (.found (i + 1)) = pure outcome
  timeout : answer .timeout = pure milestone.missing
  endOfOutput : answer .endOfOutput = pure milestone.missing

/-- A single stage: what is found leftmost decides whether it is passed. -/
theorem passing_await (milestone : Milestone) {answer : Reply → Observing Outcome}
    {onward : Observing Outcome} (stage : String) (hdistinct : milestone.markers.Nodup)
    (h : Handles milestone answer onward) :
    Passing (await stage milestone.markers >>= answer) onward [milestone] := by
  intro state text start hstate
  rw [passage]
  -- the stage is passed, refused or waited for in vain
  obtain ⟨next, stop, hread, heq, hat, hwaited⟩ |
    ⟨next, i, m, outcome, hread, hget, heq, hwaited⟩ |
    ⟨next, reply, hread, hvain, heq, hwaited⟩ :=
    result_await_milestone hstate milestone hdistinct stage
  · rw [hread]
    refine ⟨next, ?_, hat, hwaited⟩
    rw [result_bind_of_ok heq, h.found]
  · rw [hread]
    refine ⟨next, 1, ?_, hwaited, Nat.le_refl 1⟩
    rw [result_bind_of_ok heq, h.refused i m outcome hget, result_pure]
  · rw [hread]
    refine ⟨next, 1, ?_, hwaited, Nat.le_refl 1⟩
    rw [result_bind_of_ok heq]
    rcases hvain with rfl | rfl
    · rw [h.timeout, result_pure]
    · rw [h.endOfOutput, result_pure]

/-- Stages are passed one list after the other. -/
theorem passage_append (text : List Char) (first second : List Milestone) (start : Nat) :
    passage text (first ++ second) start =
      match passage text first start with
      | .ok stop => passage text second stop
      | .error outcome => .error outcome := by
  induction first generalizing start with
  | nil => rfl
  | cons milestone rest ih =>
    rw [List.cons_append, passage, passage]
    cases milestone.read text start with
    | ok stop => exact ih stop
    | error outcome => rfl

/-- An observer that goes through two lists of stages goes through both. -/
theorem Passing.trans {steps between onward : Observing Outcome} {first second : List Milestone}
    (h : Passing steps between first) (h' : Passing between onward second) :
    Passing steps onward (first ++ second) := by
  intro state text start hstate
  have hfirst := h state text start hstate
  rw [passage_append, List.length_append]
  cases hpass : passage text first start with
  | error outcome =>
    rw [hpass] at hfirst
    obtain ⟨next, count, heq, hwaited, hcount⟩ := hfirst
    exact ⟨next, count, heq, hwaited, by omega⟩
  | ok stop =>
    rw [hpass] at hfirst
    obtain ⟨next, heq, hnext, hwaited⟩ := hfirst
    -- the second part starts where the first one has ended
    have hsecond := h' next text stop hnext
    dsimp only
    cases hpass' : passage text second stop with
    | error outcome =>
      rw [hpass'] at hsecond
      obtain ⟨last, count, heq', hwaited', hcount⟩ := hsecond
      exact ⟨last, _, heq.trans heq', hwaited.trans hwaited', by omega⟩
    | ok stop' =>
      rw [hpass'] at hsecond
      obtain ⟨last, heq', hlast, hwaited'⟩ := hsecond
      exact ⟨last, heq.trans heq', hlast, hwaited.trans hwaited'⟩

/-- The last stage of a publisher that prints its samples. -/
def sendData : Observing Outcome := do
  match ← await "data sent" [.data] with
  | .found 0 => do
    recordSamples
    return .ok
  | _ => return .dataNotSent

/-- The last stage of a subscriber. -/
def receiveData (check : Check) : Observing Outcome := do
  match ← await "data received" [.data] with
  | .found 0 => Reception.examine check
  | _ => return .dataNotReceived

/-- A milestone that nothing refuses is handled by two answers. -/
theorem Handles.plain {marker : Marker} {missing : Outcome} {answer : Reply → Observing Outcome}
    {onward : Observing Outcome} (found : answer (.found 0) = onward)
    (timeout : answer .timeout = pure missing) (endOfOutput : answer .endOfOutput = pure missing) :
    Handles ⟨marker, [], missing⟩ answer onward where
  found := found
  refused := by simp
  timeout := timeout
  endOfOutput := endOfOutput

/-- A milestone with one refusal is handled by three answers. -/
theorem Handles.refusable {marker refusal : Marker} {missing refused : Outcome}
    {answer : Reply → Observing Outcome} {onward : Observing Outcome}
    (found : answer (.found 0) = onward) (hrefused : answer (.found 1) = pure refused)
    (timeout : answer .timeout = pure missing) (endOfOutput : answer .endOfOutput = pure missing) :
    Handles ⟨marker, [(refusal, refused)], missing⟩ answer onward where
  found := found
  refused i m outcome hget := by
    cases i with
    | zero =>
      obtain ⟨-, rfl⟩ := Prod.mk.inj (Option.some.inj hget)
      exact hrefused
    | succ i => simp at hget
  timeout := timeout
  endOfOutput := endOfOutput

theorem passing_publish (reportsSamples : Bool) :
    Passing (publish reportsSamples) (if reportsSamples then sendData else pure .ok)
      [writerCreated, publicationMatched] := by
  refine (passing_await writerCreated "writer created" (by decide) (.plain rfl rfl rfl)).trans
    (passing_await publicationMatched "publication matched" (by decide)
      (.refusable ?_ rfl rfl rfl))
  cases reportsSamples <;> rfl

theorem passing_sendData :
    Passing sendData (do recordSamples; return .ok) [dataSent] :=
  passing_await dataSent "data sent" (by decide) (.plain rfl rfl rfl)

theorem passing_subscribe (check : Check) :
    Passing (subscribe check) (receiveData check)
      [readerCreated, subscriptionMatched, writerAlive] := by
  show Passing _ _ ([readerCreated] ++ [subscriptionMatched, writerAlive])
  refine (passing_await readerCreated "reader created" (by decide)
    (.refusable rfl rfl rfl rfl)).trans ?_
  refine (passing_await subscriptionMatched "subscription matched" (by decide)
    (.refusable rfl rfl rfl rfl)).trans ?_
  exact passing_await writerAlive "writer alive" (by decide) (.plain rfl rfl rfl)

theorem passing_receiveData (check : Check) :
    Passing (receiveData check) (Reception.examine check) [dataReceived] :=
  passing_await dataReceived "data received" (by decide) (.plain rfl rfl rfl)

/-- What an entity does that has its topic. -/
def proceed (plan : Plan) : Observing Outcome :=
  match plan.role with
  | .publisher => publish plan.reportsSamples
  | .subscriber => subscribe plan.check

/-- Either role begins with its topic. -/
theorem passing_stages (plan : Plan) : Passing (stages plan) (proceed plan) [topicCreated] := by
  refine passing_await topicCreated "topic created" (by decide) ⟨rfl, ?_, rfl, rfl⟩
  intro i m outcome hget
  match i, hget with
  | 0, hget => obtain ⟨-, rfl⟩ := Prod.mk.inj (Option.some.inj hget); rfl
  | 1, hget => obtain ⟨-, rfl⟩ := Prod.mk.inj (Option.some.inj hget); rfl
  | 2, hget => obtain ⟨-, rfl⟩ := Prod.mk.inj (Option.some.inj hget); rfl

/-- What an entity whose data is not examined does after its last stage. -/
def afterData (role : Role) (reportsSamples : Bool) : Observing Outcome :=
  if role = .publisher ∧ reportsSamples then do recordSamples; return .ok else return .ok

/-- Without a check, the stages of either role are its milestones. -/
theorem passing_noCheck (role : Role) (reportsSamples : Bool) :
    Passing (stages ⟨role, reportsSamples, .noCheck⟩) (afterData role reportsSamples)
      (milestones role reportsSamples) := by
  have htopic := passing_stages ⟨role, reportsSamples, .noCheck⟩
  cases role with
  | publisher =>
    have hpublish := htopic.trans (passing_publish reportsSamples)
    cases reportsSamples with
    | false => exact hpublish
    | true => exact hpublish.trans passing_sendData
  | subscriber =>
    exact (htopic.trans (passing_subscribe .noCheck)).trans (passing_receiveData .noCheck)

/-- Behind the data nothing is decided any more without a check. -/
theorem calm_afterData (role : Role) (reportsSamples : Bool) :
    ∀ state : Observation, state.crashAfter = none →
      ∃ next, (afterData role reportsSamples).result state = (.ok .ok, next) := by
  intro state hstate
  unfold afterData
  split
  · obtain ⟨_, next, heq, -⟩ := calm_recordSamples state hstate
    exact ⟨next, result_bind_of_ok heq _⟩
  · exact ⟨state, rfl⟩

theorem start_at (lines : List (List Char)) (isOpen : Bool) (inbox : List SampleQueue)
    (outbox : Option SampleQueue) :
    (Observation.start (.ofLines lines isOpen) inbox outbox).At (joinLines lines) 0 :=
  ⟨rfl, .inl rfl, rfl⟩

/-- The outcome of an entity is what its whole output says, in whatever lines it is printed, and
whether or not more may follow. -/
theorem observe_eq_outcomeOf (role : Role) (reportsSamples : Bool) (lines : List (List Char))
    (isOpen : Bool) (inbox : List SampleQueue) (outbox : Option SampleQueue) :
    ((observe ⟨role, reportsSamples, .noCheck⟩).result
        (.start (.ofLines lines isOpen) inbox outbox)).1 =
      .ok (outcomeOf role reportsSamples (joinLines lines)) := by
  have hpassing := passing_noCheck role reportsSamples _ _ _ (start_at lines isOpen inbox outbox)
  rw [outcomeOf]
  cases hpass : passage (joinLines lines) (milestones role reportsSamples) 0 with
  | error outcome =>
    rw [hpass] at hpassing
    obtain ⟨next, count, heq, -⟩ := hpassing
    rw [observe, result_bind_of_ok heq]
    rfl
  | ok stop =>
    rw [hpass] at hpassing
    obtain ⟨next, heq, hat, -⟩ := hpassing
    obtain ⟨last, hlast⟩ := calm_afterData role reportsSamples next hat.crashAfter
    rw [observe, result_bind_of_ok (heq.trans hlast)]
    rfl

end Lifecycle

end PubSubTrials
