import PubSubTrials.Proofs.Stages

/-!
# What the checks conclude from what was printed

A subscriber's output falls into windows, each of which ends with a data marker, and a window shows
at most one sample. The checks go through these windows while they take samples from the queues of
the publishers. Here both are separated: `verdict` is what a check concludes from the samples
received and from the queues as they were, and `remaining` is what it leaves in the queues.
-/

namespace PubSubTrials

open Output Observing

/-! ## Windows -/

namespace Reception

/-- The windows of a text, at most `limit` of them. -/
def windows : Nat → List Char → List (List Char)
  | 0, _ => []
  | limit + 1, text =>
    match scan [.marker .data] [] text with
    | none => []
    | some hit => (hit.before ++ hit.matched) :: windows limit hit.rest

/-- The samples that the windows of a text show. -/
def received (limit : Nat) (text : List Char) : List (Option Sample) :=
  (windows limit text).map Sample.findLast

theorem received_of_none {text : List Char} (h : scan [.marker .data] [] text = none)
    (limit : Nat) : received limit text = [] := by
  cases limit with
  | zero => rfl
  | succ limit => rw [received, windows, h, List.map_nil]

/-- What is received begins with the last token up to the first data line. -/
theorem received_of_some {text : List Char} {hit : Hit}
    (h : scan [.marker .data] [] text = some hit) (limit : Nat) :
    received (limit + 1) text =
      Sample.findLast (hit.before ++ hit.matched) :: received limit hit.rest := by
  rw [received, windows, h, List.map_cons, received]

/-! ## Verdicts -/

/-- Whether samples received agree with those sent, one by one, as far as there are both. -/
def inOrder : List (Option Sample) → List Sample → Bool
  | seen :: more, sent :: rest => seen == some sent && inOrder more rest
  | _, _ => true

/-- How many samples sent are looked at until one disagrees with the sample received. -/
def compared : List (Option Sample) → List Sample → Nat
  | seen :: more, sent :: rest => if seen = some sent then compared more rest + 1 else 1
  | _, _ => 0

/-- Account for what a window shows. -/
def Sources.account (sources : Sources) : Option Sample → Sources
  | some sample => sources.see sample
  | none => sources

/-- Whether samples received tell that both publishers were seen after each other, when those of
the second one are known. -/
def fromBoth (second : List Sample) (seen : List (Option Sample)) : Bool :=
  (seen.foldl Sources.account { Sources.unknown with second }).both

end Reception

/-- A queue from which the first samples were taken. -/
def SampleQueue.skip (queue : SampleQueue) (count : Nat) : SampleQueue :=
  { queue with queued := queue.queued.drop count }

@[simp] theorem SampleQueue.skip_zero (queue : SampleQueue) : queue.skip 0 = queue := rfl

theorem SampleQueue.skip_skip (queue : SampleQueue) (m n : Nat) :
    (queue.skip m).skip n = queue.skip (m + n) := by
  rw [skip, skip, skip, List.drop_drop]

/-- The samples in the queue of a publisher. -/
def queuedBy (publisher : Nat) (queues : List SampleQueue) : List Sample :=
  (queues[publisher]?.map SampleQueue.queued).getD []

namespace Reception

/-- How many windows a check looks at. -/
def reach : Check → Nat
  | .noCheck => 1
  | .orderingCheck => orderedSamples
  | .multiSourceCheck => sourceWindows

/-- What a check concludes from the samples received and the queues of the publishers. -/
def verdict (check : Check) (queues : List SampleQueue) (seen : List (Option Sample)) : Outcome :=
  match check with
  | .noCheck => .ok
  | .orderingCheck => if inOrder seen (queuedBy 0 queues) then .ok else .dataNotCorrect
  | .multiSourceCheck =>
    if fromBoth (queuedBy 1 queues) seen then .receivingFromBoth else .receivingFromOne

/-- What a subscriber leaves in the queues: they are as before if it received nothing. -/
def remaining (check : Check) (queues : List SampleQueue) (seen : List (Option Sample)) :
    List SampleQueue :=
  if seen.isEmpty then queues
  else
    match check with
    | .noCheck => queues
    | .orderingCheck => queues.modify 0 (fun queue => queue.skip (compared seen queue.queued))
    | .multiSourceCheck => queues.modify 1 (fun queue => queue.skip queue.queued.length)

end Reception

/-! ## Waiting for the next window -/

/-- The window that the observer looks at. -/
def Observation.current (state : Observation) : List Char :=
  state.console.before ++ state.console.after

/-- A text is ahead of an observer that will not crash. -/
structure Observation.Faces (state : Observation) (text : List Char) : Prop where
  crashAfter : state.crashAfter = none
  ahead : state.console.ahead = text

theorem Observation.At.faces {state : Observation} {text : List Char} {position : Nat}
    (h : state.At text position) : state.Faces (text.drop position) :=
  ⟨h.crashAfter, h.ahead⟩

/-- Only the console decides what is ahead of an observer that will not crash. -/
theorem Observation.Faces.of_console_eq {state next : Observation} {text : List Char}
    (h : state.Faces text) (hconsole : next.console = state.console)
    (hcrash : next.crashAfter = state.crashAfter) : next.Faces text where
  crashAfter := hcrash.trans h.crashAfter
  ahead := by
    rw [hconsole]
    exact h.ahead

/-- A hit of the only pattern has its index. -/
theorem Output.index_of_scan {pattern : Pattern} {passed text : List Char} {hit : Hit}
    (h : scan [pattern] passed text = some hit) : hit.index = 0 := by
  obtain ⟨-, rest, n, -, hfirst, -⟩ := scan_eq_some h
  obtain ⟨-, found, hget, -⟩ := Pattern.firstAt?_eq_some hfirst
  have hlt := (List.getElem?_eq_some_iff.mp hget).1
  rw [List.length_singleton] at hlt
  omega

/-- A data marker has four characters. -/
theorem Output.uniform_data : Pattern.Uniform [.marker .data] 4 := by
  intro pattern hpattern form hform
  obtain rfl := List.mem_singleton.mp hpattern
  obtain rfl := List.mem_singleton.mp hform
  rfl

/-- The observer waits for the next data marker, if there is one. -/
theorem Observing.result_expect_data {state : Observation} {text : List Char}
    (h : state.Faces text) :
    match scan [.marker .data] [] text with
    | none => ∃ reply next, (expect [.marker .data]).result state = (.ok reply, next) ∧
        reply.IsVain ∧ state.Waited 1 next
    | some hit => ∃ next, (expect [.marker .data]).result state = (.ok (.found 0), next) ∧
        state.Waited 1 next ∧ next.Faces hit.rest ∧ next.console.before = hit.before ∧
        next.console.after = hit.matched := by
  have hexpect := result_expect h.crashAfter [.marker .data]
  have hsearch := Console.expect_uniform uniform_data (by decide)
    (Console.brief_markers [.data]) state.console
  rw [h.ahead, Console.SearchesAll] at hsearch
  generalize state.console.expect [.marker .data] = answer at hexpect hsearch
  obtain ⟨reply, console⟩ := answer
  cases hscan : scan [.marker .data] [] text with
  | none =>
    rw [hscan] at hsearch
    obtain rfl : reply = state.console.vainReply := hsearch
    exact ⟨_, _, hexpect, Console.isVain_vainReply _, rfl, rfl, rfl, rfl⟩
  | some hit =>
    rw [hscan] at hsearch
    obtain ⟨hreply, hahead, hbefore, hafter⟩ := hsearch
    obtain rfl : reply = .found 0 := hreply.trans (congrArg Reply.found (index_of_scan hscan))
    exact ⟨_, hexpect, ⟨rfl, rfl, rfl, rfl⟩, ⟨h.crashAfter, hahead⟩, hbefore, hafter⟩

namespace Reception

/-- The samples that an observer comes to see in `limit` windows, the current one being the first
of them, when the text is still ahead. -/
def shown (state : Observation) (text : List Char) : Nat → List (Option Sample)
  | 0 => []
  | limit + 1 => Sample.findLast state.current :: received limit text

/-- What is ahead of an observer is what it sees once it has gone on to the next window. -/
theorem received_eq_shown {text : List Char} {hit : Hit} {next : Observation}
    (h : scan [.marker .data] [] text = some hit)
    (hcurrent : next.current = hit.before ++ hit.matched) (limit : Nat) :
    received limit text = shown next hit.rest limit := by
  cases limit with
  | zero => rfl
  | succ limit => rw [received_of_some h, shown, hcurrent]

theorem result_currentSample (state : Observation) :
    currentSample.result state = (.ok (Sample.findLast state.current), state) := rfl

/-- The observer goes on to the next window, if there is one. -/
theorem result_nextData {state : Observation} {text : List Char} (h : state.Faces text) :
    match scan [.marker .data] [] text with
    | none => ∃ next, nextData.result state = (.ok false, next) ∧ state.Waited 1 next
    | some hit => ∃ next, nextData.result state = (.ok true, next) ∧ state.Waited 1 next ∧
        next.Faces hit.rest ∧ next.current = hit.before ++ hit.matched := by
  have hexpect := fun log => @result_expect_data { state with log } text ⟨h.crashAfter, h.ahead⟩
  rw [nextData, result_bind_of_ok (result_note ..)]
  cases hscan : scan [.marker .data] [] text with
  | none =>
    simp only [hscan] at hexpect
    obtain ⟨reply, next, hresult, hvain, hwaited⟩ := hexpect _
    rw [result_bind_of_ok hresult]
    rcases hvain with rfl | rfl <;>
      exact ⟨next, rfl, hwaited.crashAfter, hwaited.inbox, hwaited.outbox, hwaited.waits⟩
  | some hit =>
    simp only [hscan] at hexpect
    obtain ⟨next, hresult, hwaited, hfaces, hbefore, hafter⟩ := hexpect _
    rw [result_bind_of_ok hresult]
    refine ⟨next, rfl, ?_, hfaces, ?_⟩
    · exact ⟨hwaited.crashAfter, hwaited.inbox, hwaited.outbox, hwaited.waits⟩
    · rw [Observation.current, hbefore, hafter]

/-! ## The ordering check -/

section Ordering

variable {state : Observation} {text : List Char} {queue : SampleQueue}
  {others : List SampleQueue} {sent : Sample} {rest : List Sample}

/-- With nothing left in the queue the comparison is over, and all was in order. -/
theorem result_compareOrder_starved (hinbox : state.inbox = queue :: others)
    (hqueue : queue.queued = []) (left : Nat) :
    ∃ next, (compareOrder (left + 1)).result state = (.ok .ok, next) ∧
      next.inbox = state.inbox := by
  have htake : (take 0).result state =
      (.ok none, { state with inbox := queue :: others, waits := state.waits + 1 }) := by
    rw [take, result_update, hinbox]
    simp [SampleQueue.take, hqueue]
  rw [compareOrder, result_bind_of_ok htake]
  exact ⟨_, rfl, hinbox.symm⟩

theorem result_take_zero (hinbox : state.inbox = queue :: others)
    (hqueue : queue.queued = sent :: rest) :
    (take 0).result state =
      (.ok (some sent), { state with
        inbox := queue.skip 1 :: others
        waits := state.waits + 1 }) := by
  rw [take, result_update, hinbox]
  simp [SampleQueue.take, SampleQueue.skip, hqueue]

/-- A sample that is not the one sent ends the comparison, and the one sent is gone. -/
theorem result_compareOrder_of_ne (hinbox : state.inbox = queue :: others)
    (hqueue : queue.queued = sent :: rest) (hne : Sample.findLast state.current ≠ some sent)
    (left : Nat) :
    ∃ next, (compareOrder (left + 1)).result state = (.ok .dataNotCorrect, next) ∧
      next.inbox = queue.skip 1 :: others := by
  rw [compareOrder, result_bind_of_ok (result_take_zero hinbox hqueue)]
  dsimp only
  rw [result_bind_of_ok (result_currentSample _), if_pos]
  · exact ⟨_, rfl, rfl⟩
  · exact hne

/-- A sample that is the one sent has the comparison go on with the next window, if there is one. -/
theorem result_compareOrder_of_eq (h : state.Faces text) (hinbox : state.inbox = queue :: others)
    (hqueue : queue.queued = sent :: rest) (heq : Sample.findLast state.current = some sent)
    (left : Nat) :
    match scan [.marker .data] [] text with
    | none => ∃ next, (compareOrder (left + 1)).result state = (.ok .ok, next) ∧
        next.inbox = queue.skip 1 :: others
    | some hit => ∃ next, (compareOrder (left + 1)).result state = (compareOrder left).result next ∧
        next.inbox = queue.skip 1 :: others ∧ next.Faces hit.rest ∧
        next.current = hit.before ++ hit.matched := by
  -- the sample is taken before the next window is looked for
  have hnext := @result_nextData { state with
    inbox := queue.skip 1 :: others
    waits := state.waits + 1 } text ⟨h.crashAfter, h.ahead⟩
  rw [compareOrder, result_bind_of_ok (result_take_zero hinbox hqueue)]
  dsimp only
  rw [result_bind_of_ok (result_currentSample _), if_neg (fun hne => hne heq)]
  cases hscan : scan [.marker .data] [] text with
  | none =>
    rw [hscan] at hnext
    obtain ⟨next, hresult, hwaited⟩ := hnext
    rw [result_bind_of_ok hresult]
    exact ⟨_, rfl, hwaited.inbox⟩
  | some hit =>
    rw [hscan] at hnext
    obtain ⟨next, hresult, hwaited, hfaces, hcurrent⟩ := hnext
    rw [result_bind_of_ok hresult]
    exact ⟨_, rfl, hwaited.inbox, hfaces, hcurrent⟩

theorem inOrder_nil (sent : List Sample) : inOrder [] sent = true := by
  cases sent <;> rfl

theorem compared_nil (sent : List Sample) : compared [] sent = 0 := by
  cases sent <;> rfl

/-- The ordering check compares the samples that it comes to see with those in the queue. -/
theorem result_compareOrder (left : Nat) (h : state.Faces text)
    (hinbox : state.inbox = queue :: others) :
    ∃ next, (compareOrder left).result state =
        (.ok (if inOrder (shown state text left) queue.queued then .ok else .dataNotCorrect),
          next) ∧
      next.inbox = queue.skip (compared (shown state text left) queue.queued) :: others := by
  -- induction on the windows that may still be compared
  induction left generalizing state text queue with
  | zero =>
    refine ⟨state, ?_, ?_⟩
    · rw [shown, inOrder_nil]
      rfl
    · rw [shown, compared_nil, hinbox]
      rfl
  | succ left ih =>
    rw [shown]
    cases hqueue : queue.queued with
    | nil =>
      obtain ⟨next, hresult, hnext⟩ := result_compareOrder_starved hinbox hqueue left
      exact ⟨next, hresult, hnext.trans hinbox⟩
    | cons sent rest =>
      by_cases heq : Sample.findLast state.current = some sent
      · -- both agree, so the check goes on with the next window and the rest of the queue
        have hstep := result_compareOrder_of_eq h hinbox hqueue heq left
        have hrest : (queue.skip 1).queued = rest := by
          rw [SampleQueue.skip, hqueue]
          rfl
        rw [inOrder, compared, if_pos heq, heq, beq_self_eq_true, Bool.true_and]
        cases hscan : scan [.marker .data] [] text with
        | none =>
          rw [hscan] at hstep
          rw [received_of_none hscan, inOrder_nil, compared_nil]
          exact hstep
        | some hit =>
          rw [hscan] at hstep
          obtain ⟨between, hresult, hbetween, hfaces, hcurrent⟩ := hstep
          obtain ⟨next, hloop, hnext⟩ := ih hfaces hbetween
          rw [hresult, hloop, received_eq_shown hscan hcurrent left, hrest]
          refine ⟨next, rfl, ?_⟩
          rw [hnext, hrest, SampleQueue.skip_skip, Nat.add_comm]
      · have hne : (Sample.findLast state.current == some sent) = false := by
          rw [beq_eq_false_iff_ne]
          exact heq
        rw [inOrder, compared, if_neg heq, hne, Bool.false_and]
        -- the first disagreement ends the check
        exact result_compareOrder_of_ne hinbox hqueue heq left

end Ordering

/-! ## The multi-source check -/

theorem both_account {sources : Sources} (h : sources.both = true) (seen : Option Sample) :
    (sources.account seen).both = true := by
  rw [Sources.both, Bool.and_eq_true] at h
  cases seen with
  | none => simp [Sources.account, Sources.both, h]
  | some sample =>
    rw [Sources.account, Sources.see]
    split <;> simp [Sources.both, h]

/-- What has been found out stays so. -/
theorem both_foldl_account {sources : Sources} (h : sources.both = true)
    (seen : List (Option Sample)) : (seen.foldl Sources.account sources).both = true := by
  induction seen generalizing sources with
  | nil => exact h
  | cons sample rest ih => exact ih (both_account h sample)

@[simp] theorem second_account (sources : Sources) (seen : Option Sample) :
    (sources.account seen).second = sources.second := by
  cases seen with
  | none => rfl
  | some sample =>
    rw [Sources.account, Sources.see]
    split <;> rfl

/-- Whether the second publisher has stopped reporting makes no difference to what is seen. -/
theorem account_exhausted (sources : Sources) (seen : Option Sample) :
    { sources with exhausted := true }.account seen =
      { sources.account seen with exhausted := true } := by
  cases seen with
  | none => rfl
  | some sample =>
    simp only [Sources.account, Sources.see]
    split <;> rfl

/-- That the second queue has been drained does not enter into which sources are seen. -/
theorem both_foldl_exhausted (sources : Sources) (seen : List (Option Sample)) :
    (seen.foldl Sources.account { sources with exhausted := true }).both =
      (seen.foldl Sources.account sources).both := by
  induction seen generalizing sources with
  | nil => rfl
  | cons sample rest ih =>
    rw [List.foldl_cons, List.foldl_cons, account_exhausted, ih]

/-- Without a sample of the second publisher everything comes from the first. -/
theorem fromBoth_nil (seen : List (Option Sample)) : fromBoth [] seen = false := by
  -- a sample that is not known to be of the second publisher counts as one of the first
  have hfirst : ∀ sources : Sources, sources.second = [] → sources.secondSeen = false →
      sources.secondReceived = false → (seen.foldl Sources.account sources).both = false := by
    induction seen with
    | nil =>
      intro sources _ _ hreceived
      simp [Sources.both, hreceived]
    | cons sample rest ih =>
      intro sources hsecond hseen hreceived
      cases sample with
      | none => exact ih sources hsecond hseen hreceived
      | some sample =>
        refine ih _ ?_ ?_ ?_ <;>
          simp [Sources.account, Sources.see, hsecond, hseen, hreceived]
  exact hfirst _ rfl rfl rfl

/-- What the multi-source check does once it knows what there is of the second publisher. -/
def look (known : Sources) (left : Nat) : Observing Outcome := do
  let sources := known.account (← currentSample)
  if sources.both then return .receivingFromBoth
  else if ← nextData then tellSources sources left
  else return .receivingFromOne

/-- With the sources known so far, the next look decides. -/
theorem result_tellSources_of_some {sources known : Sources} {state next : Observation}
    (h : (collectSecond sources).result state = (.ok (some known), next)) (left : Nat) :
    (tellSources sources (left + 1)).result state = (look known left).result next := by
  rw [tellSources, result_bind_of_ok h]
  dsimp only
  rw [look, result_bind_of_ok (result_currentSample next),
    result_bind_of_ok (result_currentSample next)]
  cases Sample.findLast next.current <;> rfl

section Sources

variable {state : Observation} {text : List Char} {first second : SampleQueue}
  {others : List SampleQueue} {known : Sources}

theorem result_take_one (hinbox : state.inbox = first :: second :: others) :
    (take 1).result state =
      (.ok second.take.1, { state with
        inbox := first :: second.take.2 :: others
        waits := state.waits + 1 }) := by
  rw [take, result_update, hinbox]
  rfl

theorem result_drain_one (hinbox : state.inbox = first :: second :: others) :
    (drain 1).result state =
      (.ok second.queued, { state with
        inbox := first :: second.skip second.queued.length :: others }) := by
  rw [drain, result_update, hinbox]
  simp [SampleQueue.drain, SampleQueue.skip]

/-- Nothing more is learned about the second publisher when its queue is empty. -/
theorem result_collectSecond_of_empty (hinbox : state.inbox = first :: second :: others)
    (hempty : second.queued = []) (hknown : known.second ≠ []) :
    ∃ next, (collectSecond known).result state =
        (.ok (some { known with exhausted := true }), next) ∧
      next.inbox = state.inbox ∧ next.console = state.console ∧
      next.crashAfter = state.crashAfter := by
  -- draining an empty queue gives nothing, however long it was waited for
  have hdrain : ∀ waits, (drain 1).result { state with waits } =
      (.ok [], { state with waits }) := by
    intro waits
    have hdrain := @result_drain_one { state with waits } first second others hinbox
    rw [hempty, List.length_nil, SampleQueue.skip_zero, ← hinbox] at hdrain
    exact hdrain
  unfold collectSecond
  cases hexhausted : known.exhausted with
  | true =>
    rw [if_pos rfl, result_bind_of_ok (hdrain state.waits), result_pure, Sources.collect,
      List.append_nil, ← hexhausted]
    exact ⟨_, rfl, rfl, rfl, rfl⟩
  | false =>
    have htake := @result_take_one state first second others hinbox
    have hnone : second.take = (none, second) := by
      rw [SampleQueue.take, hempty]
    rw [hnone, ← hinbox] at htake
    rw [if_neg Bool.false_ne_true, result_bind_of_ok htake]
    dsimp only
    rw [if_neg (by simpa using hknown), result_bind_of_ok (hdrain _), result_pure,
      Sources.collect, List.append_nil]
    exact ⟨_, rfl, rfl, rfl, rfl⟩

/-- At first all that the second publisher has reported is learned. -/
theorem result_collectSecond_unknown (hinbox : state.inbox = first :: second :: others)
    (hsome : second.queued ≠ []) :
    ∃ next, (collectSecond .unknown).result state =
        (.ok (some { Sources.unknown with second := second.queued }), next) ∧
      next.inbox = first :: second.skip second.queued.length :: others ∧
      next.console = state.console ∧ next.crashAfter = state.crashAfter := by
  obtain ⟨sample, rest, hqueue⟩ := List.exists_cons_of_ne_nil hsome
  have htake := @result_take_one state first second others hinbox
  have hhead : second.take = (some sample, second.skip 1) := by
    rw [SampleQueue.take, SampleQueue.skip, hqueue]
    rfl
  rw [hhead] at htake
  have hrest : (second.skip 1).queued = rest := by
    rw [SampleQueue.skip, hqueue]
    rfl
  have hdrain := @result_drain_one { state with
    inbox := first :: second.skip 1 :: others
    waits := state.waits + 1 } first (second.skip 1) others rfl
  rw [hrest, SampleQueue.skip_skip] at hdrain
  rw [collectSecond, if_neg (by decide), result_bind_of_ok htake]
  dsimp only
  rw [result_bind_of_ok hdrain, result_pure, hqueue, List.length_cons, Nat.add_comm rest.length]
  exact ⟨_, rfl, rfl, rfl, rfl⟩

/-- Without a sample in the second queue there is no way to know of both sources, and nothing has
been taken. -/
theorem result_collectSecond_starved (hinbox : state.inbox = first :: second :: others)
    (hempty : second.queued = []) :
    ∃ next, (collectSecond .unknown).result state = (.ok none, next) ∧
      next.inbox = state.inbox := by
  have htake := @result_take_one state first second others hinbox
  have hnone : second.take = (none, second) := by
    rw [SampleQueue.take, hempty]
  rw [hnone] at htake
  rw [collectSecond, if_neg (by decide), result_bind_of_ok htake]
  exact ⟨_, rfl, hinbox.symm⟩

/-- The look ends as soon as both sources have been seen. -/
theorem result_look_of_both
    (hboth : (known.account (Sample.findLast state.current)).both = true) (left : Nat) :
    (look known left).result state = (.ok .receivingFromBoth, state) := by
  rw [look, result_bind_of_ok (result_currentSample state)]
  dsimp only
  rw [if_pos hboth, result_pure]

/-- With one source only, the look goes on to the next window, or ends when there is none. -/
theorem result_look_of_not_both (h : state.Faces text)
    (hboth : (known.account (Sample.findLast state.current)).both = false) (left : Nat) :
    match scan [.marker .data] [] text with
    | none => ∃ next, (look known left).result state = (.ok .receivingFromOne, next) ∧
        next.inbox = state.inbox
    | some hit => ∃ next, (look known left).result state =
          (tellSources (known.account (Sample.findLast state.current)) left).result next ∧
        next.inbox = state.inbox ∧ next.Faces hit.rest ∧
        next.current = hit.before ++ hit.matched := by
  have hnext := result_nextData h
  rw [look, result_bind_of_ok (result_currentSample state)]
  dsimp only
  rw [hboth, if_neg Bool.false_ne_true]
  cases hscan : scan [.marker .data] [] text with
  | none =>
    rw [hscan] at hnext
    obtain ⟨next, hresult, hwaited⟩ := hnext
    rw [result_bind_of_ok hresult]
    exact ⟨next, rfl, hwaited.inbox⟩
  | some hit =>
    rw [hscan] at hnext
    obtain ⟨next, hresult, hwaited, hfaces, hcurrent⟩ := hnext
    rw [result_bind_of_ok hresult]
    exact ⟨next, rfl, hwaited.inbox, hfaces, hcurrent⟩

/-- Once all of the second publisher is known, the check accounts for the samples that it comes to
see. -/
theorem result_look (left : Nat) (h : state.Faces text)
    (hinbox : state.inbox = first :: second :: others) (hempty : second.queued = [])
    (hknown : known.second ≠ []) :
    ∃ next, (look known left).result state =
        (.ok (if ((shown state text (left + 1)).foldl Sources.account known).both
          then .receivingFromBoth else .receivingFromOne), next) ∧
      next.inbox = state.inbox := by
  induction left generalizing state text known with
  | zero =>
    rw [shown, received, windows, List.map_nil, List.foldl_cons, List.foldl_nil]
    cases hboth : (known.account (Sample.findLast state.current)).both with
    | true => exact ⟨state, result_look_of_both hboth 0, rfl⟩
    | false =>
      have hstep := result_look_of_not_both h hboth 0
      cases hscan : scan [.marker .data] [] text with
      | none =>
        rw [hscan] at hstep
        exact hstep
      | some hit =>
        rw [hscan] at hstep
        obtain ⟨next, hresult, hnext, -⟩ := hstep
        exact ⟨next, hresult, hnext⟩
  | succ left ih =>
    rw [shown, List.foldl_cons]
    cases hboth : (known.account (Sample.findLast state.current)).both with
    | true =>
      rw [both_foldl_account hboth]
      exact ⟨state, result_look_of_both hboth _, rfl⟩
    | false =>
      have hstep := result_look_of_not_both h hboth (left + 1)
      cases hscan : scan [.marker .data] [] text with
      | none =>
        rw [hscan] at hstep
        rw [received_of_none hscan, List.foldl_nil, hboth]
        exact hstep
      | some hit =>
        rw [hscan] at hstep
        obtain ⟨between, hresult, hbetween, hfaces, hcurrent⟩ := hstep
        have hsecond : (known.account (Sample.findLast state.current)).second ≠ [] := by
          rwa [second_account]
        -- the queue is empty by now, so collecting changes nothing that is ever looked at
        obtain ⟨collected, hcollect, hinbox', hconsole, hcrash⟩ :=
          result_collectSecond_of_empty (hbetween.trans hinbox) hempty hsecond
        have hfaces' := hfaces.of_console_eq hconsole hcrash
        have hcurrent' : collected.current = hit.before ++ hit.matched := by
          rw [Observation.current, hconsole]
          exact hcurrent
        obtain ⟨next, hlook, hnext⟩ := @ih collected hit.rest
          { known.account (Sample.findLast state.current) with exhausted := true } hfaces'
          (hinbox'.trans (hbetween.trans hinbox)) hsecond
        rw [both_foldl_exhausted, ← received_eq_shown hscan hcurrent' (left + 1)] at hlook
        refine ⟨next, ?_, hnext.trans (hinbox'.trans hbetween)⟩
        rw [hresult, result_tellSources_of_some hcollect, hlook]

/-- The multi-source check goes by the samples that it comes to see and those of the second
publisher. -/
theorem result_tellSources (left : Nat) (h : state.Faces text)
    (hinbox : state.inbox = first :: second :: others) :
    ∃ next, (tellSources .unknown (left + 1)).result state =
        (.ok (if fromBoth second.queued (shown state text (left + 1))
          then .receivingFromBoth else .receivingFromOne), next) ∧
      next.inbox = first :: second.skip second.queued.length :: others := by
  by_cases hempty : second.queued = []
  · obtain ⟨next, hcollect, hnext⟩ := result_collectSecond_starved hinbox hempty
    rw [tellSources, result_bind_of_ok hcollect, hempty, fromBoth_nil]
    exact ⟨next, rfl, hnext.trans hinbox⟩
  · obtain ⟨between, hcollect, hbetween, hconsole, hcrash⟩ :=
      result_collectSecond_unknown hinbox hempty
    have hfaces := h.of_console_eq hconsole hcrash
    have hdrained : (second.skip second.queued.length).queued = [] :=
      List.drop_length
    have hknown : ({ Sources.unknown with second := second.queued } : Sources).second ≠ [] :=
      hempty
    obtain ⟨next, hlook, hnext⟩ := result_look left hfaces hbetween hdrained hknown
    have hshown : shown between text (left + 1) = shown state text (left + 1) := by
      rw [shown, shown, Observation.current, hconsole, Observation.current]
    refine ⟨next, ?_, hnext.trans hbetween⟩
    rw [result_tellSources_of_some hcollect, hlook, hshown, fromBoth]

end Sources

/-! ## All checks -/

/-- What a check concludes, and what it leaves behind. -/
theorem result_examine (check : Check) {state : Observation} {text : List Char}
    (h : state.Faces text) (hneeded : check.publishersNeeded ≤ state.inbox.length) :
    ∃ next, (examine check).result state =
        (.ok (verdict check state.inbox (shown state text (reach check))), next) ∧
      next.inbox = remaining check state.inbox (shown state text (reach check)) := by
  cases check with
  | noCheck => exact ⟨state, rfl, rfl⟩
  | orderingCheck =>
    obtain ⟨queue, others, hinbox⟩ := List.exists_cons_of_length_pos hneeded
    obtain ⟨next, hresult, hnext⟩ := result_compareOrder orderedSamples h hinbox
    refine ⟨next, ?_, ?_⟩
    · rw [examine, result_bind_of_ok (result_get state), hinbox]
      exact hresult
    · rw [hnext, hinbox]
      rfl
  | multiSourceCheck =>
    have hpos : 0 < state.inbox.length := Nat.lt_of_lt_of_le (by decide) hneeded
    obtain ⟨first, rest, hinbox⟩ := List.exists_cons_of_length_pos hpos
    rw [hinbox, List.length_cons] at hneeded
    obtain ⟨second, others, rfl⟩ := List.exists_cons_of_length_pos (Nat.lt_of_succ_lt_succ hneeded)
    obtain ⟨next, hresult, hnext⟩ := result_tellSources 79 h hinbox
    refine ⟨next, ?_, ?_⟩
    · rw [examine, result_bind_of_ok (result_get state), hinbox]
      exact hresult
    · rw [hnext, hinbox]
      rfl

end Reception

namespace Lifecycle

open Reception

/-! ## Subscribers -/

/-- The stages of a subscriber before it receives data. -/
def approach : List Milestone :=
  [topicCreated, readerCreated, subscriptionMatched, writerAlive]

/-- The samples that a subscriber has received by its output, in at most `limit` windows. -/
def samplesOf (limit : Nat) (text : List Char) : List (Option Sample) :=
  match passage text approach 0 with
  | .ok alive => received limit (text.drop alive)
  | .error _ => []

/-- The outcome of a subscriber by its output, with the queues of the publishers as it finds
them. -/
def subscriberOutcome (check : Check) (queues : List SampleQueue) (text : List Char) : Outcome :=
  match passage text (milestones .subscriber false) 0 with
  | .ok _ => verdict check queues (samplesOf (reach check) text)
  | .error outcome => outcome

/-- Reading a stage that nothing refuses is scanning for its marker. -/
theorem read_plain (marker : Marker) (missing : Outcome) (text : List Char) (start : Nat) :
    match scan [.marker marker] [] (text.drop start) with
    | none => Milestone.read ⟨marker, [], missing⟩ text start = .error missing
    | some hit => ∃ stop, Milestone.read ⟨marker, [], missing⟩ text start = .ok stop ∧
        hit.rest = text.drop stop := by
  have hscan := scan_leftmost [marker] text [] start
  rw [List.map_singleton] at hscan
  cases hleft : leftmost [marker] text start with
  | none =>
    rw [hleft] at hscan
    rw [hscan]
    simp only [Milestone.read, Milestone.markers, List.map_nil, hleft]
  | some found =>
    obtain ⟨m, stop⟩ := found
    rw [hleft] at hscan
    obtain ⟨hit, hhit, hindex, hrest⟩ := hscan
    rw [hhit]
    have hm := List.mem_singleton.mp (List.mem_of_getElem? hindex)
    refine ⟨stop, ?_, hrest⟩
    simp only [Milestone.read, Milestone.markers, List.map_nil, hleft, if_pos hm]

/-- The stages of a subscriber lead to its data as the approach says. -/
theorem passing_approach (reportsSamples : Bool) (check : Check) :
    Passing (stages ⟨.subscriber, reportsSamples, check⟩) (receiveData check) approach :=
  (passing_stages ⟨.subscriber, reportsSamples, check⟩).trans (passing_subscribe check)

/-- The last stage waits for the first data marker. -/
theorem result_await_data {state : Observation} {text : List Char} (h : state.Faces text)
    (stage : String) :
    match scan [.marker .data] [] text with
    | none => ∃ reply next, (await stage [.data]).result state = (.ok reply, next) ∧
        reply.IsVain ∧ state.Waited 1 next
    | some hit => ∃ next, (await stage [.data]).result state = (.ok (.found 0), next) ∧
        state.Waited 1 next ∧ next.Faces hit.rest ∧ next.console.before = hit.before ∧
        next.console.after = hit.matched := by
  have hexpect := result_expect_data h
  cases hscan : scan [.marker .data] [] text with
  | none =>
    rw [hscan] at hexpect
    obtain ⟨reply, next, hresult, hvain, hwaited⟩ := hexpect
    obtain ⟨log, hawait⟩ := @result_await _ _ [.data] _ hresult stage
    exact ⟨reply, _, hawait, hvain, hwaited.crashAfter, hwaited.inbox, hwaited.outbox,
      hwaited.waits⟩
  | some hit =>
    rw [hscan] at hexpect
    obtain ⟨next, hresult, hwaited, hfaces, hbefore, hafter⟩ := hexpect
    obtain ⟨log, hawait⟩ := @result_await _ _ [.data] _ hresult stage
    exact ⟨_, hawait, ⟨hwaited.crashAfter, hwaited.inbox, hwaited.outbox, hwaited.waits⟩,
      hfaces.of_console_eq rfl rfl, hbefore, hafter⟩

/-- The last stage of a subscriber: data is examined if there is any. -/
theorem result_receiveData (check : Check) {state : Observation} {text : List Char} {alive : Nat}
    (h : state.At text alive) (hneeded : check.publishersNeeded ≤ state.inbox.length) :
    match scan [.marker .data] [] (text.drop alive) with
    | none => ∃ next, (receiveData check).result state = (.ok .dataNotReceived, next) ∧
        next.inbox = state.inbox
    | some _ => ∃ next, (receiveData check).result state =
          (.ok (verdict check state.inbox (received (reach check) (text.drop alive))), next) ∧
        next.inbox = remaining check state.inbox (received (reach check) (text.drop alive)) := by
  have hawait := result_await_data h.faces "data received"
  cases hscan : scan [.marker .data] [] (text.drop alive) with
  | none =>
    rw [hscan] at hawait
    obtain ⟨reply, next, heq, hvain, hwaited⟩ := hawait
    refine ⟨next, (result_bind_of_ok heq _).trans ?_, hwaited.inbox⟩
    rcases hvain with rfl | rfl <;> rfl
  | some hit =>
    rw [hscan] at hawait
    obtain ⟨next, heq, hwaited, hfaces, hbefore, hafter⟩ := hawait
    -- the window that ends the last stage is the first one to be examined
    have hcurrent : next.current = hit.before ++ hit.matched := by
      rw [Observation.current, hbefore, hafter]
    obtain ⟨last, hresult, hlast⟩ := result_examine check hfaces (by rwa [hwaited.inbox])
    rw [← received_eq_shown hscan hcurrent, hwaited.inbox] at hresult hlast
    exact ⟨last, (result_bind_of_ok heq _).trans hresult, hlast⟩

/-- What the observer of a subscriber concludes from its output, and what it leaves in the
queues. -/
theorem result_observe_subscriber (reportsSamples : Bool) (check : Check) {state : Observation}
    {text : List Char} (h : state.At text 0)
    (hneeded : check.publishersNeeded ≤ state.inbox.length) :
    ∃ next, (observe ⟨.subscriber, reportsSamples, check⟩).result state =
        (.ok (subscriberOutcome check state.inbox text), next) ∧
      next.inbox = remaining check state.inbox (samplesOf (reach check) text) := by
  have happroach := passing_approach reportsSamples check state text 0 h
  have hmilestones : milestones .subscriber false = approach ++ [dataReceived] := rfl
  rw [subscriberOutcome, hmilestones, passage_append, samplesOf]
  cases hpass : passage text approach 0 with
  | error outcome =>
    rw [hpass] at happroach
    obtain ⟨next, count, heq, hwaited, -⟩ := happroach
    rw [observe, result_bind_of_ok heq]
    exact ⟨_, rfl, hwaited.inbox⟩
  | ok alive =>
    rw [hpass] at happroach
    obtain ⟨between, heq, hat, hwaited⟩ := happroach
    -- behind the approach it is the data that decides, and then the check
    have hreceive := result_receiveData check hat (by rwa [hwaited.inbox])
    have hread := read_plain .data .dataNotReceived text alive
    dsimp only
    rw [passage]
    cases hscan : scan [.marker .data] [] (text.drop alive) with
    | none =>
      rw [hscan] at hreceive hread
      obtain ⟨next, hresult, hnext⟩ := hreceive
      rw [observe, result_bind_of_ok (heq.trans hresult), dataReceived, hread,
        received_of_none hscan]
      exact ⟨_, rfl, hnext.trans hwaited.inbox⟩
    | some hit =>
      rw [hscan] at hreceive hread
      obtain ⟨next, hresult, hnext⟩ := hreceive
      obtain ⟨stop, hstop, -⟩ := hread
      rw [hwaited.inbox] at hresult hnext
      rw [observe, result_bind_of_ok (heq.trans hresult), dataReceived, hstop]
      exact ⟨_, rfl, hnext⟩

/-- A subscriber that does not pass all its stages has received no sample. -/
theorem samplesOf_of_error {text : List Char} {outcome : Outcome}
    (h : passage text (milestones .subscriber false) 0 = .error outcome) (limit : Nat) :
    samplesOf limit text = [] := by
  have hmilestones : milestones .subscriber false = approach ++ [dataReceived] := rfl
  rw [hmilestones, passage_append] at h
  rw [samplesOf]
  cases hpass : passage text approach 0 with
  | error outcome => rfl
  | ok alive =>
    rw [hpass] at h
    have hread := read_plain .data .dataNotReceived text alive
    cases hscan : scan [.marker .data] [] (text.drop alive) with
    | none => exact received_of_none hscan limit
    | some hit =>
      rw [hscan] at hread
      obtain ⟨stop, hstop, -⟩ := hread
      simp only [passage, dataReceived, hstop] at h
      cases h

end Lifecycle

end PubSubTrials
