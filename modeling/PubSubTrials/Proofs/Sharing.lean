import PubSubTrials.SampleQueue

/-!
# Sharing a sample queue

A queue has one writer. Its readers are copies of each other, come and go, and all take from the
same queue. Whatever they do, and in whatever order (`Operation`), no sample is lost, doubled or
overtaken: one step keeps what is queued and accepted equal to what is delivered and queued
(`queued_append_accepted`), and so does a run (`queued_append_accepted_run`). The queue stays within
its capacity, and knows whether there are readers (`Fits`), which decides about the next sample.

What a step can do is said once (`makes_step`), and each of these facts goes by it.
-/

namespace PubSubTrials

/-- A sample queue and its readers. -/
structure SharedQueue where
  queue : SampleQueue
  /-- For each reader that was made, in that order, whether it is still there. -/
  readers : List Bool
  deriving DecidableEq, Repr

namespace SharedQueue

/-- What the writer or a reader, given by its number, does. -/
inductive Operation where
  | push (sample : Sample)
  /-- The writer goes, which closes the queue. -/
  | close
  /-- A reader makes another one. -/
  | clone (reader : Nat)
  | take (reader : Nat)
  | drain (reader : Nat)
  /-- A reader goes. What is queued when the last one goes can no longer be seen by anybody. -/
  | leave (reader : Nat)
  deriving DecidableEq, Repr

/-- What whoever does something is told. -/
inductive Answer where
  | pushed (accepted : Bool)
  | delivered (samples : List Sample)
  | nothing
  deriving DecidableEq, Repr

/-- An empty queue with its writer and one reader. -/
def start (capacity : Nat) : SharedQueue :=
  ⟨.empty capacity, [true]⟩

/-- Whether a reader was made and is still there. -/
def HasReader (shared : SharedQueue) (reader : Nat) : Prop :=
  shared.readers[reader]? = some true

instance (shared : SharedQueue) (reader : Nat) : Decidable (shared.HasReader reader) :=
  inferInstanceAs (Decidable (_ = _))

/-- What is left when a reader goes; the last one leaves the queue without readers. -/
def withoutReader (shared : SharedQueue) (reader : Nat) : SharedQueue :=
  let readers := shared.readers.set reader false
  ⟨if true ∈ readers then shared.queue else shared.queue.dropReaders, readers⟩

/-- Do something: what is answered, and the queue after it. Whoever is gone does nothing. -/
def step (shared : SharedQueue) : Operation → Answer × SharedQueue
  | .push sample =>
    if shared.queue.writerOpen then
      (.pushed (shared.queue.push sample).1,
        { shared with queue := (shared.queue.push sample).2 })
    else (.nothing, shared)
  | .close => (.nothing, { shared with queue := shared.queue.closeWriter })
  | .clone reader =>
    if shared.HasReader reader then
      (.nothing, { shared with readers := shared.readers ++ [true] })
    else (.nothing, shared)
  | .take reader =>
    if shared.HasReader reader then
      (.delivered shared.queue.take.1.toList, { shared with queue := shared.queue.take.2 })
    else (.nothing, shared)
  | .drain reader =>
    if shared.HasReader reader then
      (.delivered shared.queue.drain.1, { shared with queue := shared.queue.drain.2 })
    else (.nothing, shared)
  | .leave reader =>
    if shared.HasReader reader then (.nothing, shared.withoutReader reader)
    else (.nothing, shared)

/-- Do one thing after the other: what was done, each with its answer, and the queue after it. -/
def run (shared : SharedQueue) : List Operation → List (Operation × Answer) × SharedQueue
  | [] => ([], shared)
  | operation :: rest =>
    let (record, last) := run (shared.step operation).2 rest
    ((operation, (shared.step operation).1) :: record, last)

/-- The sample that was accepted, if there was one. -/
def accepted : Operation × Answer → List Sample
  | (.push sample, .pushed true) => [sample]
  | _ => []

/-- The samples that a reader got. -/
def delivered : Operation × Answer → List Sample
  | (_, .delivered samples) => samples
  | _ => []

variable {shared : SharedQueue}

theorem HasReader.mem {reader : Nat} (h : shared.HasReader reader) : true ∈ shared.readers :=
  List.mem_of_getElem? h

theorem exists_hasReader_iff : (∃ reader, shared.HasReader reader) ↔ true ∈ shared.readers :=
  List.mem_iff_getElem?.symm

/-! ## What the operations do to a queue -/

/-- A sample is put behind those that are queued, or dropped. -/
theorem push_cases (queue : SampleQueue) (sample : Sample) :
    (queue.hasReaders = true ∧ queue.queued.length < queue.capacity ∧
      queue.push sample = (true, { queue with queued := queue.queued ++ [sample] })) ∨
    (¬ (queue.hasReaders = true ∧ queue.queued.length < queue.capacity) ∧
      queue.push sample = (false, queue)) := by
  unfold SampleQueue.push SampleQueue.hasRoom
  by_cases hreaders : queue.hasReaders = true
  · by_cases hroom : queue.queued.length < queue.capacity
    · left
      refine ⟨hreaders, hroom, ?_⟩
      rw [hreaders, decide_eq_true hroom, Bool.true_and, if_pos rfl]
    · right
      refine ⟨fun h => hroom h.2, ?_⟩
      rw [decide_eq_false hroom, Bool.and_false, if_neg Bool.false_ne_true]
  · right
    refine ⟨fun h => hreaders h.1, ?_⟩
    rw [Bool.eq_false_iff.mpr hreaders, Bool.false_and, if_neg Bool.false_ne_true]

/-- The oldest sample is the one that is taken. -/
theorem exists_take (queue : SampleQueue) :
    ∃ rest, queue.queued = queue.take.1.toList ++ rest ∧
      queue.take.2 = { queue with queued := rest } := by
  unfold SampleQueue.take
  cases hqueued : queue.queued with
  | nil =>
    refine ⟨[], rfl, ?_⟩
    show queue = { queue with queued := [] }
    rw [← hqueued]
  | cons sample rest => exact ⟨rest, rfl, rfl⟩

theorem toList_take (queue : SampleQueue) : queue.take.1.toList = queue.queued.take 1 := by
  unfold SampleQueue.take
  cases queue.queued with
  | nil => rfl
  | cons sample rest => rfl

/-- A reader that goes changes nothing but whether there are readers. -/
theorem queue_withoutReader (shared : SharedQueue) (reader : Nat) :
    ∃ hasReaders, (shared.withoutReader reader).queue = { shared.queue with hasReaders } ∧
      (shared.queue.hasReaders = true →
        (hasReaders = true ↔ true ∈ (shared.withoutReader reader).readers)) := by
  unfold withoutReader
  by_cases hleft : true ∈ shared.readers.set reader false
  · refine ⟨shared.queue.hasReaders, ?_, fun h => iff_of_true h hleft⟩
    dsimp only
    rw [if_pos hleft]
  · refine ⟨false, ?_, fun _ => iff_of_false Bool.false_ne_true hleft⟩
    dsimp only
    rw [if_neg hleft]
    rfl

/-! ## One step -/

/-- What an operation does, told by its kind: the answer, and the queue after it. -/
inductive Makes (shared : SharedQueue) : Operation → Answer → SharedQueue → Prop where
  | accept {sample : Sample} (hroom : shared.queue.queued.length < shared.queue.capacity) :
      Makes shared (.push sample) (.pushed true)
        { shared with queue := { shared.queue with queued := shared.queue.queued ++ [sample] } }
  | refuse {sample : Sample} : Makes shared (.push sample) (.pushed false) shared
  | close : Makes shared .close .nothing { shared with queue := shared.queue.closeWriter }
  | clone {reader : Nat} (hreader : shared.HasReader reader) :
      Makes shared (.clone reader) .nothing { shared with readers := shared.readers ++ [true] }
  | take {reader : Nat} {samples rest : List Sample}
      (hqueued : shared.queue.queued = samples ++ rest) :
      Makes shared (.take reader) (.delivered samples)
        { shared with queue := { shared.queue with queued := rest } }
  | drain {reader : Nat} : Makes shared (.drain reader) (.delivered shared.queue.queued)
      { shared with queue := { shared.queue with queued := [] } }
  | leave {reader : Nat} {hasReaders : Bool} (hreader : shared.HasReader reader)
      (hleft : shared.queue.hasReaders = true →
        (hasReaders = true ↔ true ∈ shared.readers.set reader false)) :
      Makes shared (.leave reader) .nothing
        ⟨{ shared.queue with hasReaders }, shared.readers.set reader false⟩
  /-- Whoever is gone does nothing. -/
  | idle {operation : Operation} (hne : operation ≠ .close) :
      Makes shared operation .nothing shared

/-- Every step is of one of these kinds. The lemmas on one step go by them. -/
theorem makes_step (shared : SharedQueue) (operation : Operation) :
    shared.Makes operation (shared.step operation).1 (shared.step operation).2 := by
  cases operation with
  | push sample =>
    rw [step]
    split
    · obtain ⟨-, hroom, hpush⟩ | ⟨-, hpush⟩ := push_cases shared.queue sample
      · rw [hpush]
        exact .accept hroom
      · rw [hpush]
        exact .refuse
    · exact .idle nofun
  | close => exact .close
  | clone reader =>
    rw [step]
    split
    · next hreader => exact .clone hreader
    · exact .idle nofun
  | take reader =>
    rw [step]
    split
    · obtain ⟨rest, hqueued, htaken⟩ := exists_take shared.queue
      rw [htaken]
      exact .take hqueued
    · exact .idle nofun
  | drain reader =>
    rw [step]
    split
    · exact .drain
    · exact .idle nofun
  | leave reader =>
    rw [step]
    split
    · next hreader =>
      obtain ⟨hasReaders, hqueue, hleft⟩ := queue_withoutReader shared reader
      have hshared : shared.withoutReader reader =
          ⟨{ shared.queue with hasReaders }, shared.readers.set reader false⟩ :=
        congrArg (SharedQueue.mk · (shared.readers.set reader false)) hqueue
      rw [hshared]
      exact .leave hreader hleft
    · exact .idle nofun

/-- A sample leaves the queue just when it is delivered, and comes to its end just when it is
accepted. -/
theorem queued_append_accepted (shared : SharedQueue) (operation : Operation) :
    shared.queue.queued ++ accepted (operation, (shared.step operation).1) =
      delivered (operation, (shared.step operation).1) ++
        (shared.step operation).2.queue.queued := by
  have hmakes := shared.makes_step operation
  generalize (shared.step operation).1 = answer at hmakes ⊢
  generalize (shared.step operation).2 = next at hmakes ⊢
  cases hmakes with
  | accept | drain => rfl
  | take hqueued => exact (List.append_nil _).trans hqueued
  | refuse | close | clone | leave => exact List.append_nil _
  | idle => cases operation <;> exact List.append_nil _

/-- A queue within its capacity that knows whether it has readers. -/
structure Fits (bound : Nat) (shared : SharedQueue) : Prop where
  capacity : shared.queue.capacity = bound
  bounded : shared.queue.queued.length ≤ bound
  readers : shared.queue.hasReaders = true ↔ true ∈ shared.readers

theorem fits_start (capacity : Nat) : (start capacity).Fits capacity :=
  ⟨rfl, Nat.zero_le _, iff_of_true rfl List.mem_cons_self⟩

/-- No operation fills a queue beyond its bound or loses track of its readers. -/
theorem Fits.step {bound : Nat} (h : shared.Fits bound) (operation : Operation) :
    (shared.step operation).2.Fits bound := by
  obtain ⟨hcapacity, hbounded, hreaders⟩ := h
  have hmakes := shared.makes_step operation
  generalize (shared.step operation).1 = answer at hmakes
  generalize (shared.step operation).2 = next at hmakes ⊢
  cases hmakes with
  | accept hroom =>
    refine ⟨hcapacity, ?_, hreaders⟩
    rw [List.length_append, List.length_singleton]
    omega
  | refuse | close | idle => exact ⟨hcapacity, hbounded, hreaders⟩
  | clone hreader =>
    refine ⟨hcapacity, hbounded, ?_⟩
    exact iff_of_true (hreaders.mpr hreader.mem) (List.mem_append_right _ List.mem_cons_self)
  | take hqueued =>
    rw [hqueued, List.length_append] at hbounded
    exact ⟨hcapacity, by dsimp only; omega, hreaders⟩
  | drain => exact ⟨hcapacity, Nat.zero_le _, hreaders⟩
  | leave hreader hleft =>
    -- the last reader that leaves takes the flag with it
    exact ⟨hcapacity, hbounded, hleft (hreaders.mpr hreader.mem)⟩

/-- The queue is open until the writer goes. -/
theorem writerOpen_step (shared : SharedQueue) (operation : Operation) :
    (shared.step operation).2.queue.writerOpen =
      (shared.queue.writerOpen && operation != .close) := by
  have hmakes := shared.makes_step operation
  generalize (shared.step operation).1 = answer at hmakes
  generalize (shared.step operation).2 = next at hmakes ⊢
  cases hmakes with
  | close => exact (Bool.and_false _).symm
  | idle hne => rw [bne_iff_ne.mpr hne, Bool.and_true]
  | accept | refuse | clone | take | drain | leave => exact (Bool.and_true _).symm

/-- Nothing is accepted any more once the writer has gone. -/
theorem accepted_of_closed (h : shared.queue.writerOpen = false) (operation : Operation) :
    accepted (operation, (shared.step operation).1) = [] := by
  cases operation with
  | push sample =>
    rw [step, h, if_neg Bool.false_ne_true]
    rfl
  | _ => rfl

/-- The writer learns whether there was a reader, and room for its sample. -/
theorem answer_push {bound : Nat} (h : shared.Fits bound) (hopen : shared.queue.writerOpen = true)
    (sample : Sample) :
    ∃ isAccepted, (shared.step (.push sample)).1 = .pushed isAccepted ∧
      (isAccepted = true ↔
        (∃ reader, shared.HasReader reader) ∧ shared.queue.queued.length < bound) := by
  refine ⟨(shared.queue.push sample).1, ?_, ?_⟩
  · rw [step, if_pos hopen]
  · -- the queue goes by what it knows of its readers, and that is right
    rw [exists_hasReader_iff, ← h.readers, ← h.capacity]
    obtain ⟨hreaders, hroom, hpush⟩ | ⟨hrefused, hpush⟩ := push_cases shared.queue sample
    · rw [hpush]
      exact iff_of_true rfl ⟨hreaders, hroom⟩
    · rw [hpush]
      exact iff_of_false Bool.false_ne_true hrefused

/-- Any reader may take the oldest sample, or all of them. -/
theorem answer_reader {reader : Nat} (h : shared.HasReader reader) :
    (shared.step (.take reader)).1 = .delivered (shared.queue.queued.take 1) ∧
      (shared.step (.drain reader)).1 = .delivered shared.queue.queued := by
  rw [step, if_pos h, step, if_pos h, toList_take]
  exact ⟨rfl, rfl⟩

/-! ## A run -/

/-- The same for any operations, by induction over them. -/
theorem Fits.run {bound : Nat} (h : shared.Fits bound) (operations : List Operation) :
    (shared.run operations).2.Fits bound := by
  induction operations generalizing shared with
  | nil => exact h
  | cons operation rest ih => exact ih (h.step operation)

/-- In a run, samples move from what is accepted to what is delivered, and stay in order. -/
theorem queued_append_accepted_run (shared : SharedQueue) (operations : List Operation) :
    shared.queue.queued ++ (shared.run operations).1.flatMap accepted =
      (shared.run operations).1.flatMap delivered ++ (shared.run operations).2.queue.queued := by
  induction operations generalizing shared with
  | nil => exact List.append_nil _
  | cons operation rest ih =>
    rw [run]
    dsimp only
    rw [List.flatMap_cons, List.flatMap_cons, ← List.append_assoc, queued_append_accepted,
      List.append_assoc, ih, List.append_assoc]

/-- A writer is open until it is closed, and never again after that. -/
theorem writerOpen_run (shared : SharedQueue) (operations : List Operation) :
    (shared.run operations).2.queue.writerOpen = true ↔
      shared.queue.writerOpen = true ∧ .close ∉ operations := by
  induction operations generalizing shared with
  | nil => exact (and_iff_left List.not_mem_nil).symm
  | cons operation rest ih =>
    rw [run]
    dsimp only
    rw [ih, writerOpen_step, List.mem_cons, not_or, Bool.and_eq_true, bne_iff_ne, and_assoc,
      ne_comm]

theorem accepted_run_of_closed (h : shared.queue.writerOpen = false)
    (operations : List Operation) : (shared.run operations).1.flatMap accepted = [] := by
  induction operations generalizing shared with
  | nil => rfl
  | cons operation rest ih =>
    have hnext : (shared.step operation).2.queue.writerOpen = false := by
      rw [writerOpen_step, h, Bool.false_and]
    rw [run]
    dsimp only
    rw [List.flatMap_cons, accepted_of_closed h, ih hnext, List.append_nil]

/-- What the writer pushes and gets accepted comes out in the same order, whichever readers take or
drain it, and the rest of it is queued still; there is never more queued than fits. A sample is
accepted just if there is a reader and room for it. What is queued when the writer goes is still
delivered, to whichever readers are left. -/
theorem run_conserves_samples (capacity : Nat) (operations : List Operation) :
    let record := ((start capacity).run operations).1
    let last := ((start capacity).run operations).2
    record.flatMap accepted = record.flatMap delivered ++ last.queue.queued ∧
    last.queue.queued.length ≤ capacity ∧
    (last.queue.writerOpen = true ↔ .close ∉ operations) ∧
    (last.queue.writerOpen = true → ∀ sample,
      ∃ isAccepted, (last.step (.push sample)).1 = .pushed isAccepted ∧
        (isAccepted = true ↔
          (∃ reader, last.HasReader reader) ∧ last.queue.queued.length < capacity)) ∧
    ∀ later : List Operation,
      let rest := last.run (.close :: later)
      rest.1.flatMap delivered ++ rest.2.queue.queued = last.queue.queued ∧
      ∀ reader, rest.2.HasReader reader →
        (rest.2.step (.take reader)).1 = .delivered (rest.2.queue.queued.take 1) ∧
        (rest.2.step (.drain reader)).1 = .delivered rest.2.queue.queued := by
  intro record last
  have hfits : last.Fits capacity := (fits_start capacity).run operations
  refine ⟨?_, hfits.bounded, ?_, fun hopen sample => answer_push hfits hopen sample, ?_⟩
  · exact queued_append_accepted_run (start capacity) operations
  · exact (writerOpen_run (start capacity) operations).trans (and_iff_right rfl)
  · intro later rest
    refine ⟨?_, fun reader hreader => answer_reader hreader⟩
    -- nothing is accepted any more, so all that comes out was queued before
    have hdown : (last.step .close).2.queue.writerOpen = false := rfl
    have hclosed : rest.1.flatMap accepted = [] := accepted_run_of_closed hdown later
    calc rest.1.flatMap delivered ++ rest.2.queue.queued
        = last.queue.queued ++ rest.1.flatMap accepted :=
          (queued_append_accepted_run last (.close :: later)).symm
      _ = last.queue.queued := by rw [hclosed, List.append_nil]

end SharedQueue

end PubSubTrials
