import PubSubTrials.Sample

/-!
# Sample queues

A publisher that reports its samples has a bounded queue of them, from which every subscriber
reads. What is pushed beyond the capacity is refused, as is everything once no reader is left;
what was accepted comes out in order, also after the writer has closed the queue.
-/

namespace PubSubTrials

/-- Samples reported by a publisher and not yet read. -/
structure SampleQueue where
  capacity : Nat
  queued : List Sample
  writerOpen : Bool
  hasReaders : Bool
  deriving DecidableEq, Repr, Inhabited

namespace SampleQueue

/-- The number of samples that a publisher records at most. -/
def maxRecorded : Nat := 100

/-- An empty queue with its writer and a reader. -/
def empty (capacity : Nat) : SampleQueue :=
  ⟨capacity, [], true, true⟩

/-- An open queue that holds `samples`. -/
def ofSamples (samples : List Sample) : SampleQueue :=
  ⟨samples.length, samples, true, true⟩

/-- Whether a push would be accepted. -/
def hasRoom (queue : SampleQueue) : Bool :=
  queue.hasReaders && queue.queued.length < queue.capacity

/-- Push a sample; `false` when it was dropped. -/
def push (queue : SampleQueue) (sample : Sample) : Bool × SampleQueue :=
  if queue.hasRoom then (true, { queue with queued := queue.queued ++ [sample] })
  else (false, queue)

/-- Take the oldest sample, if there is one. -/
def take (queue : SampleQueue) : Option Sample × SampleQueue :=
  match queue.queued with
  | [] => (none, queue)
  | sample :: rest => (some sample, { queue with queued := rest })

/-- Take all samples, oldest first. -/
def drain (queue : SampleQueue) : List Sample × SampleQueue :=
  (queue.queued, { queue with queued := [] })

/-- Close the writer's end. -/
def closeWriter (queue : SampleQueue) : SampleQueue :=
  { queue with writerOpen := false }

/-- Remove all readers. -/
def dropReaders (queue : SampleQueue) : SampleQueue :=
  { queue with hasReaders := false }

end SampleQueue

end PubSubTrials
