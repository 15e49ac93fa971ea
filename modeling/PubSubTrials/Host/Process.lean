import PubSubTrials.Files.Permissions
import PubSubTrials.Host.Signal
import PubSubTrials.Output.Broadcast

/-!
# Processes

What a host knows about a process: who started it, where it is, what its descriptors lead to,
what it has said about signals, and how it has ended.
-/

namespace PubSubTrials.Host

/-- What a descriptor leads to. -/
inductive Handle where
  /-- An output of the application. -/
  | outlet (outlet : Output.Outlet)
  /-- The device that takes everything and gives nothing. -/
  | void
  /-- The device that takes everything and gives zeros. -/
  | zeros
  /-- The device that takes nothing. -/
  | full
  /-- An open file. -/
  | file (number : Nat)
  /-- One of the two ends of a pipe. -/
  | pipe (number : Nat) (writes : Bool)
  deriving DecidableEq, Repr

/-- How a process fares. -/
inductive Fate where
  | running
  | exited (status : Nat)
  | ended (signal : Signal)
  deriving DecidableEq, Repr

namespace Fate

/-- The status by which a shell knows an end. -/
def status : Fate → Nat
  | running => 0
  | exited status => status
  | ended signal => 128 + signal

end Fate

/-- A process of a host. -/
structure Process where
  number : Nat
  parent : Nat
  group : Nat
  /-- The names that lead to its working directory. -/
  directory : List String
  descriptors : List (Nat × Handle)
  ignored : List Signal
  /-- Signals that it wants to hear of. -/
  caught : List Signal
  /-- Signals that it has not heard of yet, the earliest first. -/
  pending : List Signal
  /-- What may not be done with files that it makes. -/
  mask : Permissions
  fate : Fate
  deriving Repr

namespace Process

/-- Descriptors from this one on are kept by a shell for itself, and no program that it starts
has them. -/
def firstPrivate : Nat := 10

/-- Descriptors from this one on are given to programs again. -/
def firstGiven : Nat := 60

/-- What a descriptor leads to, if it is open. -/
def handle? (process : Process) (descriptor : Nat) : Option Handle :=
  process.descriptors.lookup descriptor

/-- Whether some descriptor leads to a place. -/
def holds (process : Process) (handle : Handle) : Bool :=
  process.descriptors.any (fun entry => entry.2 = handle)

/-- Let a descriptor lead to a place, or close it. -/
def redirect (process : Process) (descriptor : Nat) (handle? : Option Handle) : Process :=
  let others := process.descriptors.filter (fun entry => entry.1 ≠ descriptor)
  { process with
    descriptors :=
      match handle? with
      | some handle => (descriptor, handle) :: others
      | none => others }

/-- The first descriptor from `least` on that is not open; at most as many are open as there are
entries. -/
def unused (process : Process) (least : Nat) : Nat :=
  let candidates := List.range' least (process.descriptors.length + 1)
  (candidates.find? (fun n => (process.handle? n).isNone)).getD least

/-- The process without what a new program does not get. -/
def forProgram (process : Process) : Process :=
  { process with
    descriptors := process.descriptors.filter (fun entry =>
      entry.1 < firstPrivate || firstGiven ≤ entry.1)
    caught := [] }

/-- A copy that a process makes of itself. -/
def child (process : Process) (number : Nat) : Process :=
  { process with number, parent := process.number, caught := [], pending := [] }

/-- Whether it still runs. -/
def isRunning (process : Process) : Bool :=
  process.fate = .running

end Process

end PubSubTrials.Host
