import PubSubTrials.Host.Course

/-!
# Running processes

Processes take turns: the one in front is run until it has to wait, has ended, or has done many
things in a row. Everything that is done takes a little time. When all processes wait, time
passes up to the moment at which one of them wants to go on.
-/

namespace PubSubTrials.Host

/-- A host with what its processes do next. -/
structure Machine where
  host : Host
  /-- Processes that can go on, the next one first. -/
  ready : List (Nat × Step)
  /-- Processes that wait, perhaps for a time. -/
  waiting : List (Nat × Step × Option Duration)
  /-- How many things the process in front may still do before it is another one's turn. -/
  patience : Nat
  /-- When the outputs of the application were closed. -/
  closing : Option Duration

/-- A process that waits, with what it does next and the time at which it wants to go on, if it
wants to. -/
abbrev Waiting := Nat × Step × Option Duration

namespace Machine

/-- How much time a request takes. -/
def requestTime : Duration := ⟨Duration.perMicro⟩

/-- How much time it takes to make a copy of a process. -/
def forkTime : Duration := ⟨200 * Duration.perMicro⟩

/-- How many things a process does in a row. -/
def turn : Nat := 64

/-- Number of processes beyond which no more are made. -/
def maxProcesses : Nat := 2000

/-- Number of octets after which nothing more that is read or written is looked at. -/
def maxMoved : Nat := 67108864

/-- Let time pass for the host. -/
def pass (machine : Machine) (time : Duration) : Machine :=
  { machine with host := { machine.host with clock := machine.host.clock.add time } }

/-- Note the moment at which nobody can write to the outputs any more. -/
def noteClosing (machine : Machine) : Machine :=
  match machine.closing with
  | some _ => machine
  | none =>
    if machine.host.canEmit then machine else { machine with closing := some machine.host.clock }

/-- What those who wait do next. -/
def roused (waiting : List Waiting) : List (Nat × Step) :=
  waiting.map (fun entry => (entry.1, entry.2.1))

/-- Let those who wait try again if something has happened. -/
def rouse (machine : Machine) : Machine :=
  if machine.host.stirred then
    { machine with
      host := { machine.host with stirred := false }
      ready := machine.ready ++ roused machine.waiting
      waiting := [] }.noteClosing
  else machine

/-- Let those go on whose time has come. -/
def wake (machine : Machine) : Machine :=
  let isDue (entry : Waiting) : Bool :=
    entry.2.2.any (fun time => time.hasCome machine.host.clock)
  if machine.waiting.any isDue then
    { machine with
      ready := machine.ready ++ roused (machine.waiting.filter isDue)
      waiting := machine.waiting.filter (fun entry => !isDue entry) }
  else machine

/-- The next time at which somebody wants to go on. -/
def nextTime? (machine : Machine) : Option Duration :=
  machine.waiting.foldl (fun best entry =>
    match best, entry.2.2 with
    | some a, some b => some (if a.hasCome b then a else b)
    | some a, none => some a
    | none, time? => time?) none

/-- Give others a turn if the process in front has had its own. -/
def rotate (machine : Machine) : Machine :=
  match machine.patience, machine.ready with
  | 0, front :: rest => { machine with ready := rest ++ [front], patience := turn }
  | n + 1, _ => { machine with patience := n }
  | 0, [] => machine

/-- What comes of the next thing that a process in front does, which `rest` comes after. -/
def perform (machine : Machine) (rest : List (Nat × Step)) (number : Nat) : Step → Machine
  | .finish status =>
    { machine with
      host := machine.host.finish number (.exited (status % 256)), ready := rest, patience := turn }
  | .fork child next =>
    if machine.host.processes.length < maxProcesses then
      let (copy, host) := machine.host.copy number
      { machine with
        host, ready := (number, next copy) :: rest ++ [(copy, child)] }.pass forkTime
    else
      { machine with
        ready := rest, waiting := machine.waiting ++ [(number, .fork child next, none)],
        patience := turn }
  | .act attempt =>
    match attempt number machine.host with
    | (.done step, host) =>
      ({ machine with host, ready := (number, step) :: rest }.pass requestTime).rotate
    | (.later time, host) =>
      { machine with
        host, ready := rest, waiting := machine.waiting ++ [(number, .act attempt, time)],
        patience := turn }

/-- One move, if there is any. -/
def move? (machine : Machine) : Option Machine :=
  match machine.ready with
  | (number, step) :: rest =>
    if (machine.host.process? number).any Process.isRunning then
      some ((machine.perform rest number step).rouse).wake
    else some { machine with ready := rest, patience := turn }
  | [] =>
    machine.nextTime?.map (fun time =>
      { machine with host := { machine.host with clock := machine.host.clock.longer time } }.wake)

/-- Whether nothing more is looked at. -/
def isOver (horizon : Duration) (machine : Machine) : Bool :=
  horizon.hasCome machine.host.clock || maxMoved ≤ machine.host.moved

/-- The machine after all moves up to a time, at most `moves` of them. -/
def run (horizon : Duration) : Nat → Machine → Machine
  | 0, machine => machine
  | moves + 1, machine =>
    if machine.isOver horizon then machine
    else
      match machine.move? with
      | some machine => run horizon moves machine
      | none => machine

/-- What the application has written, and when its outputs were closed. -/
def broadcast (machine : Machine) : Output.Broadcast :=
  ⟨machine.host.emissions.reverse, machine.closing⟩

end Machine

end PubSubTrials.Host
