import PubSubTrials.Host.Basic

/-!
# Courses of processes

A process is a tree of requests to its host: every request is followed by what the process does
with the answer. The tree is unfolded as far as the process is run, so that processes can take
turns. Code of processes is written as a course, which says what is done until there is a value,
given what is done with it then.
-/

namespace PubSubTrials.Host

/-- What a process does from here on. -/
inductive Step where
  /-- End with a status. -/
  | finish (status : Nat)
  /-- Ask the host for something, which may have to be tried again. -/
  | act (attempt : Nat → Host → Attempt Step × Host)
  /-- Make a copy of itself that does something else; it goes on with the number of the copy. -/
  | fork (child : Step) (next : Nat → Step)

/-- What a process does until it has a value. -/
def Course (α : Type) := (α → Step) → Step

namespace Course

instance : Monad Course where
  pure value := fun next => next value
  bind course f := fun next => course (fun value => f value next)

/-- All that a process does. -/
def toStep (course : Course Nat) : Step := course .finish

/-- Ask the host for something that has to be tried until it is done. -/
def attempt {α : Type} (f : Process → Host → Attempt α × Host) : Course α := fun next =>
  .act (fun number host =>
    match host.process? number with
    | none => (.later none, host)
    | some process =>
      match f process host with
      | (.done value, host) => (.done (next value), host)
      | (.later wake, host) => (.later wake, host))

/-- Have the host do something. -/
def carryOut {α : Type} (f : Process → Host → α × Host) : Course α :=
  attempt (fun process host =>
    let (value, host) := f process host
    (.done value, host))

/-- Learn something about the host. -/
def learn {α : Type} (f : Process → Host → α) : Course α :=
  carryOut (fun process host => (f process host, host))

/-- Change what the host knows about the process. -/
def adjust (f : Process → Process) : Course Unit :=
  carryOut (fun process host => ((), host.change process.number f))

/-- Never go on. -/
def hang {α : Type} : Course α := fun _ => .act (fun _ host => (.later none, host))

/-- End the process, whatever was to be done after this. -/
def exit {α : Type} (status : Nat) : Course α := fun _ => .finish status

/-! ## Time -/

/-- The time. -/
def now : Course Duration := learn (fun _ host => host.clock)

/-- Wait until a time. -/
def sleepUntil (time : Duration) : Course Unit :=
  attempt (fun _ host =>
    (if time.hasCome host.clock then .done () else .later (some time), host))

/-- Let time pass. -/
def sleep (time : Duration) : Course Unit := do
  sleepUntil ((← now).add time)

/-! ## Processes -/

/-- The number of the process. -/
def number : Course Nat := learn (fun process _ => process.number)

/-- Start a copy of the process that does something else. -/
def fork (child : Course Nat) : Course Nat := fun next => .fork child.toStep next

/-- Wait for the end of a child, or of a given one; `none` if there is none. A signal that was
caught ends the waiting as well, if `interruptible` says so: then there is no fate. -/
def wait (which : Option Nat) (interruptible : Bool) : Course (Option (Nat × Option Fate)) :=
  attempt (fun process host =>
    match host.endedChildren process.number which with
    | child :: _ => (.done (some (child.number, some child.fate)), host.forget child.number)
    | [] =>
      if !host.hasChildren process.number which then (.done none, host)
      else if interruptible ∧ !process.pending.isEmpty then (.done (some (0, none)), host)
      else (.later none, host))

/-- Wait for the end of a child, but not longer than to a time. -/
def waitUntil (child : Nat) (time : Duration) : Course (Option Fate) :=
  attempt (fun process host =>
    match host.endedChildren process.number (some child) with
    | ended :: _ => (.done (some ended.fate), host.forget child)
    | [] => (if time.hasCome host.clock then .done none else .later (some time), host))

/-- How a child has ended once it has. -/
def fateOf (child : Nat) : Course Fate := do
  match ← wait (some child) false with
  | some (_, some fate) => return fate
  | _ => return .exited 127

/-- Send a signal to processes; the answer tells whether there were any. -/
def signal (signal : Signal) (numbers : List Nat) : Course Bool :=
  carryOut (fun _ host =>
    (numbers.any host.exists?, numbers.foldl (fun host n => host.signal signal n) host))

/-- The signals that have come since they were last asked for. -/
def heard : Course (List Signal) :=
  carryOut (fun process host =>
    (process.pending, host.change process.number (fun p => { p with pending := [] })))

/-! ## Descriptors -/

/-- What the descriptors lead to. -/
def descriptors : Course (List (Nat × Handle)) := learn (fun process _ => process.descriptors)

/-- What a descriptor leads to. -/
def handle? (descriptor : Nat) : Course (Option Handle) :=
  learn (fun process _ => process.handle? descriptor)

/-- Let a descriptor lead to a place, or close it. -/
def redirect (descriptor : Nat) (handle? : Option Handle) : Course Unit :=
  carryOut (fun process host =>
    ((), (host.change process.number (·.redirect descriptor handle?)).stir))

/-- Let a descriptor that no program gets lead to a place; the answer is that descriptor. -/
def keep (handle : Handle) : Course Nat :=
  carryOut (fun process host =>
    let descriptor := process.unused Process.firstPrivate
    (descriptor, host.change process.number (·.redirect descriptor (some handle))))

/-- Whether a descriptor is a terminal. -/
def isTerminal (descriptor : Nat) : Course Bool :=
  learn (fun process host =>
    match process.handle? descriptor with
    | some (.outlet _) => host.isTerminal
    | _ => false)

/-- Open a file. -/
def openFile (path : Path) (mode : Mode) : Course (Except SystemError Handle) :=
  carryOut (fun process host => host.openFile process path mode)

/-- A new pipe, by its number. -/
def pipe : Course Nat := carryOut (fun _ host => host.makePipe)

/-- A place from which a text can be read. -/
def document (text : Octets) : Course Handle :=
  carryOut (fun _ host =>
    let (number, host) := host.makePipe
    (.pipe number false,
      { host with pipes := host.pipes.modify number (fun pipe => pipe.push text) }))

/-- Read from a descriptor. -/
def read (taking : Taking) (descriptor : Nat) : Course (Except SystemError Octets) :=
  attempt (fun process host =>
    match host.read process taking descriptor with
    | (.done (.ok text), host) => (.done (.ok text), host.noteMoved text)
    | other => other)

/-- Read from a descriptor, but do not wait longer than to a time. -/
def readUntil (time : Option Duration) (taking : Taking) (descriptor : Nat) :
    Course (Option (Except SystemError Octets)) :=
  attempt (fun process host =>
    match host.read process taking descriptor with
    | (.done (.ok text), host) => (.done (some (.ok text)), host.noteMoved text)
    | (.done (.error error), host) => (.done (some (.error error)), host)
    | (.later wake, host) =>
      match time with
      | none => (.later wake, host)
      | some time =>
        (if time.hasCome host.clock then .done none else .later (some time), host))

/-- Write to a descriptor. -/
def write (descriptor : Nat) (text : Octets) : Course (Except SystemError Unit) :=
  attempt (fun process host =>
    match host.write process descriptor text with
    | (.done result, host) => (.done result, host.noteMoved text)
    | other => other)

/-- Number of octets that are read at once. -/
def readAtOnce : Nat := 65536

/-- Read what comes until the end, in at most `fuel` pieces. -/
def readAllFrom (descriptor : Nat) : Nat → Course (Except SystemError Octets)
  | 0 => return .ok []
  | fuel + 1 => do
    match ← read (.atMost readAtOnce) descriptor with
    | .error error => return .error error
    | .ok [] => return .ok []
    | .ok text =>
      match ← readAllFrom descriptor fuel with
      | .ok rest => return .ok (text ++ rest)
      | .error error => return .error error

/-- Bound on the number of times that something without another bound is done. -/
def manyTimes : Nat := 1000000000

/-- Read what comes until the end. -/
def readAll (descriptor : Nat) : Course (Except SystemError Octets) :=
  readAllFrom descriptor manyTimes

/-! ## Files -/

/-- Look at the files. -/
def look {α : Type} (f : FileTree → α) : Course α :=
  learn (fun process host => f (host.view process))

/-- Change the files, unless that is refused. -/
def changeFiles (f : FileTree → Except SystemError FileTree) : Course (Except SystemError Unit) :=
  carryOut (fun process host =>
    match f (host.view process) with
    | .ok files => (.ok (), host.withFiles files)
    | .error error => (.error error, host))

/-- The names that lead to the working directory. -/
def directory : Course (List String) := learn (fun process _ => process.directory)

end Course

end PubSubTrials.Host
