import PubSubTrials.Files.Tree
import PubSubTrials.Host.Pipe
import PubSubTrials.Host.Process

/-!
# Hosts

A computer on which an application runs: its clock, its files, the pipes and open files of its
processes, and what was written to the outputs of the application. Everything here is a function
on this state; which process is next is not decided here.
-/

namespace PubSubTrials

/-- An open file, with the place at which it is read and written. -/
structure Host.OpenFile where
  names : List String
  position : Nat
  /-- Whether everything is written to its end. -/
  appends : Bool
  reads : Bool
  writes : Bool
  deriving Repr

/-- A computer with its files and processes. -/
structure Host where
  clock : Duration
  files : FileTree
  /-- Files that were made executable. -/
  executables : List (List String)
  opened : Array Host.OpenFile
  pipes : Array Host.Pipe
  processes : List Host.Process
  /-- The largest number of a process so far. -/
  lastNumber : Nat
  /-- What was written to the outputs of the application, the latest first. -/
  emissions : List Output.Emission
  /-- Number of octets that were written to the outputs of the application. -/
  emitted : Nat
  /-- Number of octets that were read and written. -/
  moved : Nat
  /-- Whether the outputs of the application are a terminal. -/
  isTerminal : Bool
  /-- Whether something has happened for which another process may have waited. -/
  stirred : Bool

namespace Host

/-! ## Processes -/

/-- The process of a given number. -/
def process? (host : Host) (number : Nat) : Option Process :=
  host.processes.find? (fun process => process.number = number)

/-- Change a process. -/
def change (number : Nat) (f : Process → Process) (host : Host) : Host :=
  { host with
    processes := host.processes.map (fun process =>
      if process.number = number then f process else process) }

/-- Tell everybody who waits that something has happened. -/
def stir (host : Host) : Host :=
  { host with stirred := true }

/-- Whether a process that runs has a descriptor for a place. -/
def isHeld (host : Host) (handle : Handle) : Bool :=
  host.processes.any (fun process => process.isRunning && process.holds handle)

/-- Whether the application can still write to its outputs. -/
def canEmit (host : Host) : Bool :=
  host.isHeld (.outlet .standard) || host.isHeld (.outlet .diagnostics)

/-- Let a process end. Its children go on without a parent. -/
def finish (number : Nat) (fate : Fate) (host : Host) : Host :=
  let left := host.processes.filter (fun process =>
    process.parent ≠ number || process.isRunning)
  { host with
    stirred := true
    processes := left.map (fun process =>
      if process.number = number then { process with fate, descriptors := [] }
      else if process.parent = number then { process with parent := 0 } else process) }

/-- Add a copy of a process; the answer is its number. -/
def copy (number : Nat) (host : Host) : Nat × Host :=
  let next := host.lastNumber + 1
  (next,
    { host with
      lastNumber := next
      processes := host.processes ++ ((host.process? number).map (·.child next)).toList })

/-- Send a signal to one process. A signal that is neither ignored nor caught ends it. -/
def signal (signal : Signal) (number : Nat) (host : Host) : Host :=
  match host.process? number with
  | none => host
  | some process =>
    if !process.isRunning ∨ signal = 0 then host
    else if signal.isNegotiable ∧ process.ignored.contains signal then host
    else if signal.isNegotiable ∧ process.caught.contains signal then
      (host.change number (fun process =>
        if process.pending.contains signal then process
        else { process with pending := process.pending ++ [signal] })).stir
    else if signal.isFatal then host.finish number (.ended signal)
    else host

/-- Whether there is a process of a given number. -/
def exists? (host : Host) (number : Nat) : Bool :=
  (host.process? number).isSome

/-- The running processes of a group. -/
def members (host : Host) (group : Nat) : List Nat :=
  (host.processes.filter (fun process => process.group = group ∧ process.isRunning)).map
    Process.number

/-- The children of a process that have ended, with how they did; only `which` if it is given. -/
def endedChildren (host : Host) (number : Nat) (which : Option Nat) : List Process :=
  host.processes.filter (fun process =>
    process.parent = number && !process.isRunning && which.all (· = process.number))

/-- Whether a process has children; only `which` counts if it is given. -/
def hasChildren (host : Host) (number : Nat) (which : Option Nat) : Bool :=
  host.processes.any (fun process =>
    process.parent = number && which.all (· = process.number))

/-- Forget a process that has ended. -/
def forget (number : Nat) (host : Host) : Host :=
  { host with processes := host.processes.filter (fun process => process.number ≠ number) }

/-! ## Files -/

/-- The files as a process sees them. -/
def view (host : Host) (process : Process) : FileTree :=
  { host.files with working := process.directory }

/-- The host with other files. -/
def withFiles (host : Host) (files : FileTree) : Host :=
  { host with files := { files with working := host.files.working } }

/-- What a name of a device leads to, if it is one. -/
def device? : List String → Option Handle
  | ["dev", "null"] => some .void
  | ["dev", "zero"] => some .zeros
  | ["dev", "full"] => some .full
  | _ => none

/-- The descriptor that a name stands for, if it stands for one. -/
def descriptorName? : List String → Option Nat
  | ["dev", "stdin"] => some 0
  | ["dev", "stdout"] => some 1
  | ["dev", "stderr"] => some 2
  | ["dev", "fd", digits] => digits.toNat?
  | _ => none

/-- The bytes of the file of given names. -/
def bytesOf (host : Host) (names : List String) : List UInt8 :=
  match host.files.get? names with
  | some (.file bytes) => bytes
  | _ => []

/-- How a file is opened. -/
inductive Mode where
  | read
  /-- Make it if it is missing, and cut off what is in it. -/
  | overwrite
  /-- Make it if it is missing, and write to its end. -/
  | append
  /-- Make it if it is missing, to read and write. -/
  | update
  deriving DecidableEq, Repr

/-- Open the file of given names. -/
def openNamed (host : Host) (names : List String) (mode : Mode) : Handle × Host :=
  let number := host.opened.size
  (.file number,
    { host with
      opened := host.opened.push
        ⟨names, 0, mode = .append, mode = .read ∨ mode = .update, mode ≠ .read⟩ })

/-- Open what a descriptor leads to. -/
def openDescriptor (host : Host) (process : Process) (descriptor : Nat) (missing : SystemError) :
    Except SystemError Handle × Host :=
  match process.handle? descriptor with
  | some handle => (.ok handle, host)
  | none => (.error missing, host)

/-- Open a file that has to be made. -/
def openNew (host : Host) (tree : FileTree) (path : Path) (mode : Mode) :
    Except SystemError Handle × Host :=
  match tree.resolveParent path with
  | .error error => (.error error, host)
  | .ok (parents, last) =>
    match tree.writeInPlace path [] with
    | .error error => (.error error, host)
    | .ok tree =>
      let (handle, host) := (host.withFiles tree).openNamed (parents ++ [last]) mode
      (.ok handle, host)

/-- Open a file; a name may also stand for a device or for an open descriptor. -/
def openFile (host : Host) (process : Process) (path : Path) (mode : Mode) :
    Except SystemError Handle × Host :=
  let tree := host.view process
  match tree.resolve path with
  | .ok (names, node) =>
    match device? names, descriptorName? names, node with
    | some device, _, _ => (.ok device, host)
    | _, some descriptor, _ => host.openDescriptor process descriptor .noDevice
    | _, _, .directory =>
      if mode = .read then
        let (handle, host) := host.openNamed names mode
        (.ok handle, host)
      else (.error .isDirectory, host)
    | _, _, .file _ =>
      if names = ["dev", "tty"] then (.error .noDevice, host)
      else
        let host :=
          if mode = .overwrite then host.withFiles (tree.set names (.file [])) else host
        let (handle, host) := host.openNamed names mode
        (.ok handle, host)
  | .error error =>
    match if path.isAbsolute then descriptorName? path.steps else none with
    | some descriptor => host.openDescriptor process descriptor .noEntry
    | none =>
      if mode = .read ∨ error ≠ .noEntry then (.error error, host)
      else host.openNew tree path mode

/-- Bytes put over others from a position on. -/
def overlay (bytes : List UInt8) (position : Nat) (written : List UInt8) : List UInt8 :=
  if position = bytes.length then bytes ++ written
  else
    bytes.take position ++ List.replicate (position - bytes.length) 0 ++ written ++
      bytes.drop (position + written.length)

/-! ## Reading and writing -/

/-- What comes of an attempt. -/
inductive Attempt (α : Type) where
  | done (value : α)
  /-- It has to be tried again: when something has happened, or at a time. -/
  | later (wake : Option Duration)

/-- A way to take the first part of what can be read: that part, unless more has to come first.
The flag tells whether more can come. -/
structure Taking where
  fromBytes : List UInt8 → List UInt8
  fromPipe : Pipe → Bool → Option (Octets × Pipe)

namespace Taking

/-- Take at most `most` octets. -/
def atMost (most : Nat) : Taking where
  fromBytes := List.take most
  fromPipe pipe more := if pipe.size = 0 ∧ more then none else some (pipe.take most)

/-- Take a line with its end; at the end of everything take what is left. -/
def line : Taking where
  fromBytes bytes :=
    let line := bytes.takeWhile (fun byte => Char.ofNat byte.toNat ≠ Octets.lineEnd)
    line ++ (bytes.drop line.length).take 1
  fromPipe pipe more :=
    match pipe.takeLine? with
    | some found => some found
    | none => if more then none else some (pipe.content, .empty)

end Taking

/-- Read from an open file. -/
def readFile (host : Host) (taking : Taking) (number : Nat) (file : OpenFile) :
    Except SystemError Octets × Host :=
  if !file.reads then (.error .badDescriptor, host)
  else if host.files.get? file.names = some .directory then (.error .isDirectory, host)
  else
    let text :=
      Octets.ofBytes (taking.fromBytes ((host.bytesOf file.names).drop file.position))
    let file := { file with position := file.position + text.length }
    (.ok text, { host with opened := host.opened.setIfInBounds number file })

/-- Number of zeros that are read at once. -/
def zerosAtOnce : Nat := 4096

/-- Read from a descriptor; nothing is read at an end. -/
def read (host : Host) (process : Process) (taking : Taking) (descriptor : Nat) :
    Attempt (Except SystemError Octets) × Host :=
  let zeros := Octets.ofBytes (taking.fromBytes (List.replicate zerosAtOnce 0))
  match process.handle? descriptor with
  | none => (.done (.error .badDescriptor), host)
  | some (.outlet _) =>
    if host.isTerminal then (.later none, host) else (.done (.error .badDescriptor), host)
  | some .void => (.done (.ok []), host)
  | some .zeros | some .full => (.done (.ok zeros), host)
  | some (.file number) =>
    match host.opened[number]? with
    | none => (.done (.error .badDescriptor), host)
    | some file =>
      let (result, host) := host.readFile taking number file
      (.done result, host)
  | some (.pipe _ true) => (.done (.error .badDescriptor), host)
  | some (.pipe number false) =>
    let pipe := host.pipes[number]?.getD .empty
    match taking.fromPipe pipe (host.isHeld (.pipe number true)) with
    | none => (.later none, host)
    | some (text, pipe) =>
      (.done (.ok text), ({ host with pipes := host.pipes.setIfInBounds number pipe }).stir)

/-- Write to an open file, unless it was removed. -/
def writeFile (host : Host) (number : Nat) (file : OpenFile) (text : Octets) : Host :=
  match host.files.get? file.names with
  | some (.file before) =>
    let position := if file.appends then before.length else file.position
    let bytes := overlay before position text.toBytes
    { host with
      files := host.files.set file.names (.file bytes)
      opened := host.opened.setIfInBounds number
        { file with position := position + text.length } }
  | _ => host

/-- Number of octets that the outputs of an application take. -/
def maxEmitted : Nat := 1048576

/-- Write to an output of the application. Once it has taken as much as it takes, everybody who
writes more waits. -/
def emit (host : Host) (outlet : Output.Outlet) (text : Octets) : Attempt Unit × Host :=
  if maxEmitted ≤ host.emitted then (.later none, host)
  else
    (.done (),
      { host with
        emissions := ⟨host.clock, outlet, text.toBytes⟩ :: host.emissions
        emitted := host.emitted + text.length })

/-- Write to a descriptor. Who writes what nobody can read is told so by a signal. -/
def write (host : Host) (process : Process) (descriptor : Nat) (text : Octets) :
    Attempt (Except SystemError Unit) × Host :=
  if text.isEmpty then (.done (.ok ()), host)
  else
    match process.handle? descriptor with
    | none => (.done (.error .badDescriptor), host)
    | some (.outlet outlet) =>
      match host.emit outlet text with
      | (.done (), host) => (.done (.ok ()), host)
      | (.later wake, host) => (.later wake, host)
    | some .void | some .zeros => (.done (.ok ()), host)
    | some .full => (.done (.error .noSpace), host)
    | some (.file number) =>
      match host.opened[number]? with
      | none => (.done (.error .badDescriptor), host)
      | some file =>
        if file.writes then (.done (.ok ()), host.writeFile number file text)
        else (.done (.error .badDescriptor), host)
    | some (.pipe _ false) => (.done (.error .badDescriptor), host)
    | some (.pipe number true) =>
      if !host.isHeld (.pipe number false) then
        (.done (.error .brokenPipe), host.signal Signal.brokenPipe process.number)
      else
        let pipe := host.pipes[number]?.getD .empty
        if pipe.hasRoom then
          (.done (.ok ()),
            ({ host with pipes := host.pipes.setIfInBounds number (pipe.push text) }).stir)
        else (.later none, host)

/-- Count octets that were read or written. -/
def noteMoved (host : Host) (text : Octets) : Host :=
  { host with moved := host.moved + text.length }

/-- A new pipe, by its number. -/
def makePipe (host : Host) : Nat × Host :=
  (host.pipes.size, { host with pipes := host.pipes.push .empty })

end Host

end PubSubTrials
