import PubSubTrials.Host.Machine
import PubSubTrials.Host.System
import PubSubTrials.Programs.System
import PubSubTrials.Run.Deployment
import PubSubTrials.Run.Performance

/-!
# Applications

What comes of starting an application on a system with given files: either a reason why it
cannot be started, or a broadcast of all that it writes, and the files as it leaves them. This is
one theatre among others (`Deployment.theatre`), on a simulated system with its shell and programs.
-/

namespace PubSubTrials

/-- The files of a system with nothing but what every system has. -/
def FileTree.ofSystem : FileTree := .ofPrograms Programs.names

namespace Invocation

/-- Number of bytes that one word of an invocation may have. -/
def maxWordBytes : Nat := 131071

/-- The variables that applications are given. -/
def environment : List (Octets × Octets) :=
  [("PATH".toList, Host.usualPlaces), ("HOME".toList, "/root".toList)]

/-- The path of the program of an invocation, or why it cannot be started. -/
def program? (files : FileTree) (invocation : Invocation) : Except SystemError Octets := do
  let path ← Host.findProgram files [] Host.usualPlaces (Octets.ofString invocation.program)
  match ← Host.image files [] path with
  | .text => throw .notExecutable
  | _ =>
    if invocation.words.any (fun word => maxWordBytes < word.utf8ByteSize) then throw .tooLong
    else return path

/-- The number of the process of an application. -/
def processNumber : Nat := 100

/-- The process of an application. -/
def process (files : FileTree) : Host.Process where
  number := processNumber
  parent := 1
  group := processNumber
  directory := files.working
  descriptors := [(0, .void), (1, .outlet .standard), (2, .outlet .diagnostics)]
  ignored := []
  caught := []
  pending := []
  mask := 18
  fate := .running

/-- The time until a program that was started does its first step. -/
def startup : Duration := .ofMillis 1

/-- A host on which an application is about to start. -/
def host (files : FileTree) (capture : Output.Capture) : Host where
  clock := startup
  files
  executables := []
  opened := #[]
  pipes := #[]
  processes := [process files]
  lastNumber := processNumber
  emissions := []
  emitted := 0
  moved := 0
  isTerminal := capture == .terminal
  stirred := false

/-- What runs the program of a path with the words of an invocation. -/
def machine (files : FileTree) (capture : Output.Capture) (path : Octets)
    (invocation : Invocation) : Host.Machine where
  host := host files capture
  ready :=
    [(processNumber, (Programs.execute
      { name := Octets.ofString invocation.program
        path
        arguments := invocation.arguments.map Octets.ofString
        environment }).toStep)]
  waiting := []
  patience := Host.Machine.turn
  closing := none

/-- The time after which nothing more of an application is looked at. -/
def horizon : Duration := .ofSeconds 600

/-- Number of moves after which nothing more of an application is looked at. -/
def maxMoves : Nat := 1000000

/-- Start a program on a system with given files: all that it writes, and the files that it leaves
if it is run up to a time. -/
def start (files : FileTree) (capture : Output.Capture) (until' : Duration)
    (invocation : Invocation) : Except LaunchError (Output.Broadcast × FileTree) :=
  let refuse (reason : String) : Except LaunchError (Output.Broadcast × FileTree) :=
    .error (.notStarted invocation.text reason)
  if invocation.words.any (fun word => word.toList.contains '\x00') then
    refuse "nul byte found in provided data"
  else
    match invocation.program? files with
    | .error error => refuse error.message
    | .ok path =>
      let machine := (invocation.machine files capture path).run until' maxMoves
      .ok (machine.broadcast, machine.host.files)

end Invocation

/-- Whether a line holds a marker. -/
def Output.Marker.isIn (line : List Char) (markers : List Output.Marker) : Bool :=
  (Output.scan (markers.map Output.Pattern.marker) [] line).isSome

/-- What one sees of an application. -/
structure Watch where
  lines : List (List Char)
  /-- When one stops to wait for more. -/
  deadline : Duration
  /-- When data is seen first. -/
  data : Option Duration

namespace Watch

/-- Watch lines as they arrive; after each marker one waits for the next one for a time. -/
def run (patience : Duration) : Duration → List Output.Arrival → Watch
  | deadline, [] => ⟨[], deadline, none⟩
  | deadline, (time, line) :: rest =>
    if time.hasCome deadline then
      let isMarked := Output.Marker.isIn line Output.Marker.all
      let later := run patience (if isMarked then time.add patience else deadline) rest
      { later with
        lines := line :: later.lines
        data := if Output.Marker.isIn line [.data] then some time else later.data }
    else ⟨[], deadline, none⟩

end Watch

/-- How an application performs, and the files that it leaves: those at its end or, if it does not
end in time, at its first data or when one stops to wait for it. -/
def Invocation.perform (invocation : Invocation) (capture : Output.Capture) (patience : Duration)
    (files : FileTree) : Except LaunchError Performance × FileTree :=
  match invocation.start files capture horizon with
  | .error error => (.error error, files)
  | .ok (broadcast, left) =>
    let watch := Watch.run patience patience (broadcast.arrivals capture)
    let ends := broadcast.closing.any (fun time => time.hasCome watch.deadline)
    let performance : Performance := ⟨watch.lines.map String.ofList, !ends, none⟩
    if ends then (.ok performance, left)
    else
      match invocation.start files capture (watch.data.getD watch.deadline) with
      | .ok (_, left) => (.ok performance, left)
      | .error _ => (.ok performance, left)

/-- The theatre in which the applications of a deployment perform: they find files, and leave
files. -/
def Deployment.theatre (deployment : Deployment) : Theatre FileTree :=
  fun patience role parameters files =>
    (deployment.invocation role parameters).perform deployment.capture patience files

end PubSubTrials
