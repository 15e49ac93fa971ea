import PubSubTrials.Duration
import PubSubTrials.Output.Lines

/-!
# Broadcasts

What an application writes to its two outputs in the course of time, and how it is captured.
Through a terminal both outputs arrive as one; through pipes each one is cut into lines on its
own. A line arrives when it is ended. A line that is not ended when the outputs are closed arrives
then through a pipe and is lost through a terminal.
-/

namespace PubSubTrials.Output

/-- How the output of applications is captured. -/
inductive Capture where
  | terminal
  | pipe
  deriving DecidableEq, Repr, Inhabited

/-- The two outputs of an application. -/
inductive Outlet where
  | standard
  | diagnostics
  deriving DecidableEq, Repr

/-- Bytes that are written at one time. -/
structure Emission where
  time : Duration
  outlet : Outlet
  bytes : List UInt8
  deriving DecidableEq, Repr

/-- A line with the time of its arrival. -/
abbrev Arrival := Duration × List Char

/-- What an application writes, in the order of time, and when its outputs are closed. -/
structure Broadcast where
  emissions : List Emission
  /-- Absent if the outputs stay open. -/
  closing : Option Duration
  deriving DecidableEq, Repr

/-- What a terminal makes of an emission. -/
def Emission.throughTerminal (emission : Emission) : Emission :=
  { emission with outlet := .standard, bytes := Lines.throughTerminal emission.bytes }

/-- What each output has of a line that is not ended, in reverse. -/
structure Unended where
  standard : List UInt8
  diagnostics : List UInt8
  deriving DecidableEq, Repr

namespace Unended

/-- No line has begun. -/
def nothing : Unended := ⟨[], []⟩

/-- The lines that an emission ends, and what is left. -/
def feed (left : Unended) (emission : Emission) : List (List UInt8) × Unended :=
  match emission.outlet with
  | .standard =>
    let (lines, standard) := Lines.feed left.standard emission.bytes
    (lines, { left with standard })
  | .diagnostics =>
    let (lines, diagnostics) := Lines.feed left.diagnostics emission.bytes
    (lines, { left with diagnostics })

/-- What is left after emissions. -/
def after (left : Unended) (emissions : List Emission) : Unended :=
  emissions.foldl (fun left emission => (left.feed emission).2) left

/-- The lines that are there if no more is written. -/
def lines (left : Unended) : List (List UInt8) :=
  Lines.unended left.standard ++ Lines.unended left.diagnostics

end Unended

/-- Lines that arrive at a time. -/
def arriveAt (time : Duration) (lines : List (List UInt8)) : List Arrival :=
  lines.map (fun line => (time, Text.decodeLossy line))

/-- The lines that emissions end, as they arrive. -/
def endedLines (left : Unended) : List Emission → List Arrival
  | [] => []
  | emission :: rest =>
    arriveAt emission.time (left.feed emission).1 ++ endedLines (left.feed emission).2 rest

namespace Broadcast

/-- The emissions as they are captured. -/
def captured (broadcast : Broadcast) : Capture → List Emission
  | .terminal => broadcast.emissions.map Emission.throughTerminal
  | .pipe => broadcast.emissions

/-- The lines that arrive because the outputs are closed at a time. -/
def lastLines (broadcast : Broadcast) (capture : Capture) (time : Duration) : List Arrival :=
  match capture with
  | .terminal => []
  | .pipe =>
    let written := broadcast.emissions.filter (fun emission => emission.time.hasCome time)
    arriveAt time (Unended.nothing.after written).lines

/-- The lines of a broadcast as they arrive. -/
def arrivals (broadcast : Broadcast) (capture : Capture) : List Arrival :=
  endedLines .nothing (broadcast.captured capture) ++
    broadcast.closing.toList.flatMap (broadcast.lastLines capture)

end Broadcast

end PubSubTrials.Output
