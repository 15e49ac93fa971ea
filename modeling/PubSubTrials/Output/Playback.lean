import PubSubTrials.Output.Broadcast
import PubSubTrials.Output.Console

/-!
# Playbacks

A console whose lines arrive in the course of time. Waiting for patterns lasts until one is
found, the time to wait is over, or the output has ended; the clock of the playback moves along.
When the application is terminated, lines that have arrived stay, what was begun may arrive as a
last line, and no more follows.
-/

namespace PubSubTrials.Output

/-- One step of an application that follows a script. -/
inductive Cue where
  | line (text : List Char)
  | pause (time : Duration)
  /-- Keep the output open from here on. -/
  | hang
  deriving DecidableEq, Repr

/-- A console, the lines that will arrive at it, and the time. -/
structure Playback where
  console : Console
  /-- Lines not received yet, in the order of their arrival. -/
  upcoming : List Arrival
  /-- When the output ends, if it does. -/
  closing : Option Duration
  /-- The lines that arrive because the application is terminated at a time. -/
  remnant : Duration → List Arrival
  now : Duration

namespace Playback

/-- The playback of a broadcast. -/
def ofBroadcast (capture : Capture) (broadcast : Broadcast) : Playback where
  console := .ofLines [] true
  upcoming := broadcast.arrivals capture
  closing := broadcast.closing
  remnant := broadcast.lastLines capture
  now := .zero

/-- When the lines of cues arrive and the output ends, from a time on. -/
def scheduleFrom (time : Duration) : List Cue → List Arrival × Option Duration
  | [] => ([], some time)
  | .hang :: _ => ([], none)
  | .pause more :: rest => scheduleFrom (time.add more) rest
  | .line text :: rest =>
    let (arrivals, closing) := scheduleFrom time rest
    ((time, text) :: arrivals, closing)

/-- The playback of cues. -/
def ofCues (cues : List Cue) : Playback where
  console := .ofLines [] true
  upcoming := (scheduleFrom .zero cues).1
  closing := (scheduleFrom .zero cues).2
  remnant := fun _ => []
  now := .zero

/-- Whether the output has ended at a time. -/
def hasClosed (playback : Playback) (time : Duration) : Bool :=
  playback.closing.any (fun closing => closing.hasCome time)

/-- The last time at which one of several lines arrives, but not before `time`. -/
def reached (time : Duration) (received : List Arrival) : Duration :=
  received.foldl (fun now arrival => now.longer arrival.1) time

/-- Wait for patterns, at most for a time. -/
def expect (playback : Playback) (patterns : List Pattern) (timeout : Duration) :
    Reply × Playback :=
  let deadline := playback.now.add timeout
  let arriving := playback.upcoming.takeWhile (fun arrival => arrival.1.hasCome deadline)
  let waiting : Console :=
    { playback.console with
      incoming := arriving.map Prod.snd
      isOpen := !playback.hasClosed deadline }
  let (reply, console) := waiting.expect patterns
  let received := arriving.length - console.incoming.length
  let reached := reached playback.now (arriving.take received)
  let now :=
    match reply with
    | .found _ => reached
    | .timeout => deadline
    | .endOfOutput => reached.longer (playback.closing.getD reached)
  (reply,
    { playback with
      console := { console with incoming := [] }
      upcoming := playback.upcoming.drop received
      now })

/-- Stop the application. -/
def terminate (playback : Playback) : Playback :=
  if playback.hasClosed playback.now then playback
  else
    { playback with
      upcoming :=
        playback.upcoming.filter (fun arrival => arrival.1.hasCome playback.now) ++
          playback.remnant playback.now
      closing := some playback.now
      remnant := fun _ => [] }

end Playback

end PubSubTrials.Output
