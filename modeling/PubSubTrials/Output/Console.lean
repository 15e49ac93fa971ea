import PubSubTrials.Output.Pattern
import PubSubTrials.Output.Transcript

/-!
# Consoles

A console watches the lines of one application. `expect` looks for the leftmost hit of a set of
patterns in the text received and not yet consumed, and receives one more line as long as there
is no hit. What stands before a hit becomes `before`, the hit itself `after`, and
both leave the pending text. Text that was searched without a hit is not searched again, apart
from the end of it, where a hit may begin that a further line completes: the last `overlap` bytes,
and the rest of the character that these begin in.
-/

namespace PubSubTrials.Output

/-- What came of waiting for patterns. -/
inductive Reply where
  /-- The pattern of this index was found. -/
  | found (index : Nat)
  /-- No pattern stands in what has arrived, and more may come. -/
  | timeout
  /-- The output has ended without any of the patterns. -/
  | endOfOutput
  deriving DecidableEq, Repr

/-- The output of one application, line by line. -/
structure Console where
  /-- Lines that have arrived and were not received yet. -/
  incoming : List (List Char)
  /-- Whether more lines may arrive. -/
  isOpen : Bool
  /-- Received text that no call has consumed. -/
  pending : List Char
  /-- What stood before the last hit. -/
  before : List Char
  /-- The last hit. -/
  after : List Char
  transcript : Transcript
  deriving DecidableEq, Repr

/-- Pending text that is searched for patterns: in a part of it there is no hit. -/
structure Window where
  /-- What is not searched again, in reverse. -/
  passed : List Char
  /-- What is searched. -/
  live : List Char
  deriving DecidableEq, Repr

namespace Window

/-- Text of which nothing was searched. -/
def ofText (text : List Char) : Window := ⟨[], text⟩

/-- The whole text. -/
def text (window : Window) : List Char :=
  window.passed.reverse ++ window.live

/-- Bytes at the end of searched text that are searched again when a line arrives. -/
def overlap : Nat := 1024

/-- How many characters at the head of a text it takes to hold `bytes` bytes. -/
def charsHolding : Nat → List Char → Nat
  | 0, _ => 0
  | _ + 1, [] => 0
  | bytes + 1, c :: rest => 1 + charsHolding (bytes + 1 - c.utf8Size) rest

/-- Where the next search starts, in bytes, when a text was searched in vain: the overlap before
its end, or as much before that as it takes not to start inside a character. -/
def resumePoint (text : List Char) : Nat :=
  Text.boundaryUpTo text (Text.byteLength text - overlap)

/-- A text that is searched from an offset in bytes on. -/
def startingAt (offset : Nat) (text : List Char) : Window :=
  let n := charsHolding offset text
  ⟨(text.take n).reverse, text.drop n⟩

/-- The leftmost hit in what is searched. -/
def find (window : Window) (patterns : List Pattern) : Option Hit :=
  scan patterns window.passed window.live

/-- Pass over what need not be searched again. -/
def advance (window : Window) : Window :=
  startingAt (resumePoint window.text) window.text

/-- Add a line. -/
def add (window : Window) (line : List Char) : Window :=
  { window with live := window.live ++ (line ++ ['\n']) }

@[simp] theorem text_ofText (text : List Char) : (ofText text).text = text := rfl

@[simp] theorem text_startingAt (offset : Nat) (text : List Char) :
    (startingAt offset text).text = text := by
  simp [startingAt, Window.text]

@[simp] theorem text_advance (window : Window) : window.advance.text = window.text :=
  text_startingAt _ _

@[simp] theorem text_add (window : Window) (line : List Char) :
    (window.add line).text = window.text ++ (line ++ ['\n']) := by
  simp [add, text]

end Window

namespace Console

/-- A console at which `lines` have arrived. -/
def ofLines (lines : List (List Char)) (isOpen : Bool) : Console :=
  ⟨lines, isOpen, [], [], [], .empty⟩

/-- Consume the pending text up to the end of a hit. -/
def consume (console : Console) (hit : Hit) : Console :=
  { console with before := hit.before, after := hit.matched, pending := hit.rest }

/-- Consume all that is pending because the output has ended. -/
def finish (console : Console) (text : List Char) : Console :=
  { console with before := text, after := [], pending := [] }

/-- Record a line that was received. -/
def record (console : Console) (line : List Char) : Console :=
  { console with transcript := console.transcript.push line }

/-- Wait for patterns, receiving from the given lines; `window` holds the pending text. -/
def expectFrom (patterns : List Pattern) (console : Console) (window : Window) :
    List (List Char) → Reply × Console
  | [] =>
    match window.find patterns with
    | some hit => (.found hit.index, { console.consume hit with incoming := [] })
    | none =>
      if console.isOpen then
        (.timeout, { console with incoming := [], pending := window.text })
      else (.endOfOutput, { console.finish window.text with incoming := [] })
  | line :: rest =>
    match window.find patterns with
    | some hit => (.found hit.index, { console.consume hit with incoming := line :: rest })
    | none => expectFrom patterns (console.record line) (window.advance.add line) rest

/-- Wait for patterns among what has arrived. -/
def expect (console : Console) (patterns : List Pattern) : Reply × Console :=
  expectFrom patterns console (.ofText console.pending) console.incoming

/-- Let more lines arrive, unless the output has ended. -/
def deliver (console : Console) (lines : List (List Char)) : Console :=
  if console.isOpen then { console with incoming := console.incoming ++ lines } else console

/-- End the output after the lines that have arrived. -/
def close (console : Console) : Console :=
  { console with isOpen := false }

end Console

end PubSubTrials.Output
