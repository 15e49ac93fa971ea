import PubSubTrials.Text.Utf8

/-!
# Transcripts

The end of what an application has printed, kept for people to read: as many of the last
characters as fit into `Transcript.capacity` bytes. A line is added in front of the characters
before it, and what no longer fits is given up only when it is as much again, so that adding a
line takes no longer than the line.
-/

namespace PubSubTrials.Output

/-- The most recent output of an application. -/
structure Transcript where
  /-- The last characters, the latest one first. -/
  recent : List Char
  /-- Their number of bytes. -/
  size : Nat
  deriving DecidableEq, Repr, Inhabited

namespace Transcript

/-- The number of bytes that a transcript shows. -/
def capacity : Nat := 64 * 1024

/-- Nothing printed so far. -/
def empty : Transcript := ⟨[], 0⟩

/-- As much of the start of a text as fits into `room` bytes. -/
def fitting : Nat → List Char → List Char
  | _, [] => []
  | room, c :: rest =>
    if c.utf8Size ≤ room then c :: fitting (room - c.utf8Size) rest else []

/-- What a transcript shows. -/
def text (transcript : Transcript) : List Char :=
  (fitting capacity transcript.recent).reverse

/-- The transcript of characters, the latest one first, of a given size. -/
def keep (recent : List Char) (size : Nat) : Transcript :=
  if size ≤ 2 * capacity then ⟨recent, size⟩
  else
    let kept := fitting capacity recent
    ⟨kept, Text.byteLength kept⟩

/-- A transcript after one more line. -/
def push (transcript : Transcript) (line : List Char) : Transcript :=
  keep ('\n' :: line.reverseAux transcript.recent)
    (transcript.size + Text.byteLength line + 1)

/-- Giving up early what does not fit changes nothing. -/
theorem fitting_append_fitting (room : Nat) (later earlier : List Char) :
    fitting room (later ++ fitting room earlier) = fitting room (later ++ earlier) := by
  have within (a b : Nat) (h : a ≤ b) (text : List Char) :
      fitting a (fitting b text) = fitting a text := by
    induction text generalizing a b with
    | nil => rfl
    | cons c rest ih =>
      by_cases hb : c.utf8Size ≤ b
      · by_cases ha : c.utf8Size ≤ a
        · rw [fitting, if_pos hb, fitting, if_pos ha, fitting, if_pos ha, ih _ _ (by omega)]
        · rw [fitting, if_pos hb, fitting, if_neg ha, fitting, if_neg ha]
      · rw [fitting, if_neg hb, fitting, fitting, if_neg (by omega)]
  have grown (a : Nat) (h : a ≤ room) :
      fitting a (later ++ fitting room earlier) = fitting a (later ++ earlier) := by
    induction later generalizing a with
    | nil => exact within a room h earlier
    | cons c rest ih =>
      rw [List.cons_append, List.cons_append, fitting, fitting]
      by_cases ha : c.utf8Size ≤ a
      · rw [if_pos ha, if_pos ha, ih _ (by omega)]
      · rw [if_neg ha, if_neg ha]
  exact grown room (Nat.le_refl room)

/-- Whether or not something is given up, the same is shown. -/
theorem text_keep (recent : List Char) (size : Nat) :
    (keep recent size).text = (fitting capacity recent).reverse := by
  unfold keep text
  split
  · rfl
  · exact congrArg List.reverse (by simpa using fitting_append_fitting capacity [] recent)

end Transcript

end PubSubTrials.Output
