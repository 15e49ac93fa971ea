import PubSubTrials.Text.Utf8

/-!
# Lines of output

An application writes bytes; they are read as lines. A line ends after each line feed, carriage
returns and line feeds at its end are not part of it, and what is no UTF-8 in it is replaced.
Through a terminal every line feed arrives as a carriage return and a line feed.
-/

namespace PubSubTrials.Output.Lines

/-- The byte that ends a line. -/
def lineFeed : UInt8 := 10

/-- The byte that a terminal puts before a line feed. -/
def carriageReturn : UInt8 := 13

/-- Whether a byte at the end of a line belongs to the line's end. -/
def isLineEnd (b : UInt8) : Bool :=
  b == lineFeed || b == carriageReturn

/-- A line, given in reverse, without the line ends after it. -/
def strip (reversed : List UInt8) : List UInt8 :=
  (reversed.dropWhile isLineEnd).reverse

/-- Cut bytes into lines; `reversed` holds what the current line has so far. -/
def cutFrom (reversed : List UInt8) : List UInt8 → List (List UInt8)
  | [] => if reversed.isEmpty then [] else [strip reversed]
  | b :: rest =>
    if b = lineFeed then strip reversed :: cutFrom [] rest else cutFrom (b :: reversed) rest

/-- The lines that bytes are cut into; a line that is not ended counts if it has a byte. -/
def cut (bytes : List UInt8) : List (List UInt8) :=
  cutFrom [] bytes

/-- The lines that `bytes` end, after `reversed`, and what the line after them has so far. -/
def feed (reversed : List UInt8) : List UInt8 → List (List UInt8) × List UInt8
  | [] => ([], reversed)
  | b :: rest =>
    if b = lineFeed then
      let (lines, left) := feed [] rest
      (strip reversed :: lines, left)
    else feed (b :: reversed) rest

/-- A line that is not ended, if it has a byte. -/
def unended (reversed : List UInt8) : List (List UInt8) :=
  if reversed.isEmpty then [] else [strip reversed]

/-- Bytes may be fed in pieces: the lines that a piece ends do not depend on later ones. -/
theorem cutFrom_append (reversed bytes more : List UInt8) :
    cutFrom reversed (bytes ++ more) =
      (feed reversed bytes).1 ++ cutFrom (feed reversed bytes).2 more := by
  induction bytes generalizing reversed with
  | nil => rfl
  | cons b rest ih =>
    by_cases h : b = lineFeed <;> simp [cutFrom, feed, h, ih]

theorem cutFrom_nil (reversed : List UInt8) : cutFrom reversed [] = unended reversed := rfl

/-- The lines of what an application wrote, as texts. -/
def read (bytes : List UInt8) : List (List Char) :=
  (cut bytes).map Text.decodeLossy

/-- What arrives through a terminal. -/
def throughTerminal (bytes : List UInt8) : List UInt8 :=
  bytes.flatMap (fun b => if b = lineFeed then [carriageReturn, lineFeed] else [b])

end PubSubTrials.Output.Lines
