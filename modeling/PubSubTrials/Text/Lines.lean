/-!
# Lines of a text

A text is shown line by line; a line ends at a line feed, of which a carriage return before it
is a part.
-/

namespace PubSubTrials.Text

/-- A line that ends in a line feed, given in reverse. -/
def endLine : List Char → List Char
  | '\r' :: rest => rest.reverse
  | reversed => reversed.reverse

/-- The lines of a text; `reversed` holds what the current one has so far. -/
def linesFrom (reversed : List Char) : List Char → List (List Char)
  | [] => if reversed.isEmpty then [] else [reversed.reverse]
  | c :: rest =>
    if c = '\n' then endLine reversed :: linesFrom [] rest else linesFrom (c :: reversed) rest

/-- The lines of a text; an end of line at its end does not start another one. -/
def lines (text : String) : List String :=
  (linesFrom [] text.toList).map String.ofList

end PubSubTrials.Text
