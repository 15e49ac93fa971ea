import PubSubTrials.Text.Octets

/-!
# Classes of characters

Patterns and sets of characters may name classes of characters. Only characters that stand for
bytes below 128 belong to them.
-/

namespace PubSubTrials.CharClass

/-- Whether a character belongs to the class of a name. -/
def holds (name : String) (c : Char) : Bool :=
  let code := c.toNat
  match name with
  | "alnum" => c.isAlphanum
  | "alpha" => c.isAlpha
  | "blank" => Octets.isBlank c
  | "cntrl" => code < 32 || code = 127
  | "digit" => c.isDigit
  | "graph" => 32 < code && code < 127
  | "lower" => c.isLower
  | "print" => 32 ≤ code && code < 127
  | "punct" => 32 < code && code < 127 && !c.isAlphanum
  | "space" => Octets.isSpace c
  | "upper" => c.isUpper
  | "xdigit" => c.isDigit || ('a' ≤ c.toLower && c.toLower ≤ 'f')
  | _ => false

/-- The names of all classes. -/
def names : List String :=
  ["alnum", "alpha", "blank", "cntrl", "digit", "graph", "lower", "print", "punct", "space",
   "upper", "xdigit"]

/-- The characters of a class in the order of their numbers. -/
def members? (name : String) : Option (List Char) :=
  if names.contains name then some (((List.range 256).map Char.ofNat).filter (holds name))
  else none

/-- Whether a character can stand in a word. -/
def inWord (c : Char) : Bool := c.isAlphanum || c = '_'

end PubSubTrials.CharClass
