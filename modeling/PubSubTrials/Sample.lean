/-!
# Samples

A data line ends like `Square     BLUE       012 034 [20]`; the two groups of three digits
identify the sample that it shows. A window of output may hold several such tokens: the last
one belongs to the line that ends the window.
-/

namespace PubSubTrials

/-- Identifier of one unit of published data; any text can be carried. -/
structure Sample where
  token : String
  deriving DecidableEq, Repr, Inhabited, Hashable

namespace Sample

/-- Length of a token that was printed: three digits, a space, three digits. -/
def tokenLength : Nat := 7

/-- An ASCII digit. -/
def isDigit (c : Char) : Bool :=
  '0' ≤ c && c ≤ '9'

/-- Whether a text starts with a token. -/
def startsToken : List Char → Bool
  | a :: b :: c :: space :: d :: e :: f :: _ =>
    isDigit a && isDigit b && isDigit c && space == ' ' && isDigit d && isDigit e && isDigit f
  | _ => false

/-- Whether a text is one token and nothing else. -/
def isToken (text : List Char) : Bool :=
  text.length == tokenLength && startsToken text

/-- The sample of a text that is one token. -/
def parse (text : List Char) : Option Sample :=
  if isToken text then some ⟨String.ofList text⟩ else none

/-- The last token of a text, given the last one of what stands before it. -/
def findLastFrom (found : Option (List Char)) : List Char → Option (List Char)
  | [] => found
  | c :: rest =>
    findLastFrom
      (if startsToken (c :: rest) then some ((c :: rest).take tokenLength) else found) rest

/-- The token that starts last in a text. -/
def findLast (text : List Char) : Option Sample :=
  (findLastFrom none text).map (fun token => ⟨String.ofList token⟩)

end Sample

end PubSubTrials
