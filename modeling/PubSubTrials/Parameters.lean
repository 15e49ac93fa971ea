/-!
# Parameters

An entity's parameters are one string, for instance `-t Square -p "p1"`, that becomes separate
words on the command line of its application. ASCII whitespace separates words; quotes of
either kind keep whitespace and the other quote inside a word and are dropped themselves. A
quote that is never closed runs to the end.
-/

namespace PubSubTrials.Parameters

/-- Whitespace between words. -/
def isBlank (c : Char) : Bool :=
  c = ' ' || c = '\t' || c = '\n' || c = '\x0c' || c = '\r'

/-- The two quotes. -/
def isQuote (c : Char) : Bool :=
  c = '"' || c = '\''

/-- A reader's position: between words, or inside one whose characters so far are given in
reverse, possibly under a quote. -/
inductive Position where
  | between
  | bare (word : List Char)
  | quoted (mark : Char) (word : List Char)
  deriving DecidableEq, Repr

/-- The words of a text read from a position on. -/
def wordsFrom : Position → List Char → List (List Char)
  | .between, [] => []
  | .bare word, [] => [word.reverse]
  | .quoted _ word, [] => [word.reverse]
  | .between, c :: rest =>
    if isQuote c then wordsFrom (.quoted c []) rest
    else if isBlank c then wordsFrom .between rest
    else wordsFrom (.bare [c]) rest
  | .bare word, c :: rest =>
    if isQuote c then wordsFrom (.quoted c word) rest
    else if isBlank c then word.reverse :: wordsFrom .between rest
    else wordsFrom (.bare (c :: word)) rest
  | .quoted mark word, c :: rest =>
    if c = mark then wordsFrom (.bare word) rest
    else wordsFrom (.quoted mark (c :: word)) rest

/-- The words of a parameter string. -/
def words (parameters : String) : List String :=
  (wordsFrom .between parameters.toList).map String.ofList

/-- Words that make a publisher print every sample it sends; applications differ in which one
they know. -/
def reportingFlags : List String := ["-w", "-v"]

/-- Whether the parameters ask for every sample to be printed. -/
def requestReporting (parameters : String) : Bool :=
  (words parameters).any (fun word => reportingFlags.contains word)

/-- The pieces of a text between blanks, whatever their quotes; `word` holds the current piece
in reverse. -/
def piecesFrom (word : List Char) : List Char → List (List Char)
  | [] => if word.isEmpty then [] else [word.reverse]
  | c :: rest =>
    if isBlank c then
      if word.isEmpty then piecesFrom [] rest else word.reverse :: piecesFrom [] rest
    else piecesFrom (c :: word) rest

/-- The word that chooses a data representation. -/
def representationFlag : String := "-x"

/-- Parameters that choose a data representation: their own choice, or the second one. -/
def withRepresentation (parameters : String) : String :=
  if (piecesFrom [] parameters.toList).contains representationFlag.toList then parameters
  else parameters ++ " " ++ representationFlag ++ " 2"

end PubSubTrials.Parameters
