import PubSubTrials.Text.Utf8

/-!
# Patterns in output

An application announces each stage of its life by a marker in its output. A marker has one or
more written forms, each a row of cells that accept one character each; a pattern is a marker
or a literal text. `scan` finds the leftmost place at which one of several patterns stands,
the first of them in the list if there are several there.
-/

namespace PubSubTrials.Output

/-- One place of a written form. -/
inductive Cell where
  | exactly (c : Char)
  | digit
  deriving DecidableEq, Repr

/-- Whether a character may stand in a cell. -/
def Cell.accepts : Cell → Char → Bool
  | exactly c, d => c == d
  | digit, d => '0' ≤ d && d ≤ '9'

/-- The cells of a fixed text. -/
def fixed (text : String) : List Cell :=
  text.toList.map Cell.exactly

/-- Whether a written form stands at the head of a text. -/
def stands : List Cell → List Char → Bool
  | [], _ => true
  | _ :: _, [] => false
  | cell :: cells, c :: rest => cell.accepts c && stands cells rest

/-- What an application prints at a stage of its life, or when it gives up. -/
inductive Marker where
  | topicCreated
  | topicNameRequired
  | parseError
  | unrecognizedValue
  | writerCreated
  | readerCreated
  | filterFailed
  | publicationMatched
  | subscriptionMatched
  | offeredIncompatibleQos
  | requestedIncompatibleQos
  | livelinessChanged
  | data
  deriving DecidableEq, Repr

namespace Marker

/-- Every marker. -/
def all : List Marker :=
  [topicCreated, topicNameRequired, parseError, unrecognizedValue, writerCreated, readerCreated,
   filterFailed, publicationMatched, subscriptionMatched, offeredIncompatibleQos,
   requestedIncompatibleQos, livelinessChanged, data]

/-- The written forms of a marker; `data` is the size of a shape, two digits in brackets. -/
def forms : Marker → List (List Cell)
  | topicCreated => [fixed "Create topic:"]
  | topicNameRequired => [fixed "please specify topic name"]
  | parseError => [fixed "please specify publish", fixed "please specify only one of"]
  | unrecognizedValue => [fixed "unrecognized value"]
  | writerCreated => [fixed "Create writer for topic"]
  | readerCreated => [fixed "Create reader for topic"]
  | filterFailed => [fixed "failed to create content filtered topic"]
  | publicationMatched => [fixed "on_publication_matched"]
  | subscriptionMatched => [fixed "on_subscription_matched"]
  | offeredIncompatibleQos => [fixed "on_offered_incompatible_qos"]
  | requestedIncompatibleQos => [fixed "on_requested_incompatible_qos"]
  | livelinessChanged => [fixed "on_liveliness_changed"]
  | data => [[.exactly '[', .digit, .digit, .exactly ']']]

end Marker

/-- What can be looked for in output. -/
inductive Pattern where
  | marker (m : Marker)
  | literal (text : String)
  deriving DecidableEq, Repr

namespace Pattern

/-- The written forms of a pattern, of which an earlier one is preferred. -/
def forms : Pattern → List (List Cell)
  | marker m => m.forms
  | literal text => [fixed text]

/-- How many characters at the head of a text a pattern covers, if it stands there. -/
def lengthAt? (pattern : Pattern) (text : List Char) : Option Nat :=
  (pattern.forms.find? (fun form => stands form text)).map List.length

/-- The first of `patterns` that stands at the head of a text, as its index counted from
`index`, and how many characters it covers. -/
def firstAt? (index : Nat) : List Pattern → List Char → Option (Nat × Nat)
  | [], _ => none
  | pattern :: rest, text =>
    match pattern.lengthAt? text with
    | some n => some (index, n)
    | none => firstAt? (index + 1) rest text

end Pattern

/-- A place where one of several patterns stands: `before ++ matched ++ rest` is the text that
was searched. -/
structure Hit where
  index : Nat
  before : List Char
  matched : List Char
  rest : List Char
  deriving DecidableEq, Repr

/-- The leftmost hit in a text; `passed` holds, in reverse, what stands before that text. -/
def scan (patterns : List Pattern) (passed : List Char) : List Char → Option Hit
  | [] =>
    (Pattern.firstAt? 0 patterns []).map (fun (index, _) => ⟨index, passed.reverse, [], []⟩)
  | c :: rest =>
    match Pattern.firstAt? 0 patterns (c :: rest) with
    | some (index, n) => some ⟨index, passed.reverse, (c :: rest).take n, (c :: rest).drop n⟩
    | none => scan patterns (c :: passed) rest

/-- Byte ranges of the occurrences of a marker in a text that starts at byte `offset`; `covered`
characters belong to the occurrence before. -/
def Marker.occurrencesFrom (marker : Marker) (covered offset : Nat) :
    List Char → List (Nat × Nat)
  | [] => []
  | c :: rest =>
    match covered with
    | n + 1 => marker.occurrencesFrom n (offset + c.utf8Size) rest
    | 0 =>
      match (Pattern.marker marker).lengthAt? (c :: rest) with
      | some n =>
        (offset, offset + Text.byteLength ((c :: rest).take n)) ::
          marker.occurrencesFrom (n - 1) (offset + c.utf8Size) rest
      | none => marker.occurrencesFrom 0 (offset + c.utf8Size) rest

/-- Byte ranges of the occurrences of a marker, none overlapping the one before it. -/
def Marker.occurrences (marker : Marker) (text : List Char) : List (Nat × Nat) :=
  marker.occurrencesFrom 0 0 text

end PubSubTrials.Output
