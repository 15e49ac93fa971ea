/-!
# Log entries

Messages about the progress of a run, each at a level of detail. A reader chooses the most
detailed level that is shown. Messages about one entity are tagged with its label.
-/

namespace PubSubTrials

/-- Levels of detail, the coarsest first. -/
inductive Level where
  /-- Results; always shown. -/
  | normal
  /-- What the checks of received data see. -/
  | verbose
  /-- Every stage that an entity reaches. -/
  | debug
  deriving DecidableEq, Repr, Inhabited

namespace Level

/-- Position among the levels. -/
def depth : Level → Nat
  | normal => 0
  | verbose => 1
  | debug => 2

/-- The level asked for by a number of requests for more detail. -/
def ofCount : Nat → Level
  | 0 => normal
  | 1 => verbose
  | _ => debug

/-- Whether messages at a level are shown when `most` is the most detailed one shown. -/
def isShownAt (level most : Level) : Bool :=
  level.depth ≤ most.depth

/-- The name of a level. -/
def name : Level → String
  | normal => "normal"
  | verbose => "verbose"
  | debug => "debug"

end Level

/-- One message. -/
structure LogEntry where
  level : Level
  message : String
  deriving DecidableEq, Repr, Inhabited

namespace LogEntry

/-- An entry tagged with the label of an entity. -/
def labelled (label : String) (entry : LogEntry) : LogEntry :=
  { entry with message := label ++ ": " ++ entry.message }

/-- An entry tagged with nested labels, the outermost first. -/
def labelledBy (labels : List String) (entry : LogEntry) : LogEntry :=
  labels.foldr labelled entry

/-- Whether `part` stands somewhere in a text. -/
def holds (part : List Char) : List Char → Bool
  | [] => part.isEmpty
  | c :: rest => part.isPrefixOf (c :: rest) || holds part rest

/-- Whether an entry's message contains a text. -/
def contains (entry : LogEntry) (part : String) : Bool :=
  holds part.toList entry.message.toList

end LogEntry

end PubSubTrials
