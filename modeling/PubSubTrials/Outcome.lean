/-!
# Outcomes

What is observed of one publisher or subscriber: either it did all that was asked of it, or the
first stage that it did not reach. Every outcome has a name, used in suite files and reports,
and a description for people.
-/

namespace PubSubTrials

/-- The closed set of results of observing one participant. -/
inductive Outcome where
  | ok
  | unrecognizedValue
  | topicNotCreated
  | readerNotCreated
  | writerNotCreated
  | filterNotCreated
  | incompatibleQos
  | readerNotMatched
  | writerNotMatched
  | writerNotAlive
  | dataNotReceived
  | dataNotSent
  | dataNotCorrect
  | receivingFromOne
  | receivingFromBoth
  deriving DecidableEq, Repr, Inhabited

namespace Outcome

/-- Every outcome, in the order of the stages they belong to. -/
def all : List Outcome :=
  [ok, unrecognizedValue, topicNotCreated, readerNotCreated, writerNotCreated, filterNotCreated,
   incompatibleQos, readerNotMatched, writerNotMatched, writerNotAlive, dataNotReceived,
   dataNotSent, dataNotCorrect, receivingFromOne, receivingFromBoth]

/-- The name of an outcome in suite files and reports. -/
def name : Outcome → String
  | ok => "OK"
  | unrecognizedValue => "UNRECOGNIZED_VALUE"
  | topicNotCreated => "TOPIC_NOT_CREATED"
  | readerNotCreated => "READER_NOT_CREATED"
  | writerNotCreated => "WRITER_NOT_CREATED"
  | filterNotCreated => "FILTER_NOT_CREATED"
  | incompatibleQos => "INCOMPATIBLE_QOS"
  | readerNotMatched => "READER_NOT_MATCHED"
  | writerNotMatched => "WRITER_NOT_MATCHED"
  | writerNotAlive => "WRITER_NOT_ALIVE"
  | dataNotReceived => "DATA_NOT_RECEIVED"
  | dataNotSent => "DATA_NOT_SENT"
  | dataNotCorrect => "DATA_NOT_CORRECT"
  | receivingFromOne => "RECEIVING_FROM_ONE"
  | receivingFromBoth => "RECEIVING_FROM_BOTH"

/-- What an outcome says about the behaviour of an application. -/
def description : Outcome → String
  | ok => "publisher/subscriber sent/received data correctly"
  | unrecognizedValue => "parameters for the publisher/subscriber not supported"
  | topicNotCreated => "publisher/subscriber does not create the topic"
  | readerNotCreated => "subscriber does not create the data reader"
  | writerNotCreated => "publisher does not create the data writer"
  | filterNotCreated => "subscriber does not create the content filter"
  | incompatibleQos => "publisher/subscriber with incompatible QoS"
  | readerNotMatched => "publisher does not find any compatible data reader"
  | writerNotMatched => "subscriber does not find any compatible data writer"
  | writerNotAlive => "subscriber does not find any live data writer"
  | dataNotReceived => "subscriber does not receive the data"
  | dataNotSent => "publisher does not send the data"
  | dataNotCorrect => "subscriber does not find the data expected"
  | receivingFromOne => "subscriber receives from one publisher"
  | receivingFromBoth => "subscriber receives from two publishers"

/-- The outcome of a given name. -/
def ofName? (text : String) : Option Outcome :=
  all.find? (fun outcome => outcome.name = text)

/-- A text that names no outcome. -/
structure UnknownName where
  text : String
  deriving DecidableEq, Repr

/-- How the refusal of an unknown name reads. -/
def UnknownName.message (unknown : UnknownName) : String :=
  "unknown outcome: " ++ unknown.text

/-- The outcome of a given name, or the refusal. -/
def parse (text : String) : Except UnknownName Outcome :=
  match ofName? text with
  | some outcome => .ok outcome
  | none => .error ⟨text⟩

/-- Position of an outcome in `all`. -/
def index (outcome : Outcome) : Nat :=
  all.idxOf outcome

/-- Every name is read back. -/
theorem ofName?_name (outcome : Outcome) : ofName? outcome.name = some outcome := by
  cases outcome <;> decide

theorem name_injective {a b : Outcome} (h : a.name = b.name) : a = b :=
  Option.some.inj (by rw [← ofName?_name a, h, ofName?_name])

end Outcome

end PubSubTrials
