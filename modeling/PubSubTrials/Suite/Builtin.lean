import PubSubTrials.Suite

/-!
# Built-in suites

Two suites come with the program. `interoperability` has one publisher and one subscriber in
each case and goes through the settings of quality of service; `ownership` has two publishers
and tells whose samples arrive. Every case runs with the second data representation unless it
chooses one itself, and waits longer where entities are expected to communicate.
-/

namespace PubSubTrials.Suite

/-- Timeout of a stage where entities are expected to communicate. -/
def longTimeout : Duration := .ofSeconds 20

/-- Timeout of a stage where entities are expected to stop early. -/
def shortTimeout : Duration := .ofSeconds 5

/-- Timeout of a case by what is expected of its entities. -/
def timeoutFor (publisher subscriber : Outcome) : Duration :=
  match publisher, subscriber with
  | .ok, .ok | .ok, .receivingFromOne | .ok, .receivingFromBoth => longTimeout
  | _, _ => shortTimeout

/-- An entity with the default data representation. -/
def participant (role : Role) (parameters : String) (expected : Outcome) : Entity :=
  ⟨role, Parameters.withRepresentation parameters, expected⟩

/-- A case of one publisher and one subscriber. -/
def pair (name publisher subscriber : String) (publishes subscribes : Outcome) : Case where
  name := name
  description := none
  entities := [participant .publisher publisher publishes,
    participant .subscriber subscriber subscribes]
  check := .noCheck
  timeout := some (timeoutFor publishes subscribes)

/-- A pair that exchanges data. -/
def communicating (name publisher subscriber : String) : Case :=
  pair name publisher subscriber .ok .ok

/-- A pair whose settings contradict each other. -/
def incompatible (name publisher subscriber : String) : Case :=
  pair name publisher subscriber .incompatibleQos .incompatibleQos

/-- A pair whose entities do not find each other. -/
def unmatched (name publisher subscriber : String) : Case :=
  pair name publisher subscriber .readerNotMatched .writerNotMatched

/-- A pair whose subscriber filters out what is sent. -/
def filtered (name publisher subscriber : String) : Case :=
  pair name publisher subscriber .ok .dataNotReceived

/-- Reliable keep-all: the subscriber has every sample in its order. -/
def ordered : Case :=
  { communicating "Test_Reliability_4" "-t Square -r -k 0 -w" "-t Square -r -k 0" with
    description := some "reliable keep-all: samples are received in publication order"
    check := .orderingCheck }

/-- One publisher and one subscriber under every setting. -/
def interoperability : Suite where
  name := "interoperability"
  description := some "one publisher and one subscriber per case"
  cases :=
  [communicating "Test_DataRepresentation_0" "-t Square -x 1" "-t Square -x 1",
   incompatible "Test_DataRepresentation_1" "-t Square -x 1" "-t Square -x 2",
   incompatible "Test_DataRepresentation_2" "-t Square -x 2" "-t Square -x 1",
   communicating "Test_DataRepresentation_3" "-t Square -x 2" "-t Square -x 2",
   communicating "Test_Domain_0" "-t Square" "-t Square",
   unmatched "Test_Domain_1" "-t Square" "-t Square -d 1",
   unmatched "Test_Domain_2" "-t Square -d 1" "-t Square",
   communicating "Test_Domain_3" "-t Square -d 1" "-t Square -d 1",
   communicating "Test_Reliability_0" "-t Square -b" "-t Square -b",
   incompatible "Test_Reliability_1" "-t Square -b" "-t Square -r",
   communicating "Test_Reliability_2" "-t Square -r" "-t Square -b",
   communicating "Test_Reliability_3" "-t Square -r -k 3" "-t Square -r",
   ordered,
   communicating "Test_Deadline_0" "-t Square -f 3" "-t Square -f 5",
   communicating "Test_Deadline_1" "-t Square -f 5" "-t Square -f 5",
   incompatible "Test_Deadline_2" "-t Square -f 7" "-t Square -f 5",
   communicating "Test_Ownership_0" "-t Square -s -1" "-t Square -s -1",
   incompatible "Test_Ownership_1" "-t Square -s -1" "-t Square -s 3",
   incompatible "Test_Ownership_2" "-t Square -s 3" "-t Square -s -1",
   communicating "Test_Topic_0" "-t Square" "-t Square",
   unmatched "Test_Topic_1" "-t Square" "-t Circle",
   unmatched "Test_Topic_2" "-t Circle" "-t Square",
   communicating "Test_Topic_3" "-t Circle" "-t Circle",
   communicating "Test_Color_0" "-t Square -c BLUE" "-t Square -c BLUE",
   filtered "Test_Color_1" "-t Square -c BLUE" "-t Square -c RED",
   communicating "Test_Color_2" "-t Square -c BLUE" "-t Square",
   filtered "Test_Color_3" "-t Square -c RED" "-t Square -c BLUE",
   communicating "Test_Color_4" "-t Square -c RED" "-t Square -c RED",
   communicating "Test_Color_5" "-t Square -c RED" "-t Square",
   communicating "Test_Color_6" "-t Square" "-t Square -c BLUE",
   filtered "Test_Color_7" "-t Square" "-t Square -c RED",
   communicating "Test_Color_8" "-t Square" "-t Square",
   communicating "Test_Partition_0" "-t Square -p \"p1\"" "-t Square -p \"p1\"",
   unmatched "Test_Partition_1" "-t Square -p \"p1\"" "-t Square -p \"p2\"",
   unmatched "Test_Partition_2" "-t Square -p \"p2\"" "-t Square -p \"p1\"",
   communicating "Test_Partition_3" "-t Square -p \"p2\"" "-t Square -p \"p2\"",
   communicating "Test_Durability_0" "-t Square -D v" "-t Square -D v",
   incompatible "Test_Durability_1" "-t Square -D v" "-t Square -D l",
   incompatible "Test_Durability_2" "-t Square -D v" "-t Square -D t",
   incompatible "Test_Durability_3" "-t Square -D v" "-t Square -D p",
   communicating "Test_Durability_4" "-t Square -D l" "-t Square -D v",
   communicating "Test_Durability_5" "-t Square -D l" "-t Square -D l",
   incompatible "Test_Durability_6" "-t Square -D l" "-t Square -D t",
   incompatible "Test_Durability_7" "-t Square -D l" "-t Square -D p",
   communicating "Test_Durability_8" "-t Square -D t" "-t Square -D v",
   communicating "Test_Durability_9" "-t Square -D t" "-t Square -D l",
   communicating "Test_Durability_10" "-t Square -D t" "-t Square -D t",
   incompatible "Test_Durability_11" "-t Square -D t" "-t Square -D p",
   communicating "Test_Durability_12" "-t Square -D p" "-t Square -D v",
   communicating "Test_Durability_13" "-t Square -D p" "-t Square -D l",
   communicating "Test_Durability_14" "-t Square -D p" "-t Square -D t",
   communicating "Test_Durability_15" "-t Square -D p" "-t Square -D p",
   communicating "Test_History_0" "-t Square -k 3" "-t Square -k 3",
   communicating "Test_History_1" "-t Square -k 3" "-t Square -k 0",
   communicating "Test_History_2" "-t Square -k 0" "-t Square -k 3",
   communicating "Test_History_3" "-t Square -k 0" "-t Square -k 0"]

/-- A case of two publishers and one subscriber that tells whose samples arrive. -/
def contest (name description first second subscriber : String) (expected : Outcome) : Case where
  name := name
  description := some description
  entities := [participant .publisher first .ok, participant .publisher second .ok,
    participant .subscriber subscriber expected]
  check := .multiSourceCheck
  timeout := some longTimeout

/-- Two publishers of different strength and one subscriber. -/
def ownership : Suite where
  name := "ownership"
  description := some "two publishers and one subscriber per case"
  cases :=
  [contest "Test_Ownership_3" "different instances: ownership strength does not matter"
     "-t Square -s 3 -c BLUE -w" "-t Square -s 4 -c RED -w" "-t Square -s 2 -r -k 0"
     .receivingFromBoth,
   contest "Test_Ownership_4" "same instance: only the strongest publisher is received"
     "-t Square -s 5 -r -k 0 -w" "-t Square -s 4 -r -k 0 -w" "-t Square -s 2 -r -k 0"
     .receivingFromOne]

end PubSubTrials.Suite
