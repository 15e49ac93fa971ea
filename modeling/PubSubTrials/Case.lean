import PubSubTrials.Duration
import PubSubTrials.Outcome
import PubSubTrials.Parameters

/-!
# Test cases

A case names the publishers and subscribers that take part in it, what is expected of each of
them, and how a subscriber examines the data that it receives. Entities carry labels such as
`P0` or `S1`: the letter of the role and the entity's number among those of its role.
-/

namespace PubSubTrials

/-- Numbers that are written alike are the same. -/
theorem toString_inj {m n : Nat} (h : toString m = toString n) : m = n := by
  have hdigits : Nat.toDigits 10 m = Nat.toDigits 10 n := by
    have hlists := congrArg String.toList h
    rwa [Nat.toString_eq_repr, Nat.toString_eq_repr, Nat.toList_repr, Nat.toList_repr] at hlists
  calc
    m = Nat.ofDigitChars 10 (Nat.toDigits 10 m) 0 := Nat.ofDigitChars_ten_toDigits.symm
    _ = Nat.ofDigitChars 10 (Nat.toDigits 10 n) 0 := by rw [hdigits]
    _ = n := Nat.ofDigitChars_ten_toDigits

/-- The side that an entity takes. -/
inductive Role where
  | publisher
  | subscriber
  deriving DecidableEq, Repr, Inhabited

namespace Role

/-- Every role. -/
def all : List Role := [publisher, subscriber]

/-- The name of a role in suite files and reports. -/
def name : Role → String
  | publisher => "publisher"
  | subscriber => "subscriber"

/-- The word that asks an application to take a role. -/
def flag : Role → String
  | publisher => "-P"
  | subscriber => "-S"

/-- The letter that opens an entity's label. -/
def letter : Role → Char
  | publisher => 'P'
  | subscriber => 'S'

/-- The label of the entity of this role with number `n`. -/
def label (role : Role) (n : Nat) : String :=
  String.singleton role.letter ++ toString n

theorem label_eq_label_iff {role role' : Role} {m n : Nat} :
    role.label m = role'.label n ↔ role = role' ∧ m = n := by
  constructor
  · intro h
    have hlists := congrArg String.toList h
    rw [label, label, String.toList_append, String.toList_append, String.toList_singleton,
      String.toList_singleton] at hlists
    obtain ⟨hletter, hnumber⟩ := List.cons.inj hlists
    refine ⟨?_, toString_inj (String.toList_injective hnumber)⟩
    cases role <;> cases role' <;> first | rfl | cases hletter
  · rintro ⟨rfl, rfl⟩
    rfl

/-- The role of a given name. -/
def ofName? (text : String) : Option Role :=
  all.find? (fun role => role.name = text)

theorem ofName?_name (role : Role) : ofName? role.name = some role := by
  cases role <;> decide

end Role

/-- How a subscriber examines the data it receives. -/
inductive Check where
  /-- Any data will do. -/
  | noCheck
  /-- The samples are those of the first publisher, in the order sent. -/
  | orderingCheck
  /-- Tell whether samples come from one publisher or from two. -/
  | multiSourceCheck
  deriving DecidableEq, Repr, Inhabited

namespace Check

/-- Every check. -/
def all : List Check := [noCheck, orderingCheck, multiSourceCheck]

/-- The name of a check in suite files and listings. -/
def name : Check → String
  | noCheck => "no_check"
  | orderingCheck => "ordering_check"
  | multiSourceCheck => "multi_source_check"

/-- The check of a given name. -/
def ofName? (text : String) : Option Check :=
  all.find? (fun check => check.name = text)

/-- How many publishers a check compares with. -/
def publishersNeeded : Check → Nat
  | noCheck => 0
  | orderingCheck => 1
  | multiSourceCheck => 2

theorem ofName?_name (check : Check) : ofName? check.name = some check := by
  cases check <;> decide

end Check

/-- One publisher or subscriber of a case. -/
structure Entity where
  role : Role
  parameters : String
  expected : Outcome
  deriving DecidableEq, Repr, Inhabited

/-- Whether a publisher is asked to print each sample that it sends. -/
def Entity.reportsSamples (entity : Entity) : Bool :=
  entity.role == .publisher && Parameters.requestReporting entity.parameters

/-- A named set of entities with the outcomes expected of them; without a timeout of its own it
takes the one of the run. -/
structure Case where
  name : String
  description : Option String
  entities : List Entity
  check : Check
  timeout : Option Duration
  deriving DecidableEq, Repr, Inhabited

/-- Why a case cannot be run. -/
inductive CaseError where
  | noEntities (name : String)
  | zeroTimeout (name : String)
  | notEnoughPublishers (name : String) (check : Check) (found : Nat)
  deriving DecidableEq, Repr

/-- How a case's fault reads. -/
def CaseError.message : CaseError → String
  | noEntities name => "test case " ++ name ++ " declares no entities"
  | zeroTimeout name => "test case " ++ name ++ ": timeout must be greater than zero"
  | notEnoughPublishers name check found =>
    "test case " ++ name ++ ": " ++ check.name ++ " needs at least " ++
      toString check.publishersNeeded ++ " publisher(s), found " ++ toString found

namespace Case

/-- The outcomes expected, entity by entity. -/
def expected (case : Case) : List Outcome :=
  case.entities.map Entity.expected

/-- Number of entities of a role. -/
def count (case : Case) (role : Role) : Nat :=
  case.entities.countP (fun entity => entity.role == role)

/-- Labels of entities that follow `publishers` publishers and `subscribers` subscribers. -/
def labelsFrom (publishers subscribers : Nat) : List Role → List String
  | [] => []
  | .publisher :: rest =>
    Role.label .publisher publishers :: labelsFrom (publishers + 1) subscribers rest
  | .subscriber :: rest =>
    Role.label .subscriber subscribers :: labelsFrom publishers (subscribers + 1) rest

/-- The labels of the entities, in the order of their declaration. -/
def labels (case : Case) : List String :=
  labelsFrom 0 0 (case.entities.map Entity.role)

/-- The first fault of a case, if it has one: it needs an entity, time, and as many publishers
as its check compares with. -/
def fault? (case : Case) : Option CaseError :=
  if case.entities.isEmpty then some (.noEntities case.name)
  else if case.timeout = some .zero then some (.zeroTimeout case.name)
  else if case.count .publisher < case.check.publishersNeeded then
    some (.notEnoughPublishers case.name case.check (case.count .publisher))
  else none

/-- Whether a case can be run. -/
def validate (case : Case) : Except CaseError Unit :=
  match case.fault? with
  | some fault => .error fault
  | none => .ok ()

@[simp] theorem length_labelsFrom (p s : Nat) (roles : List Role) :
    (labelsFrom p s roles).length = roles.length := by
  induction roles generalizing p s with
  | nil => rfl
  | cons role rest ih => cases role <;> simp [labelsFrom, ih]

@[simp] theorem length_labels (case : Case) : case.labels.length = case.entities.length := by
  simp [labels]

end Case

end PubSubTrials
