import PubSubTrials.Json.Reader

/-!
# Decoding JSON into data

Readers for the shapes of data that texts are asked for: strings, truth values, whole numbers,
names out of a fixed set, lists, and records. A record is an object with its fields in any
order, or a list of its fields in the order of their declaration. A value of another kind is
read as far as needed to say what was found in its place.
-/

namespace PubSubTrials.Json

open Reader
open Sample (isDigit)

namespace Reader

/-- Refuse the value that follows, because something else was wanted. -/
def refuse {α : Type} (wanted : String) : Reader α := do
  let misplaced (found : Found) : Reader α := failMisfit (.wrongType found wanted)
  match ← get with
  | 'n' :: rest => do set rest; letters ['u', 'l', 'l']; misplaced .null
  | 't' :: rest => do set rest; letters ['r', 'u', 'e']; misplaced (.bool true)
  | 'f' :: rest => do set rest; letters ['a', 'l', 's', 'e']; misplaced (.bool false)
  | '-' :: rest => do
    set rest
    let n ← number false
    misplaced n.found
  | '"' :: rest => do
    set rest
    let text ← stringBody
    misplaced (.string text)
  | '[' :: _ => misplaced .list
  | '\x7b' :: _ => misplaced .object
  | c :: _ =>
    if isDigit c then do
      let n ← number true
      misplaced n.found
    else failSlip .expectedValue
  | [] => failSlip .expectedValue

/-- Read a string where `wanted` is wanted. -/
def stringFor (wanted : String) : Reader String := do
  match ← peek with
  | none => failEnd .value
  | some '"' => do skip; stringBody
  | some _ => refuse wanted

/-- Read a string. -/
def string : Reader String := stringFor "a string"

/-- Read a truth value. -/
def bool : Reader Bool := do
  match ← peek with
  | none => failEnd .value
  | some 't' => do skip; letters ['r', 'u', 'e']; return true
  | some 'f' => do skip; letters ['a', 'l', 's', 'e']; return false
  | some _ => refuse "a boolean"

/-- Read a whole number below `2 ^ 64`, of the type named `wanted`. -/
def natural (wanted : String) : Reader Nat := do
  let accept (n : Number) : Reader Nat :=
    match n with
    | .natural n => return n
    | .negative n => failMisfit (.wrongValue (.negative n) wanted)
    | .floating x => failMisfit (.wrongType (.floating x) wanted)
  match ← peek with
  | none => failEnd .value
  | some '-' => do skip; accept (← number false)
  | some c => if isDigit c then do accept (← number true) else refuse wanted

/-- Read nothing, which is written `null`. -/
def nothing : Reader Unit := do
  match ← peek with
  | none => failEnd .value
  | some 'n' => do skip; letters ['u', 'l', 'l']
  | some _ => refuse "unit"

/-- Read a value or `null`. -/
def orNull {α : Type} (value : Reader α) : Reader (Option α) := do
  match ← peek with
  | some 'n' => do skip; letters ['u', 'l', 'l']; return none
  | _ => return some (← value)

/-- Read one of a fixed set of names. -/
def variant {α : Type} (ofName? : String → Option α) (known : List String) : Reader α := do
  let name ← stringFor "variant identifier"
  match ofName? name with
  | some value => return value
  | none => failMisfit (.unknownVariant name known)

/-- Make sure that an object starts with a key. -/
def variantKey : Reader Unit := do
  match ← peek with
  | none => failEnd .object
  | some '"' => return ()
  | some '\x7d' => failSlip .expectedValue
  | some _ => failSlip .keyMustBeString

/-- Read one of a fixed set of names, as a string or as an object that holds nothing under
that name. -/
def named {α : Type} (ofName? : String → Option α) (known : List String) : Reader α := do
  match ← peek with
  | none => failEnd .value
  | some '"' => variant ofName? known
  | some '\x7b' => do
    skip
    variantKey
    let value ← variant ofName? known
    colon
    nothing
    match ← peek with
    | none => failEnd .object
    | some '\x7d' => do skip; return value
    | some _ => failSlip .expectedValue
  | some _ => failSlip .expectedValue

/-- Read items up to the end of a list, at most `fuel` of them. -/
def itemsFrom {α : Type} (item : Reader α) (first : Bool) : Nat → Reader (List α)
  | 0 => return []
  | fuel + 1 => do
    if ← moreItems first then
      let x ← item
      return x :: (← itemsFrom item false fuel)
    else return []

/-- Read a list. -/
def list {α : Type} (item : Reader α) : Reader (List α) := do
  match ← peek with
  | none => failEnd .value
  | some '[' => do
    skip
    let items ← itemsFrom item true (← partsBound)
    endList
    return items
  | some _ => refuse "a sequence"

end Reader

/-! ## Records -/

/-- A field of a record that is being read; `σ` holds the fields read so far. -/
structure Field (σ : Type) where
  name : String
  /-- Whether the field has to be there. -/
  required : Bool
  /-- Whether it was read. -/
  isRead : σ → Bool
  /-- Read its value. -/
  read : σ → Reader σ

/-- The fields of a record; `title` is what messages call it. -/
structure Record (σ : Type) where
  title : String
  fields : List (Field σ)
  /-- Whether other fields are refused. -/
  closed : Bool

namespace Record

variable {σ : Type}

/-- The names of the fields. -/
def names (record : Record σ) : List String :=
  record.fields.map Field.name

/-- Read the fields of an object up to its end, at most `fuel` of them. -/
def fieldsFrom (record : Record σ) (first : Bool) (state : σ) : Nat → Reader σ
  | 0 => return state
  | fuel + 1 => do
    if ← moreFields first then
      skip
      let name ← stringBody
      match record.fields.find? (fun field => field.name = name) with
      | some field =>
        if field.isRead state then failMisfit (.repeatedField name)
        else do
          colon
          record.fieldsFrom false (← field.read state) fuel
      | none =>
        if record.closed then failMisfit (.unknownField name record.names)
        else do
          colon
          ignoreValue
          record.fieldsFrom false state fuel
    else return state

/-- The first required field that was not read. -/
def missing? (record : Record σ) (state : σ) : Option String :=
  (record.fields.find? (fun field => field.required && !field.isRead state)).map Field.name

/-- Read fields from a list, `index` of them before; one that is not required may be missing at
the end. -/
def rowFrom (record : Record σ) (index : Nat) (state : σ) : List (Field σ) → Reader σ
  | [] => return state
  | field :: rest => do
    if ← moreItems (index == 0) then
      record.rowFrom (index + 1) (← field.read state) rest
    else if field.required then
      failMisfit (.wrongLength index
        (record.title ++ " with " ++ toString record.fields.length ++ " elements"))
    else record.rowFrom (index + 1) state rest

/-- Read a record, starting from no fields read. -/
def read (record : Record σ) (empty : σ) : Reader σ := do
  match ← peek with
  | none => failEnd .value
  | some '[' => do
    skip
    let state ← record.rowFrom 0 empty record.fields
    endList
    return state
  | some '\x7b' => do
    skip
    let state ← record.fieldsFrom true empty (← partsBound)
    match record.missing? state with
    | some name => failMisfit (.missingField name)
    | none => do
      endObject
      return state
  | some _ => refuse record.title

end Record

/-- Decode all of a text. -/
def decode {α : Type} (value : Reader α) (text : List Char) : Except Fault α := do
  let (x, rest) ← (value.run text.length).run text
  if rest.all isBlank then return x else throw (.slip .trailingCharacters)

end PubSubTrials.Json
