import PubSubTrials.Shell.Syntax
import PubSubTrials.Text.Spelled

/-!
# Variables

What a variable holds: a text, elements by numbers, or elements by names. A variable may change
what is assigned to it, and may stand for another one.
-/

namespace PubSubTrials.Shell

/-- What a variable holds. -/
inductive Content where
  | nothing
  | text (value : Octets)
  /-- Elements by their numbers, in ascending order. -/
  | list (elements : List (Nat × Octets))
  /-- Elements by their names, the latest one first. -/
  | table (elements : List (Octets × Octets))
  deriving DecidableEq, Repr, Inhabited

namespace Content

/-- The number by which a name finds its place among the elements of a table. -/
def placeOf (name : Octets) : Nat :=
  name.foldl (fun n c => Nat.xor (n * 16777619 % 4294967296) c.toNat) 2166136261 % 1024

/-- Elements by names in the order of their places; of those at one place the latest comes
first. -/
def inPlaces (elements : List (Octets × Octets)) : List (Octets × Octets) :=
  elements.mergeSort (fun a b => placeOf a.1 ≤ placeOf b.1)

/-- The elements with their names. -/
def elements : Content → List (Octets × Octets)
  | nothing => []
  | text value => [(['0'], value)]
  | list elements => elements.map (fun (n, value) => (Octets.ofNat n, value))
  | table elements => inPlaces elements

/-- The element of a number. -/
def element? (number : Nat) : Content → Option Octets
  | nothing => none
  | text value => if number = 0 then some value else none
  | list elements => elements.lookup number
  | table elements => elements.lookup (Octets.ofNat number)

/-- The number of the last element and one, or zero. -/
def nextNumber : Content → Nat
  | text _ => 1
  | list elements => (elements.getLast?.map (fun entry => entry.1 + 1)).getD 0
  | _ => 0

/-- Elements by numbers after one of them has got a value. -/
def inserted (number : Nat) (value : Octets) (elements : List (Nat × Octets)) :
    List (Nat × Octets) :=
  let others := elements.filter (fun entry => entry.1 ≠ number)
  let (before, after) := others.partition (fun entry => entry.1 < number)
  before ++ (number, value) :: after

/-- Elements by names after one of them has got a value; those that exist keep their places. -/
def entered (name value : Octets) (elements : List (Octets × Octets)) : List (Octets × Octets) :=
  if elements.any (fun entry => entry.1 = name) then
    elements.map (fun entry => if entry.1 = name then (name, value) else entry)
  else (name, value) :: elements

/-- The content after an element of a number has got a value. -/
def withNumbered (number : Nat) (value : Octets) : Content → Content
  | nothing => list [(number, value)]
  | text first => list (inserted number value [(0, first)])
  | list elements => list (inserted number value elements)
  | table elements => table (entered (Octets.ofNat number) value elements)

/-- The content after a value was given to it. -/
def withText (value : Octets) : Content → Content
  | list elements => list (inserted 0 value elements)
  | table elements => table (entered ['0'] value elements)
  | _ => text value

/-- The content without the element of a name. -/
def without (name : Octets) : Content → Content
  | list elements => list (elements.filter (fun entry => Octets.ofNat entry.1 ≠ name))
  | table elements => table (elements.filter (fun entry => entry.1 ≠ name))
  | text value => if name = ['0'] then nothing else text value
  | nothing => nothing

/-- Whether elements are known by names. -/
def isTable : Content → Bool
  | table _ => true
  | _ => false

end Content

/-- A variable. -/
structure Variable where
  content : Content
  isExported : Bool
  isReadonly : Bool
  /-- Whether what is assigned is an expression whose value counts. -/
  isInteger : Bool
  /-- How letters of what is assigned are changed. -/
  casing : Option LetterCase
  /-- Whether it stands for the variable that its value names. -/
  isReference : Bool
  deriving DecidableEq, Repr, Inhabited

namespace Variable

/-- A variable with a content and nothing else to say of it. -/
def ofContent (content : Content) : Variable := ⟨content, false, false, false, none, false⟩

/-- A variable that was never heard of. -/
def absent : Variable := .ofContent .nothing

/-- The letters of what there is to say of a variable. -/
def letters (known : Variable) : List Char :=
  let shape : List Char := match known.content with
    | .list _ => ['a']
    | .table _ => ['A']
    | _ => []
  let marks : List (Bool × Char) :=
    [(known.isInteger, 'i'), (known.isReference, 'n'), (known.isReadonly, 'r'),
     (known.isExported, 'x'), (known.casing = some .lower, 'l'), (known.casing = some .upper, 'u')]
  shape ++ (marks.filter Prod.fst).map Prod.snd

/-- An element as a declaration spells it. -/
def spelledElement (name value : Octets) : Octets :=
  let index := if name = Spelled.asNeeded name then name else Spelled.doubleQuoted name
  '[' :: index ++ ']' :: '=' :: spelledValue value
where
  /-- A value as a declaration spells it. -/
  spelledValue (value : Octets) : Octets :=
    if value.all Spelled.isShown then Spelled.doubleQuoted value else Spelled.controlQuoted value

/-- What a declaration assigns, if it assigns something. -/
def spelledContent : Content → Option Octets
  | .nothing => none
  | .text value => some (spelledElement.spelledValue value)
  | .list elements =>
    some (['('] ++ Octets.joined [' ']
      (elements.map (fun (n, value) => spelledElement (Octets.ofNat n) value)) ++ [')'])
  | .table elements =>
    some (['('] ++ (Content.inPlaces elements).flatMap (fun (name, value) =>
      spelledElement name value ++ [' ']) ++ [')'])

/-- The declaration of a variable. -/
def declaration (name : Octets) (known : Variable) : Octets :=
  let letters := if known.letters.isEmpty then ['-'] else known.letters
  let value := match spelledContent known.content with
    | some text => '=' :: text
    | none => []
  "declare -".toList ++ letters ++ ' ' :: name ++ value

end Variable

/-- The number by which the plain dialect orders the variables that programs are given. -/
def plainPlace (name : Octets) : Nat :=
  (name.foldl (fun n c => n + c.toNat) ((name.map Char.toNat).headD 0 * 16)) % 39

/-- Variables in the order in which programs of a dialect are given them. -/
def Dialect.arranged (dialect : Dialect) (entries : List (Octets × Octets)) :
    List (Octets × Octets) :=
  match dialect with
  | plain => entries.mergeSort (fun a b => plainPlace a.1 ≤ plainPlace b.1)
  | extended => Content.inPlaces entries

/-- Text with its letters changed. -/
def LetterCase.change : LetterCase → Octets → Octets
  | upper, text => text.map Char.toUpper
  | lower, text => text.map Char.toLower

/-- The name and the index of an element that a text names. -/
def elementName? (text : Octets) : Option (Octets × Octets) :=
  let name := text.takeWhile inName
  match text.drop name.length with
  | '[' :: rest =>
    if isName name ∧ rest.getLast? = some ']' ∧ 1 < rest.length then some (name, rest.dropLast)
    else none
  | _ => none

end PubSubTrials.Shell
