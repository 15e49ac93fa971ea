/-!
# Paths

A path is a text whose components are separated by slashes. Repeated slashes, dots after the
start and a slash at the end do not matter when paths are compared, but stay in the text.
-/

namespace PubSubTrials

/-- A path as it was written. -/
structure Path where
  text : String
  deriving DecidableEq, Repr, Inhabited

namespace Path

/-- One step of a path. -/
inductive Component where
  | root
  | current
  | parent
  | name (text : String)
  deriving DecidableEq, Repr

namespace Component

/-- Position of a kind of component in the order of paths. -/
def rank : Component → Nat
  | root => 0
  | current => 1
  | parent => 2
  | name _ => 3

/-- Whether a component comes before another one. -/
def precedes : Component → Component → Bool
  | name a, name b => a < b
  | a, b => a.rank < b.rank

end Component

/-- The texts between slashes; `word` holds the current one in reverse. -/
def cutFrom (word : List Char) : List Char → List String
  | [] => [String.ofList word.reverse]
  | c :: rest =>
    if c = '/' then String.ofList word.reverse :: cutFrom [] rest else cutFrom (c :: word) rest

/-- The texts between slashes that are not empty. -/
def steps (path : Path) : List String :=
  (cutFrom [] path.text.toList).filter (· ≠ "")

/-- Whether a path starts at the root. -/
def isAbsolute (path : Path) : Bool :=
  path.text.toList.head? = some '/'

/-- Whether a path ends in a slash. -/
def endsInSlash (path : Path) : Bool :=
  path.text.toList.getLast? = some '/'

/-- The components of steps that are not the first of a relative path. -/
def inner (steps : List String) : List Component :=
  (steps.filter (· ≠ ".")).map (fun step => if step = ".." then .parent else .name step)

/-- The components of a path. -/
def components (path : Path) : List Component :=
  if path.isAbsolute then .root :: inner path.steps
  else
    match path.steps with
    | "." :: rest => .current :: inner rest
    | steps => inner steps

/-- Whether two paths have the same components. -/
def same (a b : Path) : Bool :=
  a.components == b.components

/-- Whether a list of components comes before another one. -/
def componentsPrecede : List Component → List Component → Bool
  | [], [] => false
  | [], _ :: _ => true
  | _ :: _, [] => false
  | a :: as, b :: bs => if a = b then componentsPrecede as bs else a.precedes b

/-- Whether a path is not after another one in the order of paths. -/
def le (a b : Path) : Bool :=
  !componentsPrecede b.components a.components

/-- A path below another one; an absolute path stays as it is. -/
def join (base path : Path) : Path :=
  if path.isAbsolute then path
  else if base.text = "" ∨ base.endsInSlash then ⟨base.text ++ path.text⟩
  else ⟨base.text ++ "/" ++ path.text⟩

/-- The last component, if it is a name. -/
def fileName? (path : Path) : Option String :=
  match path.components.getLast? with
  | some (.name text) => some text
  | _ => none

/-- A file's name without its extension; a name that only starts with a dot has none. -/
def stem (name : String) : String :=
  let after := name.toList.reverse
  match after.dropWhile (· ≠ '.') with
  | _ :: before => if before.isEmpty then name else String.ofList before.reverse
  | [] => name

/-- The last component without an extension, if it is a name. -/
def fileStem? (path : Path) : Option String :=
  path.fileName?.map stem

/-- The text of a component. -/
def Component.text : Component → String
  | root => ""
  | current => "."
  | parent => ".."
  | name text => text

/-- A path with given components. -/
def ofComponents : List Component → Path
  | [.root] => ⟨"/"⟩
  | components => ⟨"/".intercalate (components.map Component.text)⟩

/-- The path without its last component, if it has one to lose. -/
def parent? (path : Path) : Option Path :=
  match path.components with
  | [] => none
  | [.root] => none
  | components => some (ofComponents components.dropLast)

end Path

end PubSubTrials
