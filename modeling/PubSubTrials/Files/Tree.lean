import PubSubTrials.Files.Store

/-!
# Files on disk

A tree of files and directories with a working directory. Every step of a path has to exist for
the next one to be taken, only the last may be new, and names have a limited length. A file is
written under a temporary name beside it and then renamed, so a reader sees either the old or
the new content.
-/

namespace PubSubTrials

/-- A file with its bytes, or a directory. -/
inductive TreeNode where
  | file (bytes : List UInt8)
  | directory
  deriving DecidableEq, Repr

/-- The entries of a file system under the names that lead to them, and the working
directory. -/
structure FileTree where
  entries : List (List String × TreeNode)
  working : List String
  deriving DecidableEq, Repr, Inhabited

namespace FileTree

/-- The entry of a given name; the top is a directory. -/
def get? (tree : FileTree) (names : List String) : Option TreeNode :=
  if names.isEmpty then some .directory else tree.entries.lookup names

/-- Add or replace an entry. -/
def set (tree : FileTree) (names : List String) (node : TreeNode) : FileTree :=
  { tree with entries := tree.entries.filter (·.1 ≠ names) ++ [(names, node)] }

/-- Remove an entry. -/
def erase (tree : FileTree) (names : List String) : FileTree :=
  { tree with entries := tree.entries.filter (·.1 ≠ names) }

/-- Number of bytes that a name may have. -/
def maxNameBytes : Nat := 255

/-- Number of bytes that a path may have. -/
def maxPathBytes : Nat := 4095

/-- Take one step from an entry. -/
def step (tree : FileTree) (start : List String) (name : String) :
    Except SystemError (List String) :=
  match tree.get? start with
  | some .directory =>
    if name = "." then .ok start
    else if name = ".." then .ok start.dropLast
    else if maxNameBytes < name.utf8ByteSize then .error .nameTooLong
    else if (tree.get? (start ++ [name])).isSome then .ok (start ++ [name])
    else .error .noEntry
  | _ => .error .notDirectory

/-- Where the steps of a path start. -/
def origin (tree : FileTree) (path : Path) : List String :=
  if path.isAbsolute then [] else tree.working

/-- The entry that a path leads to; a path that ends in a slash leads to a directory. -/
def resolve (tree : FileTree) (path : Path) : Except SystemError (List String × TreeNode) := do
  if path.text = "" then throw .noEntry
  if maxPathBytes < path.text.utf8ByteSize then throw .nameTooLong
  let names ← path.steps.foldlM tree.step (tree.origin path)
  match tree.get? names with
  | none => throw .noEntry
  | some .directory => return (names, .directory)
  | some node => if path.endsInSlash then throw .notDirectory else return (names, node)

/-- The directory that the last step of a path starts from, and that step. -/
def resolveParent (tree : FileTree) (path : Path) : Except SystemError (List String × String) :=
  if maxPathBytes < path.text.utf8ByteSize then .error .nameTooLong
  else match path.steps.reverse with
  | [] => .error (if path.text = "" then .noEntry else .alreadyExists)
  | last :: before => do
    let names ← before.reverse.foldlM tree.step (tree.origin path)
    match tree.get? names with
    | some .directory =>
      if maxNameBytes < last.utf8ByteSize then throw .nameTooLong else return (names, last)
    | _ => throw .notDirectory

/-- Whether the last step of a path is one that names nothing new. -/
def isDots (name : String) : Bool :=
  name = "." || name = ".."

/-- Make one directory. -/
def makeOne (tree : FileTree) (path : Path) : Except SystemError FileTree := do
  let (names, last) ← tree.resolveParent path
  if isDots last ∨ (tree.get? (names ++ [last])).isSome then throw .alreadyExists
  else return tree.set (names ++ [last]) .directory

/-- Whether a path leads to a directory. -/
def isDirectory (tree : FileTree) (path : Path) : Bool :=
  match tree.resolve path with
  | .ok (_, .directory) => true
  | _ => false

/-- Make a directory whose parents may be missing; `fuel` bounds the number of parents. -/
def makeAll (fuel : Nat) (path : Path) (tree : FileTree) : Except FileError Unit × FileTree :=
  if path.text = "" then (.ok (), tree)
  else
    match tree.makeOne path with
    | .ok tree => (.ok (), tree)
    | .error .noEntry =>
      match fuel, path.parent? with
      | fuel + 1, some parent =>
        match makeAll fuel parent tree with
        | (.error error, tree) => (.error error, tree)
        | (.ok (), tree) =>
          match tree.makeOne path with
          | .ok tree => (.ok (), tree)
          | .error error =>
            if tree.isDirectory path then (.ok (), tree) else (.error (.system error), tree)
      | _, _ => (.error (.system .noEntry), tree)
    | .error error =>
      if tree.isDirectory path then (.ok (), tree) else (.error (.system error), tree)

/-- Write the bytes of a file in place. -/
def writeInPlace (tree : FileTree) (path : Path) (bytes : List UInt8) :
    Except SystemError FileTree := do
  let (names, last) ← tree.resolveParent path
  let target := names ++ [last]
  if isDots last then throw .isDirectory
  match tree.get? target with
  | some .directory => throw .isDirectory
  | _ => if path.endsInSlash then throw .isDirectory else return tree.set target (.file bytes)

/-- Rename a file. -/
def renameFile (tree : FileTree) (source target : Path) : Except SystemError FileTree := do
  let (names, node) ← tree.resolve source
  let (parents, last) ← tree.resolveParent target
  if isDots last then throw .busy
  if target.endsInSlash then throw .notDirectory
  match tree.get? (parents ++ [last]) with
  | some .directory => throw .isDirectory
  | _ => return (tree.erase names).set (parents ++ [last]) node

/-- The path beside `path` under which its content is written first. -/
def temporary (path : Path) (name : String) : Path :=
  match path.parent? with
  | some parent => parent.join ⟨name ++ ".tmp"⟩
  | none => ⟨name ++ ".tmp"⟩

/-- Whether a path holds a null character. -/
def holdsNull (path : Path) : Bool :=
  path.text.toList.contains '\x00'

/-- Write a file under a temporary name, then rename it. -/
def writeWhole (path : Path) (bytes : List UInt8) (tree : FileTree) :
    Except FileError Unit × FileTree :=
  match path.fileName? with
  | none => (.error (.noFileName path), tree)
  | some name =>
    if holdsNull path then (.error .nullInPath, tree)
    else
      match tree.writeInPlace (temporary path name) bytes with
      | .error error => (.error (.system error), tree)
      | .ok tree =>
        match tree.renameFile (temporary path name) path with
        | .error error => (.error (.system error), tree)
        | .ok tree => (.ok (), tree)

/-- The text of a file. -/
def readText (tree : FileTree) (path : Path) : Except FileError String :=
  if holdsNull path then .error .nullInPath
  else
    match tree.resolve path with
    | .error error => .error (.system error)
    | .ok (_, .directory) => .error (.system .isDirectory)
    | .ok (_, .file bytes) =>
      match Text.decode bytes with
      | .ok text => .ok (String.ofList text)
      | .error _ => .error .notText

/-- The entries below a directory, by the rest of their names. -/
def below (tree : FileTree) (names : List String) : List (String × TreeNode) :=
  tree.entries.filterMap (fun (path, node) =>
    if names.isPrefixOf path ∧ path ≠ names then
      some ("/".intercalate (path.drop names.length), node)
    else none)

instance : FileStore FileTree where
  read := readText
  write := writeWhole
  makeDirectory path tree :=
    if holdsNull path then (.error .nullInPath, tree)
    else makeAll (path.components.length + 1) path tree
  contains tree path := !holdsNull path && (tree.resolve path).toOption.isSome

end FileTree

end PubSubTrials
