import PubSubTrials.Files.Store

/-!
# Files in memory

Files and directories kept under their paths, where paths with the same components are the
same. Nothing has to exist for a file to be written, and a directory is there once it was asked
for. A path that is written again keeps the text that it had first.
-/

namespace PubSubTrials

/-- Files and directories in memory. -/
structure MemoryFiles where
  files : List (Path × List UInt8)
  directories : List Path
  deriving DecidableEq, Repr, Inhabited

namespace MemoryFiles

/-- No files. -/
def empty : MemoryFiles := ⟨[], []⟩

/-- The bytes kept under a path, among the given files. -/
def lookup (path : Path) : List (Path × List UInt8) → Option (List UInt8)
  | [] => none
  | (key, bytes) :: rest => if key.same path then some bytes else lookup path rest

/-- The bytes of a file. -/
def get? (store : MemoryFiles) (path : Path) : Option (List UInt8) :=
  lookup path store.files

/-- Put bytes under a path, among the given files. -/
def put (path : Path) (bytes : List UInt8) :
    List (Path × List UInt8) → List (Path × List UInt8)
  | [] => [(path, bytes)]
  | (key, old) :: rest =>
    if key.same path then (key, bytes) :: rest else (key, old) :: put path bytes rest

/-- Add or replace a file. -/
def add (store : MemoryFiles) (path : Path) (bytes : List UInt8) : MemoryFiles :=
  { store with files := put path bytes store.files }

/-- Whether a directory was made. -/
def hasDirectory (store : MemoryFiles) (path : Path) : Bool :=
  store.directories.any (fun directory => directory.same path)

/-- Make a directory. -/
def addDirectory (store : MemoryFiles) (path : Path) : MemoryFiles :=
  if store.hasDirectory path then store
  else { store with directories := path :: store.directories }

/-- The paths of all files, in the order of paths. -/
def paths (store : MemoryFiles) : List Path :=
  (store.files.map Prod.fst).mergeSort Path.le

/-- The text of a file. -/
def readText (store : MemoryFiles) (path : Path) : Except FileError String :=
  match store.get? path with
  | none => .error (.absent path)
  | some bytes =>
    match Text.decode bytes with
    | .ok text => .ok (String.ofList text)
    | .error fault => .error (.undecodable fault)

instance : FileStore MemoryFiles where
  read := readText
  write path bytes store := (.ok (), store.add path bytes)
  makeDirectory path store := (.ok (), store.addDirectory path)
  contains store path := (store.get? path).isSome || store.hasDirectory path

end MemoryFiles

/-- A kind of change that a store may refuse. -/
inductive Refusal where
  | nothing
  | directories (reason : String)
  | files (reason : String)
  deriving DecidableEq, Repr, Inhabited

/-- Files in memory that refuse one kind of change. -/
structure GuardedFiles where
  inside : MemoryFiles
  refusal : Refusal
  deriving DecidableEq, Repr, Inhabited

instance : FileStore GuardedFiles where
  read store := store.inside.readText
  write path bytes store :=
    match store.refusal with
    | .files reason => (.error (.refused reason), store)
    | _ => (.ok (), { store with inside := store.inside.add path bytes })
  makeDirectory path store :=
    match store.refusal with
    | .directories reason => (.error (.refused reason), store)
    | _ => (.ok (), { store with inside := store.inside.addDirectory path })
  contains store path := FileStore.contains store.inside path

end PubSubTrials
