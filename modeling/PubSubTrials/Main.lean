import PubSubTrials.Command.Program
import PubSubTrials.Files.Snapshot
import Std.Time.DateTime.Timestamp

/-!
# Command line

The program sees the files that its words may mean, and nothing else of the file system; what it
has made in that part is written when it ends.
-/

namespace PubSubTrials.CommandLine

/-- The paths that a word may mean: itself and what follows an equals sign in it, with all that
leads there. -/
def pathsOf (word : String) : List Path :=
  match Implementation.split? word.toList with
  | some (_, value) => Path.ancestry ⟨word⟩ ++ Path.ancestry ⟨String.ofList value⟩
  | none => Path.ancestry ⟨word⟩

/-- The number by which the system tells that an entry is a directory. -/
def directoryCode : UInt32 := 21

/-- What is found at a path. -/
def look (path : Path) : IO (Option TreeNode) := do
  try
    return some (.file (← IO.FS.readBinFile path.text).toList)
  catch
    | .inappropriateType _ code _ =>
      return if code = directoryCode then some .directory else none
    | _ => return none

/-- The files that words may mean. -/
def snapshot (words : List String) : IO FileTree := do
  let working : Path := ⟨toString (← IO.currentDir)⟩
  let tree := (FileTree.ofSystem.withEntry working .directory)
  let mut tree := { tree with working := tree.place working }
  for path in words.flatMap pathsOf do
    if let some node ← look path then
      tree := tree.withEntry path node
  return tree

/-- Write an entry. -/
def put (path : Path) : TreeNode → IO Unit
  | .directory => IO.FS.createDirAll path.text
  | .file bytes => IO.FS.writeBinFile path.text ⟨bytes.toArray⟩

/-- Carry out what words ask for. -/
def run (words : List String) : IO UInt32 := do
  let now ← Std.Time.Timestamp.now
  let before ← snapshot words
  let ending := Request.executeWords words (.ofSeconds now.toSecondsSinceUnixEpoch.val) before
  for (path, node) in ending.files.newEntries before do
    put path node
  for message in ending.diagnostics do
    IO.eprintln message
  IO.print ending.output
  return UInt32.ofNat ending.exitCode

end PubSubTrials.CommandLine

def main (words : List String) : IO UInt32 :=
  PubSubTrials.CommandLine.run words
