import PubSubTrials.Files.Tree

/-!
# Snapshots of files

A tree can hold the part of a file system that some paths lead to. What is found there is added
entry by entry, and after the tree was changed the new entries tell what has to be written.
-/

namespace PubSubTrials

/-- A path with all paths that lead to it. -/
def Path.ancestry (path : Path) : List Path :=
  let components := path.components
  (List.range components.length).map (fun n => .ofComponents (components.take n)) ++ [path]

namespace FileTree

/-- The names that a path leads through, whether or not there are such entries. -/
def place (tree : FileTree) (path : Path) : List String :=
  path.steps.foldl
    (fun names step =>
      if step = "." then names else if step = ".." then names.dropLast else names ++ [step])
    (tree.origin path)

/-- Add the directories that lead to an entry, as far as they are missing. -/
def withParents (tree : FileTree) (names : List String) : FileTree :=
  (List.range names.length).foldl
    (fun tree n =>
      if (tree.get? (names.take n)).isSome then tree else tree.set (names.take n) .directory)
    tree

/-- Add an entry that a path leads to. -/
def withEntry (tree : FileTree) (path : Path) (node : TreeNode) : FileTree :=
  let names := tree.place path
  if names.isEmpty then tree else (tree.withParents names).set names node

/-- The entries of a tree that an earlier one did not have. -/
def newEntries (tree earlier : FileTree) : List (Path × TreeNode) :=
  (tree.entries.filter (fun entry => !earlier.entries.contains entry)).map
    (fun (names, node) => (⟨"/" ++ "/".intercalate names⟩, node))

end FileTree

end PubSubTrials
