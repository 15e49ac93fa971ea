import PubSubTrials.Files.Tree

/-!
# Branches of a tree of files

A branch is an entry with all that is below it. Branches can be removed, copied and moved.
-/

namespace PubSubTrials.FileTree

/-- The entries of a branch. -/
def branch (tree : FileTree) (names : List String) : List (List String × TreeNode) :=
  tree.entries.filter (fun entry => names.isPrefixOf entry.1)

/-- Remove a branch. -/
def eraseBranch (tree : FileTree) (names : List String) : FileTree :=
  { tree with entries := tree.entries.filter (fun entry => !names.isPrefixOf entry.1) }

/-- Whether a directory has entries. -/
def hasEntries (tree : FileTree) (names : List String) : Bool :=
  tree.entries.any (fun entry => names.isPrefixOf entry.1 && entry.1 ≠ names)

/-- Put entries below another place. -/
def graft (tree : FileTree) (source target : List String)
    (entries : List (List String × TreeNode)) : FileTree :=
  entries.foldl (fun tree (names, node) => tree.set (target ++ names.drop source.length) node) tree

/-- Copy a branch. -/
def copyBranch (tree : FileTree) (source target : List String) : FileTree :=
  tree.graft source target (tree.branch source)

/-- Move a branch. -/
def moveBranch (tree : FileTree) (source target : List String) : FileTree :=
  (tree.eraseBranch source).graft source target (tree.branch source)

/-- The names in a directory. -/
def namesIn (tree : FileTree) (names : List String) : List String :=
  tree.entries.filterMap (fun entry =>
    if names.isPrefixOf entry.1 ∧ entry.1.length = names.length + 1 then entry.1.getLast? else none)

/-- The entry that a path leads to or would lead to. -/
def target (tree : FileTree) (path : Path) :
    Except SystemError (List String × Option TreeNode) := do
  match tree.resolve path with
  | .ok (names, node) => return (names, some node)
  | .error .noEntry =>
    let (parents, last) ← tree.resolveParent path
    return (parents ++ [last], none)
  | .error error => throw error

end PubSubTrials.FileTree
