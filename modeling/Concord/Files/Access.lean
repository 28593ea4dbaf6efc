import Concord.Files.Replace

/-!
# Access to files

A program reads and replaces text files through a `FileAccess`. That of a `FileTree` keeps the tree
as its state, so what a program does to files is a function of trees.
-/

namespace Concord.Files

/-- How text files are read and replaced. -/
structure FileAccess (m : Type → Type) where
  /-- The text in the file that a path leads to. -/
  read : String → m (Except FileError String)
  /-- Replaces the file that a path names by one that holds a text. -/
  replace : String → String → m (Except ReplaceError Unit)

/-- The access to the files of a tree. -/
def FileTree.access : FileAccess (StateM FileTree) where
  read path := do return (← get).read path
  replace path text := do
    let (result, tree) := (← get).replace path text.toUTF8
    set tree
    return result

end Concord.Files
