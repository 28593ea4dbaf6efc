import Concord.Files.Tree
import Concord.Text.Quoted

/-!
# Replacing files

A file is replaced as a whole or not at all: its new content goes into a temporary file beside it,
which then takes its place. When that fails the temporary file is removed again.
-/

namespace Concord.Files

/-- Why a file was not replaced. -/
inductive ReplaceError where
  /-- No temporary file could be created at a path. -/
  | create (error : FileError) (path : String)
  /-- The temporary file could not take the place of the file. -/
  | persist (error : FileError)
deriving DecidableEq, Repr

/-- The name of a temporary file in messages, which do not tell what makes it unique. -/
def temporaryName : String := ".tmp******"

/-- The wording of a replace error, from the outermost cause to the innermost. -/
def ReplaceError.causes : ReplaceError → List String
  | .create e path => [e.message ++ " at path " ++ Text.quote path]
  | .persist e => ["failed to persist temporary file: " ++ e.message, e.message]

namespace FileTree

/-- The path of a temporary file in a directory, from the root. -/
def temporaryPath (tree : FileTree) (directory : String) : String :=
  let home := "/" ++ "/".intercalate tree.home
  join (if directory.startsWith "/" then directory else join home directory) temporaryName

/-- A name that is longer than every name in the tree, so nothing bears it. -/
def freshName (tree : FileTree) : String :=
  let longest := tree.entries.foldl
    (fun length item => max length ((item.1.getLast?.map String.length).getD 0)) 0
  ".tmp" ++ String.ofList (List.replicate longest '_')

/-- Creates an empty temporary file in the directory that a path leads to. -/
def createTemporary (tree : FileTree) (directory : String) :
    Except ReplaceError (Location × FileTree) :=
  match tree.locateDirectory directory with
  | .error e => .error (.create e (tree.temporaryPath directory))
  | .ok location =>
    let temporary := location ++ [tree.freshName]
    .ok (temporary, tree.insert temporary (.file ByteArray.empty))

/-- The location that a path gives to a file put in its place. The way to it must lead to a
directory; its last segment must be a name, without a slash after it, and name no directory. -/
def placeOf (tree : FileTree) (path : String) : Except FileError Location := do
  if path.contains '\x00' then throw .nullInPath
  let reversed := (segments path).reverse
  match reversed.dropWhile String.isEmpty with
  | [] => .error (if path.isEmpty then .notFound else .busy)
  | name :: before =>
    let location ← tree.walkPath before.reverse
    match tree.find? location with
    | some .directory =>
      if name = "." ∨ name = ".." then .error .busy
      else if greatestName < name.utf8ByteSize then .error .nameTooLong
      else if reversed.head? = some "" then .error .notDirectory
      else if (tree.find? (location ++ [name])).any Entry.isDirectory then .error .isDirectory
      else .ok (location ++ [name])
    | _ => .error .notDirectory

/-- Moves the file at a location to the place that a path gives to it. -/
def rename (tree : FileTree) (source : Location) (path : String) : Except FileError FileTree := do
  let place ← tree.placeOf path
  match tree.find? source with
  | some entry => .ok ((tree.erase source).insert place entry)
  | none => .error .notFound

/-- Replaces the file that a path names, or creates it. -/
def replace (tree : FileTree) (path : String) (content : ByteArray) :
    Except ReplaceError Unit × FileTree :=
  match tree.createTemporary (parent path) with
  | .error e => (.error e, tree)
  | .ok (temporary, created) =>
    let written := (created.erase temporary).insert temporary (.file content)
    match written.rename temporary path with
    | .error e => (.error (.persist e), written.erase temporary)
    | .ok renamed => (.ok (), renamed)

end FileTree

end Concord.Files
