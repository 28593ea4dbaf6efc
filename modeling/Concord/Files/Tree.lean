import Concord.Files.Path

/-!
# File trees

A `FileTree` holds files and directories, each under its location: the names on the way to it from
the root. One directory is the working directory. A path is walked segment by segment, from the root
if it begins with a slash and else from the working directory, and every segment but the last must
lead to a directory. Reading leaves a tree as it is.
-/

namespace Concord.Files

/-- Why a file cannot be read or written. -/
inductive FileError where
  | notFound
  | notDirectory
  | isDirectory
  | busy
  | nameTooLong
  /-- The path holds a null character. -/
  | nullInPath
  /-- The content is not text in UTF-8. -/
  | notText
  /-- Any other reason, in the words of the host. -/
  | other (text : String)
deriving DecidableEq, Repr

/-- The wording of a file error. -/
def FileError.message : FileError → String
  | .notFound => "No such file or directory (os error 2)"
  | .notDirectory => "Not a directory (os error 20)"
  | .isDirectory => "Is a directory (os error 21)"
  | .busy => "Device or resource busy (os error 16)"
  | .nameTooLong => "File name too long (os error 36)"
  | .nullInPath => "file name contained an unexpected NUL byte"
  | .notText => "stream did not contain valid UTF-8"
  | .other text => text

/-- What stands at a location. -/
inductive Entry where
  /-- A file with its content. -/
  | file (content : ByteArray)
  /-- A directory. -/
  | directory

/-- Whether a directory stands there. -/
def Entry.isDirectory : Entry → Bool
  | .file _ => false
  | .directory => true

/-- The names on the way from the root. -/
abbrev Location := List String

/-- Files and directories, one of the directories being the working directory. -/
structure FileTree where
  /-- The location of the working directory. -/
  home : Location
  /-- What stands at each location; the first entry of a location counts. -/
  entries : List (Location × Entry)

namespace FileTree

/-- What stands at a location. -/
def find? (tree : FileTree) (location : Location) : Option Entry :=
  if location = [] then some .directory else tree.entries.lookup location

/-- The tree with an entry put at a location. -/
def insert (tree : FileTree) (location : Location) (entry : Entry) : FileTree :=
  { tree with entries := (location, entry) :: tree.entries }

/-- The tree with nothing at a location. -/
def erase (tree : FileTree) (location : Location) : FileTree :=
  { tree with entries := tree.entries.filter fun item => item.1 ≠ location }

/-- The greatest size of a name in bytes. -/
def greatestName : Nat := 255

/-- The location that segments lead to from another one; what stands there exists. -/
def walk (tree : FileTree) : Location → List String → Except FileError Location
  | here, [] => .ok here
  | here, segment :: rest =>
    match tree.find? here with
    | none => .error .notFound
    | some (.file _) => .error .notDirectory
    | some .directory =>
      if isIdle segment then walk tree here rest
      else if segment = ".." then walk tree here.dropLast rest
      else if greatestName < segment.utf8ByteSize then .error .nameTooLong
      else
        match tree.find? (here ++ [segment]) with
        | none => .error .notFound
        | some _ => walk tree (here ++ [segment]) rest

/-- The location that the segments of a path lead to. -/
def walkPath (tree : FileTree) : List String → Except FileError Location
  | "" :: rest => tree.walk [] rest
  | segments => tree.walk tree.home segments

/-- The location that a path leads to. An empty path leads nowhere. -/
def locate (tree : FileTree) (path : String) : Except FileError Location :=
  if path.isEmpty then .error .notFound
  else if path.contains '\x00' then .error .nullInPath
  else tree.walkPath (segments path)

/-- The text in the file that a path leads to. -/
def read (tree : FileTree) (path : String) : Except FileError String := do
  match tree.find? (← tree.locate path) with
  | none => .error .notFound
  | some .directory => .error .isDirectory
  | some (.file content) =>
    match String.fromUTF8? content with
    | some text => .ok text
    | none => .error .notText

/-- The location of the directory that a path leads to. -/
def locateDirectory (tree : FileTree) (path : String) : Except FileError Location := do
  let location ← tree.locate path
  match tree.find? location with
  | some .directory => .ok location
  | _ => .error .notDirectory

end FileTree

end Concord.Files
