import Concord.CommandLine.Run

/-!
# The program

The program runs on the words of its command line and on the files of the host. A file is replaced
by writing a temporary file beside it and renaming that. A report is shown on the standard output;
events and failures are told on the standard error.
-/

namespace Concord.Host

open Files

/-- The number and the wording that the host gives to an error. -/
def describe : IO.Error → Option (UInt32 × String)
  | .alreadyExists _ code details => some (code, details)
  | .otherError code details => some (code, details)
  | .resourceBusy code details => some (code, details)
  | .resourceVanished code details => some (code, details)
  | .unsupportedOperation code details => some (code, details)
  | .hardwareFault code details => some (code, details)
  | .unsatisfiedConstraints code details => some (code, details)
  | .illegalOperation code details => some (code, details)
  | .protocolError code details => some (code, details)
  | .timeExpired code details => some (code, details)
  | .interrupted _ code details => some (code, details)
  | .noFileOrDirectory _ code details => some (code, details)
  | .invalidArgument _ code details => some (code, details)
  | .permissionDenied _ code details => some (code, details)
  | .resourceExhausted _ code details => some (code, details)
  | .inappropriateType _ code details => some (code, details)
  | .noSuchThing _ code details => some (code, details)
  | .unexpectedEof => none
  | .userError _ => none

/-- The file error that an error of the host stands for. -/
def fileError (error : IO.Error) : FileError :=
  match describe error with
  | some (2, _) => .notFound
  | some (16, _) => .busy
  | some (20, _) => .notDirectory
  | some (21, _) => .isDirectory
  | some (36, _) => .nameTooLong
  | some (code, details) => .other (details ++ " (os error " ++ toString code ++ ")")
  | none => .other (toString error)

/-- Reads the text in a file. -/
def readText (path : String) : IO (Except FileError String) := do
  if path.contains '\x00' then return .error .nullInPath
  try
    match String.fromUTF8? (← IO.FS.readBinFile path) with
    | some text => return .ok text
    | none => return .error .notText
  catch error => return .error (fileError error)

/-- The characters of the names of temporary files. -/
def nameCharacters : Array Char :=
  "abcdefghijklmnopqrstuvwxyzABCDEFGHIJKLMNOPQRSTUVWXYZ0123456789".toList.toArray

/-- A random name for a temporary file. -/
def randomName : IO String := do
  let characters ← (List.range 6).mapM fun _ => do
    return nameCharacters.getD (← IO.rand 0 (nameCharacters.size - 1)) 'x'
  return ".tmp" ++ String.ofList characters

/-- Creates an empty temporary file in a directory, trying another name while the name is taken. -/
def createTemporary (directory : String) :
    (attempts : Nat) → IO (Except ReplaceError (String × IO.FS.Handle))
  | 0 => return .error (.create (.other "too many temporary files exist") directory)
  | attempts + 1 => do
    let path := join directory (← randomName)
    try
      return .ok (path, ← IO.FS.Handle.mk path .writeNew)
    catch error =>
      match error with
      | .alreadyExists .. => createTemporary directory attempts
      | _ => return .error (.create (fileError error) path)

/-- The greatest number of names tried for a temporary file. -/
def greatestAttempts : Nat := 65536

/-- Replaces a file by one that holds a text. -/
def replaceText (path text : String) : IO (Except ReplaceError Unit) := do
  let directory := parent path
  let home := (← IO.currentDir).toString
  let start := if directory.startsWith "/" then directory else join home directory
  match ← createTemporary start greatestAttempts with
  | .error error => return .error error
  | .ok (temporary, handle) =>
    try
      handle.write text.toUTF8
      handle.flush
      IO.FS.rename temporary path
      return .ok ()
    catch error =>
      IO.FS.removeFile temporary
      return .error (.persist (fileError error))

/-- The access to the files of the host. -/
def access : FileAccess IO := ⟨readText, replaceText⟩

/-- Whether texts are coloured: always or never if the environment says so, else on a terminal. -/
def wantsColor : IO Bool := do
  match ← IO.getEnv "CLICOLOR_FORCE", ← IO.getEnv "NO_COLOR" with
  | some forced, _ => if forced ≠ "0" then return true else return (← (← IO.getStdout).isTty)
  | none, some _ => return false
  | none, none => (← IO.getStdout).isTty

end Concord.Host

/-- Runs the program. -/
def main (words : List String) : IO UInt32 := do
  let outcome ← Concord.CommandLine.run Concord.Host.access (← Concord.Host.wantsColor) words
  IO.print outcome.shown
  IO.eprint outcome.told
  return outcome.ending.code
