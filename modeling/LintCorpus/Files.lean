import LintCorpus.FilePath
import LintCorpus.Text.Basic

/-!
Files: what the library asks of a file system, and the errors that come back.  Everything that
touches files is written over `MonadFiles`, so that it runs on a tree of files held in memory as
well as on a disk.
-/

namespace LintCorpus

/-- Why a file operation failed. -/
inductive FileError where
  /-- A name on the path leads nowhere. -/
  | notFound
  /-- There is something at the path already. -/
  | alreadyExists
  /-- A name on the path leads to a file, and the path goes on behind it. -/
  | notADirectory
  /-- The path leads to a directory where a file is wanted. -/
  | isADirectory
  /-- The bytes of the file are not a text in UTF-8. -/
  | invalidText
  /-- Any other reason, in the words of the system. -/
  | other (reason : String)
deriving DecidableEq, Repr

def FileError.message : FileError → String
  | notFound => "No such file or directory (os error 2)"
  | alreadyExists => "File exists (os error 17)"
  | notADirectory => "Not a directory (os error 20)"
  | isADirectory => "Is a directory (os error 21)"
  | invalidText => "stream did not contain valid UTF-8"
  | other reason => reason

/-- A failed file operation, with the path that it was about. -/
structure FileFailure where
  path : String
  error : FileError
deriving DecidableEq, Repr

def FileFailure.message (failure : FileFailure) : String :=
  "i/o error at " ++ failure.path ++ ": " ++ failure.error.message

/-- Monads with files.  Relative paths start at a working directory. -/
class MonadFiles (m : Type → Type) where
  readBytes : (path : String) → m (Except FileError (List UInt8))
  /-- Gives a file this content.  The file is made when it is missing. -/
  writeBytes : (path : String) → (content : List UInt8) → m (Except FileError Unit)
  makeDirectory : (path : String) → m (Except FileError Unit)
  isDirectory : (path : String) → m Bool
  isThere : (path : String) → m Bool
  /-- The path from the root to what the given path leads to. -/
  absolutePath : (path : String) → m (Except FileError String)

namespace Files

variable {m : Type → Type} [Monad m] [MonadFiles m]

def decodeText (bytes : List UInt8) : Except FileError String :=
  match String.fromUTF8? ⟨bytes.toArray⟩ with
  | some text => .ok text
  | none => .error .invalidText

def readText (path : String) : m (Except FileError String) :=
  return (← MonadFiles.readBytes path).bind decodeText

/-- The outcome of making a directory, where it counts as made when it is there. -/
def orPresent (path : String) : Except FileError Unit → m (Except FileError Unit)
  | .ok () => return .ok ()
  | .error error => return if ← MonadFiles.isDirectory path then .ok () else .error error

/-- Makes the first of the directories; those behind it enclose it, and are made when they are
missing. -/
def makeEnclosed : List String → m (Except FileError Unit)
  | [] => return .ok ()
  | path :: enclosing => do
      match ← MonadFiles.makeDirectory path with
      | .error .notFound =>
          match ← makeEnclosed enclosing with
          | .ok () => orPresent path (← MonadFiles.makeDirectory path)
          | .error error => return .error error
      | outcome => orPresent path outcome

/-- Makes a directory and those that enclose it, where they are missing. -/
def makeDirectories (path : String) : m (Except FileError Unit) :=
  if path = "" then return .ok () else makeEnclosed (path :: FilePath.enclosing path)

/-- Writes files in order, and stops at the first failure. -/
def writeAll : List (String × List UInt8) → m (Except FileFailure Unit)
  | [] => return .ok ()
  | (path, content) :: rest => do
      match ← MonadFiles.writeBytes path content with
      | .ok () => writeAll rest
      | .error error => return .error ⟨path, error⟩

end Files

end LintCorpus
