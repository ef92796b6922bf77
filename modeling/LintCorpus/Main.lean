import LintCorpus.CommandLine.Run
import LintCorpus.Embedded

/-!
The program: the command line on the embedded corpus, with the files of the disk.
-/

namespace LintCorpus

/-- The error with this number.  Some operations report the number with the opposite sign. -/
def errorNumbered (number : UInt32) (otherwise : FileError) : FileError :=
  match min number (0 - number) with
  | 13 => .other "Permission denied (os error 13)"
  | 20 => .notADirectory
  | 21 => .isADirectory
  | _ => otherwise

def fileErrorOf (error : IO.Error) : FileError :=
  match error with
  | .noFileOrDirectory .. => .notFound
  | .alreadyExists .. => .alreadyExists
  | .inappropriateType _ number _ => errorNumbered number (.other (toString error))
  | .permissionDenied _ number _ => errorNumbered number (.other (toString error))
  | error => .other (toString error)

def onDisk {α : Type} (action : IO α) : IO (Except FileError α) := do
  return (← action.toBaseIO).mapError fileErrorOf

instance : MonadFiles IO where
  readBytes path := onDisk (return (← IO.FS.readBinFile path).toList)
  writeBytes path content := onDisk (IO.FS.writeBinFile path ⟨content.toArray⟩)
  makeDirectory path := onDisk (IO.FS.createDir path)
  isDirectory path := do
    match ← (IO.FS.realPath path).toBaseIO with
    | .ok place => place.isDir
    | .error _ => return false
  isThere path := do
    match ← (IO.FS.realPath path).toBaseIO with
    | .ok place => place.pathExists
    | .error _ => return false
  absolutePath path := onDisk (return (← IO.FS.realPath path).toString)

/-- The variable of the environment is set, and not to zero. -/
def isSwitchedOn (value? : Option String) : Bool :=
  value?.any (· ≠ "0")

/-- Whether the output is styled: when it is forced, and else when nothing speaks against it and the
output goes to a terminal. -/
def choosePalette (force? never? wanted? : Option String) (isTerminal : Bool) : Palette :=
  if isSwitchedOn force? then .styled
  else if never?.isSome then .plain
  else if wanted?.all (· ≠ "0") && isTerminal then .styled
  else .plain

end LintCorpus

/-- Runs the program on its arguments. -/
def main (arguments : List String) : IO UInt32 := do
  let stdout ← IO.getStdout
  let stderr ← IO.getStderr
  let palette := LintCorpus.choosePalette (← IO.getEnv "CLICOLOR_FORCE") (← IO.getEnv "NO_COLOR")
    (← IO.getEnv "CLICOLOR") (← stdout.isTty)
  let outcome ← LintCorpus.runArguments LintCorpus.Corpus.embedded palette arguments
  stdout.putStr outcome.stdout
  stdout.flush
  stderr.putStr outcome.stderr
  return outcome.exitCode.toUInt32
