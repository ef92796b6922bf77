import LintCorpus.Corpus
import LintCorpus.Diagnostic.Reader

/-!
Failures of commands, told from the outermost cause to the innermost one.
-/

namespace LintCorpus

/-- Why a command failed. -/
inductive Failure where
  | unknownFixture (name : String)
  | unknownCategory (name : String)
  | unreadSettings (path : String) (error : FileError)
  /-- The settings file says something that is not understood. -/
  | invalidSettings (path message : String)
  /-- The diagnostics cannot be loaded. -/
  | unloaded (path : String) (failure : LoadFailure)
  /-- The corpus cannot be written to the directory. -/
  | unexported (dir : String) (failure : FileFailure)
deriving DecidableEq, Repr

namespace Failure

/-- The outermost cause in words. -/
def headline : Failure → String
  | unknownFixture name => notFoundMessage name
  | unknownCategory name => Category.unknownMessage name
  | unreadSettings path _ => "Failed to read config file: " ++ path
  | invalidSettings path _ => "Invalid config file: " ++ path
  | unloaded path _ => "Failed to load diagnostics: " ++ path
  | unexported dir _ => "Failed to export corpus to " ++ dir

/-- The causes behind the outermost one. -/
def causes : Failure → List String
  | unknownFixture _ | unknownCategory _ => []
  | unreadSettings _ error => [error.message]
  | invalidSettings _ message => [message]
  | unloaded _ failure => failure.causes
  | unexported _ failure => [failure.message, failure.error.message]

/-- All causes on one line. -/
def message (failure : Failure) : String :=
  ": ".intercalate (failure.headline :: failure.causes)

end Failure

end LintCorpus
