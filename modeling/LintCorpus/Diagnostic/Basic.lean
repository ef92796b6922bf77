import LintCorpus.FilePath
import LintCorpus.Text.Basic

/-!
Diagnostics: what an analyzer reports, and the two formats in which reports are stored.
-/

namespace LintCorpus

/-- How severe a diagnostic is. -/
inductive Severity where
  /-- Notes and remarks that belong to another diagnostic. -/
  | note
  /-- Findings of checks, and compiler warnings. -/
  | warning
  /-- Compiler errors, and checks that were promoted to errors. -/
  | error
deriving DecidableEq, Repr

namespace Severity

def name : Severity → String
  | note => "note"
  | warning => "warning"
  | error => "error"

/-- The severity of a level, in ASCII letters of either case.  Unknown levels are notes. -/
def ofLevel (level : List Char) : Severity :=
  let lowered := Text.lowercaseAscii level
  if lowered = "error".toList ∨ lowered = "fatal error".toList then error
  else if lowered = "warning".toList then warning
  else note

end Severity

/-- One report of an analyzer. -/
structure Diagnostic where
  /-- The path of the file, as the analyzer wrote it. -/
  file : String
  /-- The line, counted from one; zero when the place is not known. -/
  line : Nat
  /-- The column, counted from one; zero when the place is not known. -/
  column : Nat
  severity : Severity
  /-- The message without the list of checks. -/
  message : String
  checks : List String
deriving DecidableEq, Repr

/-- The last component of a path whose separators are slashes or backslashes. -/
def fileNameOf (path : String) : String :=
  String.ofList (Text.afterLast (fun c => c = '/' || c = '\\') path.toList)

def Diagnostic.fileName (diagnostic : Diagnostic) : String :=
  fileNameOf diagnostic.file

inductive DiagnosticFormat where
  /-- The console output of the analyzer. -/
  | text
  /-- The document of exported fixes. -/
  | yaml
deriving DecidableEq, Repr

namespace DiagnosticFormat

def name : DiagnosticFormat → String
  | text => "text"
  | yaml => "yaml"

/-- The format with this name, in letters of either case. -/
def ofName? (s : String) : Option DiagnosticFormat :=
  let lowered := Text.lowercase s.toList
  if lowered = "text".toList then some text
  else if lowered = "yaml".toList then some yaml
  else none

/-- What is said of a name that no format has. -/
def unknownMessage (s : String) : String :=
  "unknown diagnostics format '" ++ s ++ "', expected 'text' or 'yaml'"

/-- The format that a path's extension tells: `yaml` and `yml` are documents, all else is text. -/
def ofPath (path : String) : DiagnosticFormat :=
  match (FilePath.extension? path.toList).map Text.lowercase with
  | some ending => if ending = "yaml".toList ∨ ending = "yml".toList then yaml else text
  | none => text

end DiagnosticFormat

end LintCorpus
