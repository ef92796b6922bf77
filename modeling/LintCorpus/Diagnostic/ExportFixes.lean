import LintCorpus.Corpus
import LintCorpus.Diagnostic.Basic
import LintCorpus.Fixture.Position

/-!
Documents of exported fixes: what an analyzer writes about each diagnostic, and the diagnostics that
it stands for.  Places are byte offsets, which only the sources of a corpus turn into lines.
-/

namespace LintCorpus

/-- What an exported diagnostic says about its place and its reason. -/
structure ExportedMessage where
  message : Option String
  filePath : Option String
  fileOffset : Option Nat
deriving DecidableEq, Repr

/-- A message that says nothing. -/
def ExportedMessage.empty : ExportedMessage := ⟨none, none, none⟩

structure ExportedDiagnostic where
  /-- The check. -/
  name : String
  level : Option String
  nested : Option ExportedMessage
  /-- The message whose fields stand beside those of the diagnostic. -/
  inline : ExportedMessage
deriving DecidableEq, Repr

def Corpus.positionIn? (corpus : Corpus) (file : String) (offset : Nat) : Option Position :=
  (corpus.byFileName? (fileNameOf file)).bind fun fixture => fixture.positionOf? offset

/-- The message that counts: the nested one when there is one. -/
def ExportedDiagnostic.content (exported : ExportedDiagnostic) : ExportedMessage :=
  exported.nested.getD exported.inline

def ExportedDiagnostic.file (exported : ExportedDiagnostic) : String :=
  exported.content.filePath.getD ""

/-- The diagnostic.  Its line and column are zero when the place is not known, and without a level
it is a warning. -/
def ExportedDiagnostic.resolve (exported : ExportedDiagnostic) (corpus : Corpus) : Diagnostic :=
  let position := exported.content.fileOffset.bind (corpus.positionIn? exported.file)
  { file := exported.file
    line := (position.map (·.line)).getD 0
    column := (position.map (·.column)).getD 0
    severity := (exported.level.map fun level => Severity.ofLevel level.toList).getD .warning
    message := exported.content.message.getD ""
    checks := [exported.name] }

end LintCorpus
