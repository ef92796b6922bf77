import LintCorpus.Compilation
import LintCorpus.Files

/-!
Export of a corpus to a directory: the source of every fixture, a manifest of what is expected of
them, and the compilation database.  The files are written in this order, and a failure leaves those
that come before it.
-/

namespace LintCorpus

/-- What the manifest says of a fixture. -/
structure ManifestEntry where
  name : String
  file : String
  hash : String
  summary : String
  categories : List Category
  findings : List Finding
deriving DecidableEq, Repr

structure Manifest where
  digest : String
  fixtures : List ManifestEntry
deriving DecidableEq, Repr

def Fixture.manifestEntry (fixture : Fixture) : ManifestEntry where
  name := fixture.name
  file := fixture.fileName
  hash := fixture.contentHash
  summary := fixture.summary
  categories := fixture.categories
  findings := fixture.findings

def Corpus.manifest (corpus : Corpus) : Manifest where
  digest := corpus.digest
  fixtures := corpus.fixtures.map Fixture.manifestEntry

def ManifestEntry.toJson (entry : ManifestEntry) : Json :=
  .obj [
    ("name", .str entry.name),
    ("file", .str entry.file),
    ("hash", .str entry.hash),
    ("summary", .str entry.summary),
    ("categories", .list Category.toJson entry.categories),
    ("findings", .list Finding.toJson entry.findings)]

def Manifest.toJson (manifest : Manifest) : Json :=
  .obj [
    ("digest", .str manifest.digest),
    ("fixtures", .list ManifestEntry.toJson manifest.fixtures)]

def manifestFile : String := "manifest.json"

/-- The name of the compilation database's file. -/
def compileCommandsFile : String := "compile_commands.json"

def Json.fileContent (value : Json) : List UInt8 :=
  Text.bytesOf value.pretty.toList

namespace Corpus

/-- The path and the content of each fixture's file in a directory. -/
def sourceFiles (corpus : Corpus) (dir : String) : List (String × List UInt8) :=
  corpus.fixtures.map fun fixture =>
    (FilePath.join dir fixture.fileName, Text.bytesOf fixture.source.toList)

/-- The path and the content of every file of an export to a directory, in the order of writing. -/
def exportFiles (corpus : Corpus) (dir : String) (compilation : Compilation) :
    List (String × List UInt8) :=
  corpus.sourceFiles dir ++ [
    (FilePath.join dir manifestFile, corpus.manifest.toJson.fileContent),
    (FilePath.join dir compileCommandsFile,
      (Json.list CompileCommand.toJson (corpus.compileCommands dir compilation)).fileContent)]

end Corpus

structure ExportSummary where
  /-- The directory, from the root on. -/
  directory : String
  /-- The paths of the files, in the order of writing. -/
  files : List String
  digest : String
deriving DecidableEq, Repr

namespace Corpus

variable {m : Type → Type} [Monad m] [MonadFiles m]

/-- Makes the directory where it is missing, and finds its path from the root on. -/
def openDirectory (dir : String) : m (Except FileError String) := do
  match ← Files.makeDirectories dir with
  | .ok () => MonadFiles.absolutePath dir
  | .error error => return .error error

/-- Writes the corpus to a directory. -/
def exportTo (corpus : Corpus) (dir : String) (compilation : Compilation) :
    m (Except FileFailure ExportSummary) := do
  match ← openDirectory dir with
  | .error error => return .error ⟨dir, error⟩
  | .ok directory =>
      let files := corpus.exportFiles directory compilation
      match ← Files.writeAll files with
      | .error failure => return .error failure
      | .ok () => return .ok ⟨directory, files.map (·.1), corpus.digest⟩

end Corpus

end LintCorpus
