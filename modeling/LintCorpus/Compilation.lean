import LintCorpus.Corpus
import LintCorpus.FilePath
import LintCorpus.Json.Encode

/-!
The compilation database of a corpus: for every fixture the command that compiles its file.
-/

namespace LintCorpus

/-- How the fixtures are compiled. -/
structure Compilation where
  compiler : String
  /-- The language standard, by its bare name. -/
  standard : String
  /-- Arguments that stand before the file. -/
  extraArgs : List String
deriving DecidableEq, Repr

/-- The compilation that nothing was said about. -/
def Compilation.default : Compilation :=
  ⟨"clang++", "c++17", ["-Wall", "-Wextra"]⟩

/-- An entry of the database. -/
structure CompileCommand where
  /-- The directory in which the command runs. -/
  directory : String
  file : String
  /-- The compiler and everything behind it. -/
  arguments : List String
deriving DecidableEq, Repr

def Compilation.arguments (compilation : Compilation) (file : String) : List String :=
  [compilation.compiler, "-std=" ++ compilation.standard] ++ compilation.extraArgs ++ ["-c", file]

def Fixture.compileCommand (fixture : Fixture) (dir : String) (compilation : Compilation) :
    CompileCommand :=
  let file := FilePath.join dir fixture.fileName
  ⟨dir, file, compilation.arguments file⟩

def Corpus.compileCommands (corpus : Corpus) (dir : String) (compilation : Compilation) :
    List CompileCommand :=
  corpus.fixtures.map fun fixture => fixture.compileCommand dir compilation

/-- The JSON form of an entry. -/
def CompileCommand.toJson (command : CompileCommand) : Json :=
  .obj [
    ("directory", .str command.directory),
    ("file", .str command.file),
    ("arguments", .strings command.arguments)]

end LintCorpus
