import LintCorpus.CommandLine.Command
import LintCorpus.CommandLine.Failure
import LintCorpus.CommandLine.Screen
import LintCorpus.Settings.Reader

/-!
Running the command line: from the arguments to an exit code and the two outputs.  The exit code is
zero when all is well, one when a command fails or finds something wrong, and two when the arguments
are refused.
-/

namespace LintCorpus

/-- What a run leaves behind, its files apart. -/
structure Outcome where
  exitCode : Nat
  stdout : String
  stderr : String
deriving DecidableEq, Repr

namespace Outcome

/-- Lines of output, and whether all is well. -/
def ofLines (passed : Bool) (lines : List String) : Outcome :=
  ⟨if passed then 0 else 1, Text.unlines lines, ""⟩

/-- A JSON value as output, and whether all is well. -/
def ofJson (passed : Bool) (value : Json) : Outcome :=
  ofLines passed [value.pretty]

end Outcome

/-- The settings file that is read when none is named. -/
def defaultSettingsFile : String := "tidyviz.json"

variable {m : Type → Type} [Monad m] [MonadFiles m]

def readSettingsFile (path : String) : ExceptT Failure m Settings := do
  match ← Files.readText (m := m) path with
  | .error error => throw (.unreadSettings path error)
  | .ok text =>
      match Settings.read text with
      | .error problem => throw (.invalidSettings path (problem.message text))
      | .ok settings => return settings

/-- The settings of the named file, or else of the usual one if it is there. -/
def readSettings (file? : Option String) : ExceptT Failure m Settings := do
  match file? with
  | some path => readSettingsFile path
  | none =>
      if ← MonadFiles.isThere (m := m) defaultSettingsFile then
        readSettingsFile defaultSettingsFile
      else return Settings.empty

namespace Corpus

def findFixture (corpus : Corpus) (name : String) : Except Failure Fixture :=
  match corpus.get? name with
  | some fixture => .ok fixture
  | none => .error (.unknownFixture name)

def findCategory (name? : Option String) : Except Failure (Option Category) :=
  match name? with
  | none => .ok none
  | some name =>
      match Category.ofName? name with
      | some category => .ok (some category)
      | none => .error (.unknownCategory name)

/-- Checks the diagnostics in a file against a fixture.  The path tells the format when none is
given. -/
def checkFile (corpus : Corpus) (name path : String) (format? : Option DiagnosticFormat)
    (options : CheckOptions) : ExceptT Failure m Report := do
  let fixture ← corpus.findFixture name
  match ← corpus.loadDiagnostics (m := m) path (format?.getD (.ofPath path)) with
  | .error failure => throw (.unloaded path failure)
  | .ok diagnostics => return fixture.check diagnostics options

end Corpus

def Report.fileJson (report : Report) (path : String) : Json :=
  .obj [
    ("success", .bool report.ok),
    ("diagnostics_path", .str path),
    ("required_coverage", .binary report.coverage),
    ("report", report.toJson)]

/-- The details of the fixture with this name, or the names that there are. -/
def Corpus.showOutcome (corpus : Corpus) (palette : Palette) (name : String)
    (withSource json : Bool) : Outcome :=
  match corpus.get? name with
  | some fixture =>
      if json then
        .ofJson true (.obj [("success", .bool true), ("fixture", fixture.detailJson withSource)])
      else .ofLines true (palette.detail fixture withSource)
  | none =>
      if json then
        .ofJson false (.obj [("success", .bool false), ("error", .str (notFoundMessage name))])
      else
        ⟨1, "", Text.unlines [
          palette.paint (.boldColored .red) "error" ++ ": " ++ notFoundMessage name,
          "available fixtures: " ++ ", ".intercalate corpus.names]⟩

def Command.run (corpus : Corpus) (palette : Palette) (settingsFile? : Option String) :
    Command → ExceptT Failure m Outcome
  | .listFixtures category? json => do
      let rows := corpus.rows (← Corpus.findCategory category?)
      return if json then .ofJson true (listingJson rows) else .ofLines true (palette.listing rows)
  | .showFixture name withSource json => return corpus.showOutcome palette name withSource json
  | .verifyCorpus json =>
      let audit := corpus.audit
      return if json then .ofJson audit.passed audit.toJson
        else .ofLines audit.passed (palette.audit audit)
  | .exportCorpus dir compiler? standard? => do
      let settings ← readSettings settingsFile?
      let compilation := settings.compilation compiler? standard?
      match ← corpus.exportTo (m := m) dir compilation with
      | .error failure => throw (.unexported dir failure)
      | .ok summary => return .ofLines true (palette.exported corpus compilation summary)
  | .checkFixture name path format? tolerance? ignoreChecks strict json => do
      let settings ← readSettings settingsFile?
      let options := settings.checkOptions tolerance? ignoreChecks strict
      let report ← corpus.checkFile name path format? options
      return if json then .ofJson report.ok (report.fileJson path)
        else .ofLines report.ok (palette.check path options.strict report)

def programName : String := "tidyviz"

def programVersion : String := "0.1.0"

def OptionName.usage (option : OptionName) : String :=
  (match option.letter? with
    | some letter => "-" ++ letter.toString ++ ", "
    | none => "") ++ "--" ++ option.long ++ (if option.takesValue then " <VALUE>" else "")

/-- How the program or one of its commands is called. -/
def usage (behind? : Option CommandName) : List String :=
  let option (o : OptionName) := "  " ++ o.usage
  match behind? with
  | none =>
      ["Usage: " ++ programName ++ " [OPTIONS] <COMMAND>", "", "Commands:"] ++
      CommandName.all.map (fun name => "  " ++ Text.padRight 8 name.text ++ name.summary) ++
      ["", "Options:"] ++ commonOptions.map option
  | some name =>
      [name.summary, "", "Usage: " ++ programName ++ " " ++ name.text ++ " [OPTIONS]" ++
        (if name.takesName then " <NAME>" else ""), "", "Options:"] ++
      (name.options ++ commonOptions).map option

/-- What is said when the arguments ask for no command. -/
def Stop.outcome (palette : Palette) (stop : Stop) : Outcome :=
  match stop.halt with
  | .help => .ofLines true (usage stop.behind?)
  | .version =>
      .ofLines true [programName ++ (match stop.behind? with
        | some name => "-" ++ name.text
        | none => "") ++ " " ++ programVersion]
  | .misuse misuse =>
      ⟨2, "", Text.unlines [
        palette.paint (.boldColored .red) "error:" ++ " " ++ misuse.message, "",
        "For more information, try '--help'."]⟩

def runArguments (corpus : Corpus) (palette : Palette) (arguments : List String) : m Outcome := do
  match Invocation.read arguments with
  | .error stop => return stop.outcome palette
  | .ok invocation =>
      match ← (invocation.command.run (m := m) corpus palette invocation.settingsFile?).run with
      | .ok outcome => return outcome
      | .error failure =>
          return ⟨1, "", Text.unlines [
            palette.paint (.colored .red) "error" ++ ": " ++ failure.message]⟩

end LintCorpus
