import LintCorpus.CommandLine.Argument
import LintCorpus.Diagnostic.Basic

/-!
Commands: what the arguments of the command line ask for.  The options for the settings file and for
more messages may stand before the command as well as behind it, and what stands behind it counts.
-/

namespace LintCorpus

inductive CommandName where
  | listFixtures
  | showFixture
  | verifyCorpus
  | exportCorpus
  | checkFixture
deriving DecidableEq, Repr

namespace CommandName

def all : List CommandName :=
  [listFixtures, showFixture, verifyCorpus, exportCorpus, checkFixture]

def text : CommandName → String
  | listFixtures => "list"
  | showFixture => "show"
  | verifyCorpus => "verify"
  | exportCorpus => "export"
  | checkFixture => "check"

/-- The command that is written so. -/
def ofText? (s : String) : Option CommandName :=
  all.find? (·.text = s)

def summary : CommandName → String
  | listFixtures => "List the fixtures in the corpus"
  | showFixture => "Show a fixture's expected findings"
  | verifyCorpus => "Validate the fixtures and print the corpus digest"
  | exportCorpus => "Write the fixtures, a manifest and a compilation database to a directory"
  | checkFixture => "Compare diagnostics for a fixture with its expected findings"

def options : CommandName → List OptionName
  | listFixtures => [.category, .json]
  | showFixture => [.source, .json]
  | verifyCorpus => [.json]
  | exportCorpus => [.outDir, .compiler, .standard]
  | checkFixture => [.diagnostics, .format, .lineTolerance, .ignoreCheck, .strict, .json]

/-- The command is about one fixture, which it names. -/
def takesName : CommandName → Bool
  | showFixture | checkFixture => true
  | _ => false

end CommandName

/-- The options that may stand anywhere. -/
def commonOptions : List OptionName :=
  [.settings, .verbose, .help, .version]

namespace Level

/-- The arguments before the command. -/
def outer : Level := ⟨commonOptions, 0, true⟩

/-- The arguments behind a command. -/
def ofCommand (name : CommandName) : Level :=
  ⟨name.options ++ commonOptions, if name.takesName then 1 else 0, false⟩

end Level

inductive Command where
  | listFixtures (category? : Option String) (json : Bool)
  | showFixture (name : String) (withSource json : Bool)
  | verifyCorpus (json : Bool)
  | exportCorpus (dir : String) (compiler? standard? : Option String)
  | checkFixture (name path : String) (format? : Option DiagnosticFormat)
      (tolerance? : Option Nat) (ignoreChecks : List String) (strict json : Bool)
deriving DecidableEq, Repr

namespace Given

def fixtureName (given : Given) : Except Halt String :=
  match given.texts with
  | name :: _ => .ok name
  | [] => .error (.misuse .missingName)

def command (given : Given) : CommandName → Except Halt Command
  | .listFixtures => .ok (.listFixtures (given.value? .category) (given.has .json))
  | .showFixture => do
      return .showFixture (← given.fixtureName) (given.has .source) (given.has .json)
  | .verifyCorpus => .ok (.verifyCorpus (given.has .json))
  | .exportCorpus => do
      return .exportCorpus (← given.require .outDir) (given.value? .compiler)
        (given.value? .standard)
  | .checkFixture => do
      return .checkFixture (← given.fixtureName) (← given.require .diagnostics)
        ((given.value? .format).bind DiagnosticFormat.ofName?)
        ((given.value? .lineTolerance).bind lineTolerance?)
        (given.values .ignoreCheck) (given.has .strict) (given.has .json)

end Given

/-- A command, and the settings file when one is named. -/
structure Invocation where
  settingsFile? : Option String
  command : Command
deriving DecidableEq, Repr

/-- Why the arguments ask for no command, and the command behind which they stopped. -/
structure Stop where
  behind? : Option CommandName
  halt : Halt
deriving DecidableEq, Repr

namespace Invocation

/-- The arguments behind the word `help`: nothing, or one command. -/
def readHelp (rest : List String) : Stop :=
  match rest with
  | [] => ⟨none, .help⟩
  | [topic] =>
      match CommandName.ofText? topic with
      | some name => ⟨some name, .help⟩
      | none => ⟨none, if topic = "help" then .help else .misuse (.unknownCommand topic)⟩
  | _ :: topic :: _ => ⟨none, .misuse (.unknownCommand topic)⟩

/-- The arguments behind a command.  They are read before what is unchecked before the command is
checked. -/
def readBehind (outer : Given) (name : CommandName) (rest : List String) :
    Except Halt Invocation := do
  let (given, _) ← (Level.ofCommand name).read .nothing none rest
  let command ← given.command name
  let outer ← outer.settle
  return ⟨(given.value? .settings).or (outer.value? .settings), command⟩

def read (arguments : List String) : Except Stop Invocation :=
  match Level.outer.read .nothing none arguments with
  | .error halt => .error ⟨none, halt⟩
  | .ok (_, []) => .error ⟨none, .misuse .missingCommand⟩
  | .ok (outer, word :: rest) =>
      match CommandName.ofText? word with
      | some name => (readBehind outer name rest).mapError fun halt => ⟨some name, halt⟩
      | none =>
          if word = "help" then .error (readHelp rest)
          else .error ⟨none, .misuse (.unknownCommand word)⟩

end Invocation

end LintCorpus
