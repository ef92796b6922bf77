import LintCorpus.Compilation
import LintCorpus.Conformance
import LintCorpus.Text.CharClass

/-!
Settings: what a settings file says about the compilation and about checks.  Values of the command
line come before those of the file, patterns of ignored checks are taken from both, and what neither
says has a default.
-/

namespace LintCorpus

/-- The keys of a settings file, in the order of the fields. -/
inductive SettingsKey where
  | compiler
  | standard
  | extraArgs
  | lineTolerance
  | ignoreChecks
  | strict
deriving DecidableEq, Repr

namespace SettingsKey

def all : List SettingsKey :=
  [compiler, standard, extraArgs, lineTolerance, ignoreChecks, strict]

def name : SettingsKey → String
  | compiler => "compiler"
  | standard => "std"
  | extraArgs => "extra_args"
  | lineTolerance => "line_tolerance"
  | ignoreChecks => "ignore_checks"
  | strict => "strict"

/-- The key that is written so. -/
def ofName? (s : String) : Option SettingsKey :=
  all.find? (·.name = s)

end SettingsKey

/-- The values of a settings file, each of which may be left out. -/
structure Settings where
  compiler : Option String
  standard : Option String
  extraArgs : Option (List String)
  lineTolerance : Option Nat
  ignoreChecks : Option (List String)
  strict : Option Bool
deriving DecidableEq, Repr

/-- Why well-formed settings are refused. -/
inductive SettingsFault where
  | blankCompiler
  /-- The standard is blank, or written as an argument. -/
  | malformedStandard (standard : String)
deriving DecidableEq, Repr

def SettingsFault.message : SettingsFault → String
  | blankCompiler => "compiler must not be empty"
  | malformedStandard standard =>
      "std must be a bare standard name such as \"c++17\", got \"" ++ standard ++ "\""

namespace Settings

/-- Settings that say nothing. -/
def empty : Settings := ⟨none, none, none, none, none, none⟩

/-- The text holds nothing but blanks. -/
def isBlankText (s : String) : Bool :=
  Text.allBlank s.toList

/-- The standard is blank or begins with the option's name. -/
def isMalformedStandard (standard : String) : Bool :=
  isBlankText standard || "-std=".toList.isPrefixOf standard.toList

/-- The first fault of the values. -/
def fault? (settings : Settings) : Option SettingsFault :=
  if settings.compiler.any isBlankText then some .blankCompiler
  else (settings.standard.filter isMalformedStandard).map .malformedStandard

/-- The compilation, where the given values come first. -/
def compilation (settings : Settings) (compiler? standard? : Option String) : Compilation where
  compiler := (compiler?.or settings.compiler).getD Compilation.default.compiler
  standard := (standard?.or settings.standard).getD Compilation.default.standard
  extraArgs := settings.extraArgs.getD Compilation.default.extraArgs

/-- The options of a check, where the given tolerance comes first, the given patterns are added, and
the check is strict when either side asks for it. -/
def checkOptions (settings : Settings) (tolerance? : Option Nat) (ignoreChecks : List String)
    (strict : Bool) : CheckOptions where
  lineTolerance := (tolerance?.or settings.lineTolerance).getD 0
  ignoreChecks := settings.ignoreChecks.getD [] ++ ignoreChecks
  strict := strict || settings.strict.getD false

end Settings

end LintCorpus
