import LintCorpus.Text.Numeral
import LintCorpus.Text.Basic

/-!
Arguments of the command line: options with a long name and perhaps a letter, their values, and the
texts that are no options.  Arguments are read in order, so that a call for help counts only when
all is well before it.  A value that is an argument of its own is checked no sooner than the next
option or text of its level is read.
-/

namespace LintCorpus

inductive OptionName where
  | settings
  | verbose
  | help
  | version
  | category
  | json
  | source
  | outDir
  | compiler
  | standard
  | diagnostics
  | format
  | lineTolerance
  | ignoreCheck
  | strict
deriving DecidableEq, Repr

namespace OptionName

/-- The name of an option behind two hyphens. -/
def long : OptionName → String
  | settings => "config"
  | verbose => "verbose"
  | help => "help"
  | version => "version"
  | category => "category"
  | json => "json"
  | source => "source"
  | outDir => "out-dir"
  | compiler => "compiler"
  | standard => "std"
  | diagnostics => "diagnostics"
  | format => "format"
  | lineTolerance => "line-tolerance"
  | ignoreCheck => "ignore-check"
  | strict => "strict"

/-- The letter of an option behind one hyphen. -/
def letter? : OptionName → Option Char
  | verbose => some 'v'
  | help => some 'h'
  | version => some 'V'
  | outDir => some 'o'
  | diagnostics => some 'd'
  | _ => none

def takesValue : OptionName → Bool
  | settings | category | outDir | compiler | standard | diagnostics | format | lineTolerance
  | ignoreCheck => true
  | _ => false

/-- The option may be given more than once. -/
def isRepeatable (option : OptionName) : Bool :=
  option = ignoreCheck

end OptionName

/-- The number of lines that a text tells: digits, perhaps with a sign, up to the largest
position. -/
def lineTolerance? (text : String) : Option Nat :=
  match text.toList with
  | '+' :: digits => Text.boundedNumeral? 10 Text.maxPosition digits
  | '-' :: digits => Text.boundedNumeral? 10 0 digits
  | digits => Text.boundedNumeral? 10 Text.maxPosition digits

def OptionName.accepts (option : OptionName) (value : String) : Bool :=
  match option with
  | settings => value ≠ ""
  | format => value = "text" ∨ value = "yaml"
  | lineTolerance => (lineTolerance? value).isSome
  | _ => true

/-- Why arguments are refused. -/
inductive Misuse where
  | unknownOption (argument : String)
  | unwantedValue (option : OptionName)
  | missingValue (option : OptionName)
  | invalidValue (option : OptionName) (value : String)
  /-- An option that may be given once is given again. -/
  | repeated (option : OptionName)
  | unwantedArgument (argument : String)
  | missingOption (option : OptionName)
  | missingName
  | unknownCommand (argument : String)
  | missingCommand
deriving DecidableEq, Repr

def Misuse.message : Misuse → String
  | unknownOption argument => "unknown option '" ++ argument ++ "'"
  | unwantedValue option => "option '--" ++ option.long ++ "' takes no value"
  | missingValue option => "option '--" ++ option.long ++ "' needs a value"
  | invalidValue option value =>
      "invalid value '" ++ value ++ "' for option '--" ++ option.long ++ "'"
  | repeated option => "option '--" ++ option.long ++ "' is given more than once"
  | unwantedArgument argument => "unexpected argument '" ++ argument ++ "'"
  | missingOption option => "option '--" ++ option.long ++ "' is required"
  | missingName => "the name of a fixture is required"
  | unknownCommand argument => "unknown command '" ++ argument ++ "'"
  | missingCommand => "a command is required"

/-- What ends the reading of arguments early. -/
inductive Halt where
  | help
  | version
  | misuse (misuse : Misuse)
deriving DecidableEq, Repr

inductive ArgumentForm where
  /-- Two hyphens: all that follows are plain texts. -/
  | separator
  /-- Two hyphens and a name, perhaps with a value behind an equals sign. -/
  | long (name : String) (value? : Option String)
  | letters (cluster : List Char)
  /-- Anything else, a lone hyphen included. -/
  | plain
deriving DecidableEq, Repr

def ArgumentForm.of (argument : String) : ArgumentForm :=
  match argument.toList with
  | ['-', '-'] => separator
  | '-' :: '-' :: text =>
      match Text.cutAt ['='] text with
      | some (name, value) => long (String.ofList name) (some (String.ofList value))
      | none => long (String.ofList text) none
  | '-' :: c :: cs => letters (c :: cs)
  | _ => plain

/-- The options and the plain texts that were read, in order. -/
structure Given where
  options : List (OptionName × String)
  texts : List String
  /-- The last option, when its value is not checked yet. -/
  unchecked : Option (OptionName × String)
deriving DecidableEq, Repr

namespace Given

def nothing : Given := ⟨[], [], none⟩

def value? (given : Given) (option : OptionName) : Option String :=
  (given.options.find? (·.1 = option)).map (·.2)

def values (given : Given) (option : OptionName) : List String :=
  (given.options.filter (·.1 = option)).map (·.2)

def has (given : Given) (option : OptionName) : Bool :=
  (given.value? option).isSome

def require (given : Given) (option : OptionName) : Except Halt String :=
  match given.value? option with
  | some value => .ok value
  | none => .error (.misuse (.missingOption option))

def takeOption (given : Given) (option : OptionName) (value : String) : Except Halt Given :=
  if given.has option && !option.isRepeatable then .error (.misuse (.repeated option))
  else if !option.accepts value then .error (.misuse (.invalidValue option value))
  else .ok { given with options := given.options ++ [(option, value)] }

/-- Checks what is not checked yet. -/
def settle (given : Given) : Except Halt Given :=
  match given.unchecked with
  | some (option, value) => { given with unchecked := none }.takeOption option value
  | none => .ok given

/-- Takes an option with its value, which is empty for an option that takes none. -/
def addOption (given : Given) (option : OptionName) (value : String) : Except Halt Given := do
  let given ← given.settle
  match option with
  | .help => .error .help
  | .version => .error .version
  | option => given.takeOption option value

/-- Takes a plain text, while there is room for it. -/
def addText (given : Given) (room : Nat) (text : String) : Except Halt Given := do
  let given ← given.settle
  if given.texts.length < room then return { given with texts := given.texts ++ [text] }
  else .error (.misuse (.unwantedArgument text))

/-- Takes the letters of one argument.  The first option with a value takes the rest of the letters
for it, behind an equals sign if there is one; when nothing is left, its value is still to come. -/
def addLetters (known : List OptionName) (given : Given) :
    List Char → Except Halt (Given × Option OptionName)
  | [] => .ok (given, none)
  | c :: cs =>
      match known.find? (·.letter? = some c) with
      | none => .error (.misuse (.unknownOption (String.ofList ['-', c])))
      | some option =>
          if option.takesValue then
            match cs with
            | [] => given.settle.map (·, some option)
            | '=' :: value => (given.addOption option (String.ofList value)).map (·, none)
            | value => (given.addOption option (String.ofList value)).map (·, none)
          else do addLetters known (← given.addOption option "") cs

/-- Takes a name behind two hyphens, with a value if one is attached.  An option whose value is
still to come is told. -/
def addLong (known : List OptionName) (given : Given) (name : String) (value? : Option String) :
    Except Halt (Given × Option OptionName) :=
  match known.find? (·.long = name) with
  | none => .error (.misuse (.unknownOption ("--" ++ name)))
  | some option =>
      match option.takesValue, value? with
      | true, none => given.settle.map (·, some option)
      | true, some value => (given.addOption option value).map (·, none)
      | false, none => (given.addOption option "").map (·, none)
      | false, some _ => .error (.misuse (.unwantedValue option))

/-- Takes the value of an option from the argument behind it. -/
def addValue (given : Given) (option : OptionName) (argument : String) : Except Halt Given :=
  if ArgumentForm.of argument = .plain then .ok { given with unchecked := some (option, argument) }
  else .error (.misuse (.missingValue option))

end Given

/-- What may be given at a level of the command line. -/
structure Level where
  options : List OptionName
  room : Nat
  endsAtText : Bool
deriving DecidableEq, Repr

namespace Level

/-- Reads the arguments of a level: what was given, and the arguments from the text on that ends
it.  What is given before such a text may be unchecked.  `due` is the option whose value comes
next. -/
def read (level : Level) (given : Given) (due : Option OptionName) :
    List String → Except Halt (Given × List String)
  | [] =>
      match due with
      | none => given.settle.map (·, [])
      | some option => .error (.misuse (.missingValue option))
  | argument :: rest =>
      match due with
      | some option => do level.read (← given.addValue option argument) none rest
      | none =>
          match ArgumentForm.of argument with
          | .separator => return (← (← rest.foldlM (·.addText level.room) given).settle, [])
          | .long name value? => do
              let (given, due) ← given.addLong level.options name value?
              level.read given due rest
          | .letters cluster => do
              let (given, due) ← given.addLetters level.options cluster
              level.read given due rest
          | .plain =>
              if level.endsAtText then .ok (given, argument :: rest)
              else do level.read (← given.addText level.room argument) none rest

end Level

end LintCorpus
