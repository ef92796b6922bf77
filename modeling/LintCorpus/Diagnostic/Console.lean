import LintCorpus.Diagnostic.Basic
import LintCorpus.Text.CharClass
import LintCorpus.Text.Basic
import LintCorpus.Text.Numeral

/-!
Console output: one diagnostic a line, written `file:line:column: level: message [check,check]`.

A line is read with the shortest file part that leaves a place and a level behind it.  What follows
the level is the message, and a bracketed list at its end names the checks.  Lines that have no such
form, or a place that is not a word of 32 bits, hold no diagnostic.
-/

namespace LintCorpus.Console

/-- The levels, and the severity each of them stands for. -/
def levels : List (String × Severity) :=
  [("fatal error", .error), ("error", .error), ("warning", .warning), ("note", .note),
   ("remark", .note)]

/-- What stands behind the file part of a line. -/
structure Site where
  line : List Char
  column : List Char
  severity : Severity
  /-- All that follows the level. -/
  body : List Char
deriving DecidableEq, Repr

/-- The leading decimal digits, if there are any, and what follows them. -/
def digits? (cs : List Char) : Option (List Char × List Char) :=
  let front := cs.takeWhile Text.isDecimalDigit
  if front.isEmpty then none else some (front, cs.dropWhile Text.isDecimalDigit)

/-- The severity of the leading level, and what follows the level. -/
def level? (cs : List Char) : Option (Severity × List Char) :=
  levels.findSome? fun entry =>
    ((entry.1.toList ++ [':', ' ']).isPrefixOf? cs).map fun rest => (entry.2, rest)

/-- Reads `:line:column: level: body`. -/
def site? (cs : List Char) : Option Site := do
  let cs ← [':'].isPrefixOf? cs
  let (line, cs) ← digits? cs
  let cs ← [':'].isPrefixOf? cs
  let (column, cs) ← digits? cs
  let cs ← [':', ' '].isPrefixOf? cs
  let (severity, body) ← level? cs
  return ⟨line, column, severity, body⟩

/-- The shortest non-empty file part with a site behind it, and that site. -/
def split? : List Char → Option (List Char × Site)
  | [] => none
  | c :: cs =>
      match site? cs with
      | some site => some ([c], site)
      | none => (split? cs).map fun p => (c :: p.1, p.2)

/-- A character that may stand in a bracketed list of checks. -/
def isListChar (c : Char) : Bool :=
  c.isAlphanum || c = '_' || c = '.' || c = ',' || c = '-'

/-- A text that ends with a blank and a bracketed list, as the text before and the list. -/
def bracketed? (cs : List Char) : Option (List Char × List Char) :=
  match cs.reverse with
  | ']' :: back =>
      let list := back.takeWhile isListChar
      match back.dropWhile isListChar with
      | '[' :: ' ' :: front => if list.isEmpty then none else some (front.reverse, list.reverse)
      | _ => none
  | _ => none

/-- The non-empty parts of a list between its commas. -/
def checksOf (list : List Char) : List String :=
  ((list.splitOn ',').filter (· ≠ [])).map String.ofList

/-- The message of a body, and the checks that the list at its end names. -/
def messageAndChecks (body : List Char) : List Char × List String :=
  let body := Text.trimEnd body
  match bracketed? body with
  | some (message, list) => (message, checksOf list)
  | none => (body, [])

/-- The diagnostic on a line. -/
def diagnostic? (cs : List Char) : Option Diagnostic := do
  let (file, site) ← split? cs
  let line ← Text.boundedNumeral? 10 Text.maxPosition site.line
  let column ← Text.boundedNumeral? 10 Text.maxPosition site.column
  let (message, checks) := messageAndChecks site.body
  return {
    file := String.ofList file
    line := line
    column := column
    severity := site.severity
    message := String.ofList message
    checks := checks }

/-- The diagnostics in console output, line by line. -/
def read (output : String) : List Diagnostic :=
  (Text.lines output.toList).filterMap diagnostic?

end LintCorpus.Console
