import LintCorpus.Export
import LintCorpus.Json.Tree

/-!
Reading the two documents of an export.  A record is an object that has each of its fields once and
may have more, or a list of all the fields' values in order.
-/

namespace LintCorpus

namespace Json.Tree

def text? : Tree → Option String
  | .str s => some s
  | _ => none

/-- A natural number up to a bound. -/
def natural? (bound : Nat) : Tree → Option Nat
  | .number (.nat n) => if n ≤ bound then some n else none
  | _ => none

/-- A list, each item read by `read`. -/
def items? {α : Type} (read : Tree → Option α) : Tree → Option (List α)
  | .list items => items.mapM read
  | _ => none

/-- The value of the key, which has to occur once. -/
def member? (members : List (String × Tree)) (key : String) : Option Tree :=
  match members.filter (·.1 = key) with
  | [member] => some member.2
  | _ => none

/-- The values of a record's fields. -/
def fields? (keys : List String) : Tree → Option (List Tree)
  | .object members => keys.mapM (member? members)
  | .list items => if items.length = keys.length then some items else none
  | _ => none

/-- The value that the bytes of a file hold. -/
def ofBytes? (bytes : List UInt8) : Option Tree :=
  match Files.decodeText bytes with
  | .ok text => ofText? text
  | .error _ => none

end Json.Tree

open Json (Tree)

/-- The category with exactly this name. -/
def Category.ofTree? (tree : Tree) : Option Category := do
  let name ← tree.text?
  Category.all.find? (·.name = name)

def Expectation.ofTree? (tree : Tree) : Option Expectation := do
  Expectation.ofName? (← tree.text?)

def Finding.ofTree? (tree : Tree) : Option Finding :=
  match tree.fields? ["rule", "category", "line", "anchor", "description", "expectation"] with
  | some [rule, category, line, anchor, description, expectation] =>
      return {
        rule := ← rule.text?
        category := ← Category.ofTree? category
        line := ← line.natural? Text.maxPosition
        anchor := ← anchor.text?
        description := ← description.text?
        expectation := ← Expectation.ofTree? expectation }
  | _ => none

def ManifestEntry.ofTree? (tree : Tree) : Option ManifestEntry :=
  match tree.fields? ["name", "file", "hash", "summary", "categories", "findings"] with
  | some [name, file, hash, summary, categories, findings] =>
      return {
        name := ← name.text?
        file := ← file.text?
        hash := ← hash.text?
        summary := ← summary.text?
        categories := ← categories.items? Category.ofTree?
        findings := ← findings.items? Finding.ofTree? }
  | _ => none

def Manifest.ofTree? (tree : Tree) : Option Manifest :=
  match tree.fields? ["digest", "fixtures"] with
  | some [digest, fixtures] =>
      return {
        digest := ← digest.text?
        fixtures := ← fixtures.items? ManifestEntry.ofTree? }
  | _ => none

def CompileCommand.ofTree? (tree : Tree) : Option CompileCommand :=
  match tree.fields? ["directory", "file", "arguments"] with
  | some [directory, file, arguments] =>
      return {
        directory := ← directory.text?
        file := ← file.text?
        arguments := ← arguments.items? Tree.text? }
  | _ => none

/-- The manifest that a file holds. -/
def Manifest.ofBytes? (bytes : List UInt8) : Option Manifest := do
  Manifest.ofTree? (← Tree.ofBytes? bytes)

/-- The compilation database that a file holds. -/
def CompileCommand.listOfBytes? (bytes : List UInt8) : Option (List CompileCommand) := do
  (← Tree.ofBytes? bytes).items? CompileCommand.ofTree?

end LintCorpus
