import LintCorpus.Fixture.Basic
import LintCorpus.Text.CharClass
import LintCorpus.Text.Basic

/-!
Defect comments: the line comments of a source that name a defect, each with the lines it describes.
A comment behind code describes its own line and one line on either side.  A comment on a line of
its own describes the paragraph above it when a closing brace follows, the whole item when one
follows at the left margin, and the paragraph below it otherwise.
-/

namespace LintCorpus

/-- The fragments, in lower case, that mark a comment as naming a defect. -/
def defectMarkers : List String :=
  ["should", "warning", "violates", "undefined behavior", "what does", "bad", "unused", "leak",
   "missing", "could use", "inefficient", "unnecessary", "instead of", "c-style", "manual memory",
   "potential", "complex expression", "no reserve"]

/-- The comment text holds one of the markers, in letters of either case. -/
def namesDefect (comment : List Char) : Bool :=
  let lowered := Text.lowercase comment
  defectMarkers.any fun marker => Text.occursIn marker.toList lowered

/-- Consecutive lines, by the number of the first and of the last one. -/
structure Scope where
  first : Nat
  last : Nat
deriving DecidableEq, Repr

def Scope.holds (scope : Scope) (line : Nat) : Bool :=
  scope.first ≤ line && line ≤ scope.last

structure DefectComment where
  line : Nat
  /-- The text behind the slashes, without the blanks at either end. -/
  text : List Char
  /-- The lines that the comment describes. -/
  scope : Scope
deriving DecidableEq, Repr

def DefectComment.describes (comment : DefectComment) (line : Nat) : Bool :=
  comment.scope.holds line

namespace Scope

/-- The scope of a comment behind code. -/
def beside (line : Nat) : Scope :=
  ⟨line - 1, line + 1⟩

/-- The first line of the paragraph that ends nearest above, where `above` holds the lines over the
comment, the nearest first. -/
def paragraphStart (above : List (List Char)) : Nat :=
  ((above.dropWhile Text.allBlank).dropWhile fun l => !Text.allBlank l).length + 1

/-- The line opens an item at the left margin: it starts with code and not with a comment. -/
def opensItem (line : List Char) : Bool :=
  match line with
  | [] => false
  | c :: _ => !Text.isBlank c && !(['/', '/'].isPrefixOf line)

/-- The scope of a comment alone on its line, between the lines `above` it, the nearest first, and
the lines `below` it. -/
def ofStandalone (above below : List (List Char)) : Scope :=
  let line := above.length + 1
  match below with
  | [] => ⟨line - 1, line⟩
  | next :: _ =>
      if ['}'].isPrefixOf (Text.trimStart next) then
        ⟨paragraphStart above, line⟩
      else if opensItem next then
        match below.findIdx? (List.isPrefixOf ['}']) with
        | some index => ⟨line - 1, line + index + 1⟩
        | none => ⟨line - 1, line + below.length⟩
      else
        ⟨line - 1, line + (below.takeWhile fun l => !Text.allBlank l).length⟩

end Scope

namespace DefectComment

/-- The defect comment on the line `text`, between the lines `above` it, the nearest first, and the
lines `below` it. -/
def onLine? (above : List (List Char)) (text : List Char) (below : List (List Char)) :
    Option DefectComment :=
  match Text.cutAt ['/', '/'] text with
  | none => none
  | some (code, comment) =>
      let comment := Text.trim comment
      let line := above.length + 1
      if namesDefect comment then
        let scope :=
          if Text.allBlank code then Scope.ofStandalone above below else Scope.beside line
        some ⟨line, comment, scope⟩
      else none

/-- The defect comments on the lines `below`, where `above` holds the lines before them, the nearest
first. -/
def collect (above : List (List Char)) : List (List Char) → List DefectComment
  | [] => []
  | text :: below => (onLine? above text below).toList ++ collect (text :: above) below

end DefectComment

namespace Fixture

/-- The defect comments of the source, in the order of their lines. -/
def defectComments (fixture : Fixture) : List DefectComment :=
  DefectComment.collect [] fixture.lines

/-- A finding of the fixture lies on the lines that the comment describes. -/
def recordsComment (fixture : Fixture) (comment : DefectComment) : Bool :=
  fixture.findings.any fun finding => comment.describes finding.line

/-- A waiver of the fixture names the comment's line. -/
def waivesComment (fixture : Fixture) (comment : DefectComment) : Bool :=
  fixture.waivers.any fun waiver => waiver.line = comment.line

/-- The defect comments that neither a finding nor a waiver accounts for. -/
def unrecordedComments (fixture : Fixture) : List DefectComment :=
  fixture.defectComments.filter fun comment =>
    !fixture.recordsComment comment && !fixture.waivesComment comment

end Fixture

end LintCorpus
