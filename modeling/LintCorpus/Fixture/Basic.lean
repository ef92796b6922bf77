import LintCorpus.Finding
import LintCorpus.Text.Basic

/-!
Fixtures: sample sources with known defects, the findings expected on them, and the defect comments
that deliberately have none.
-/

namespace LintCorpus

/-- A defect comment that deliberately has no finding. -/
structure Waiver where
  line : Nat
  /-- Why no finding is expected there. -/
  reason : String
deriving DecidableEq, Repr

/-- A sample source with known, intended defects. -/
structure Fixture where
  name : String
  /-- The name of its file; in a valid corpus the fixture's name with `.cpp` behind it. -/
  fileName : String
  summary : String
  /-- The categories that the fixture is meant to trigger. -/
  categories : List Category
  /-- The expected findings; in a valid corpus ordered by line. -/
  findings : List Finding
  waivers : List Waiver
  source : String
deriving DecidableEq, Repr

namespace Fixture

/-- The lines of the source, without their terminators. -/
def lines (fixture : Fixture) : List (List Char) :=
  Text.lines fixture.source.toList

/-- How many lines the source has. -/
def lineCount (fixture : Fixture) : Nat :=
  fixture.lines.length

/-- The line with this number, counted from one. -/
def line? (fixture : Fixture) : Nat → Option (List Char)
  | 0 => none
  | index + 1 => fixture.lines[index]?

section Line

variable {fixture : Fixture} {line : Nat}

theorem line?_eq_some_iff {text : List Char} :
    fixture.line? line = some text ↔
      ∃ index, line = index + 1 ∧ fixture.lines[index]? = some text := by
  cases line with
  | zero => simp [line?]
  | succ index => simp [line?]

theorem line?_eq_none_iff :
    fixture.line? line = none ↔ line = 0 ∨ fixture.lineCount < line := by
  cases line with
  | zero => simp [line?]
  | succ index =>
      rw [line?, List.getElem?_eq_none_iff, lineCount]
      omega

theorem bounds_of_line? {text : List Char} (htext : fixture.line? line = some text) :
    0 < line ∧ line ≤ fixture.lineCount := by
  have hnone : ¬ fixture.line? line = none := by simp [htext]
  rw [line?_eq_none_iff] at hnone
  omega

/-- The lines of a part of the source. -/
theorem exists_line? {before part after : List (List Char)}
    (hlines : fixture.lines = before ++ (part ++ after)) (hfirst : before.length < line)
    (hlast : line ≤ before.length + part.length) :
    ∃ text ∈ part, fixture.line? line = some text := by
  obtain ⟨i, rfl⟩ := Nat.exists_eq_add_of_lt hfirst
  have hi : i < part.length := by omega
  refine ⟨part[i], List.getElem_mem hi, ?_⟩
  rw [line?, hlines, List.getElem?_append_right (Nat.le_add_right _ _), Nat.add_sub_cancel_left,
    List.getElem?_append_left hi, List.getElem?_eq_getElem hi]

theorem line?_below {before below : List (List Char)} (hlines : fixture.lines = before ++ below)
    (i : Nat) : fixture.line? (before.length + 1 + i) = below[i]? := by
  rw [Nat.add_right_comm, line?, hlines, List.getElem?_append_right (Nat.le_add_right _ _),
    Nat.add_sub_cancel_left]

end Line

def declares (fixture : Fixture) (category : Category) : Bool :=
  fixture.categories.contains category

def findingsIn (fixture : Fixture) (category : Category) : List Finding :=
  fixture.findings.filter (·.category = category)

def requiredFindings (fixture : Fixture) : List Finding :=
  fixture.findings.filter (·.isRequired)

end Fixture

end LintCorpus
