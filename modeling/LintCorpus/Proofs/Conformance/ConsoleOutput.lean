import LintCorpus.Proofs.Conformance.Apart
import LintCorpus.Proofs.Console.Grammar

/-!
The check of a fixture against console output, end to end.  With tolerance zero and without strict
mode it is passed exactly when every required finding is reported by some line of the output.  Which
other lines stand there, and in what order, makes no difference.
-/

namespace LintCorpus

/-- A character between the components of a path. -/
def IsSeparator (c : Char) : Prop :=
  c = '/' ∨ c = '\\'

/-- The name is what stands behind the last separator of the path, or all of a path without one. -/
structure IsFileName (path name : String) : Prop where
  no_separator : ∀ c ∈ name.toList, ¬ IsSeparator c
  behind : path = name ∨ ∃ front c, IsSeparator c ∧ path.toList = front ++ c :: name.toList

theorem fileNameOf_eq_iff {path name : String} :
    fileNameOf path = name ↔ IsFileName path name := by
  rw [fileNameOf, ← String.toList_inj, String.toList_ofList, Text.afterLast_eq_iff,
    String.toList_inj]
  simp only [Bool.or_eq_false_iff, Bool.or_eq_true, decide_eq_true_eq, decide_eq_false_iff_not,
    ← not_or]
  constructor
  · rintro ⟨hname, hbehind⟩
    exact ⟨hname, hbehind⟩
  · rintro ⟨hname, hbehind⟩
    exact ⟨hname, hbehind⟩

/-- The line is a report of the finding: it reads as a diagnostic of the file, on the finding's
line, with a check that the finding's rule covers. -/
def Finding.ReportedBy (finding : Finding) (fileName : String) (line : List Char) : Prop :=
  ∃ diagnostic, Console.Reads line diagnostic ∧ IsFileName diagnostic.file fileName ∧
    diagnostic.line = finding.line ∧
      ∃ check ∈ diagnostic.checks, finding.coversCheck check = true

namespace Fixture

theorem mem_relevant_iff {fixture : Fixture} {diagnostics : List Diagnostic}
    {diagnostic : Diagnostic} :
    diagnostic ∈ fixture.relevant diagnostics ↔
      diagnostic ∈ diagnostics ∧ IsFileName diagnostic.file fixture.fileName := by
  rw [relevant, List.mem_filter, decide_eq_true_eq, Diagnostic.fileName, fileNameOf_eq_iff]

/-- Some diagnostic of the output satisfies the finding on its own line if a line reports it. -/
theorem exists_satisfiedBy_read_iff {fixture : Fixture} {output : String} {finding : Finding} :
    (∃ diagnostic ∈ fixture.relevant (Console.read output),
        finding.satisfiedBy 0 diagnostic = true) ↔
      ∃ line ∈ Text.lines output.toList, finding.ReportedBy fixture.fileName line := by
  have hline : ∀ line : Nat, lineDistance finding.line line ≤ 0 ↔ line = finding.line := by
    intro line
    rw [lineDistance_le_iff]
    omega
  simp only [mem_relevant_iff, Console.mem_read_iff, Finding.satisfiedBy_iff, hline]
  constructor
  · rintro ⟨diagnostic, ⟨⟨line, hmem, hreads⟩, hfile⟩, hplace, hcheck⟩
    exact ⟨line, hmem, diagnostic, hreads, hfile, hplace, hcheck⟩
  · rintro ⟨line, hmem, diagnostic, hreads, hfile, hplace, hcheck⟩
    exact ⟨diagnostic, ⟨⟨line, hmem, hreads⟩, hfile⟩, hplace, hcheck⟩

/-- The check is passed exactly when the output has a report of every required finding. -/
theorem check_read_ok_iff (fixture : Fixture) (output : String) (ignoreChecks : List String) :
    (fixture.check (Console.read output) ⟨0, ignoreChecks, false⟩).ok = true ↔
      ∀ finding ∈ fixture.findings, finding.isRequired = true →
        ∃ line ∈ Text.lines output.toList, finding.ReportedBy fixture.fileName line := by
  have hapart : Apart 0 fixture.findings := apart_zero fixture.findings
  rw [check_ok_iff_of_lenient rfl, missing_eq_nil_iff_of_apart hapart]
  simp only [exists_satisfiedBy_read_iff]

end Fixture

end LintCorpus
