import Mathlib.Data.List.Basic
import LintCorpus.Proofs.Conformance.Apart

/-!
The matching without claims.  When findings on different lines are more than twice the tolerance
apart, the report is what each finding gives by itself: the first of the closest diagnostics that
satisfy it (`Finding.closest?`), or none.  Which findings are missing then depends only on which
diagnostics there are, not on their order or number (`Fixture.check_of_apart`).
-/

namespace LintCorpus

namespace Finding

/-- The first of the diagnostics that satisfy the finding to which no other one of them is
closer. -/
def closest? (finding : Finding) (tolerance : Nat) (diagnostics : List Diagnostic) :
    Option Diagnostic :=
  let fitting := diagnostics.filter (finding.satisfiedBy tolerance)
  fitting.find? fun diagnostic => fitting.all fun other =>
    lineDistance finding.line diagnostic.line ≤ lineDistance finding.line other.line

variable {finding : Finding} {tolerance : Nat} {diagnostics : List Diagnostic}

theorem closest?_of_unsatisfied
    (hnone : ∀ diagnostic ∈ diagnostics, finding.satisfiedBy tolerance diagnostic = false) :
    finding.closest? tolerance diagnostics = none := by
  have hfitting : diagnostics.filter (finding.satisfiedBy tolerance) = [] := by
    rw [List.filter_eq_nil_iff]
    intro diagnostic hdiagnostic
    simp [hnone diagnostic hdiagnostic]
  simp [closest?, hfitting]

/-- A free diagnostic that serves the finding is the first of the closest ones. -/
theorem closest?_of_serves {index : Nat} {slot : Slot}
    (hserves : Slot.Serves finding tolerance (diagnostics.map Slot.unclaimed) index slot) :
    finding.closest? tolerance diagnostics = some slot.diagnostic := by
  have hat := hserves.at_index
  rw [List.getElem?_map, Option.map_eq_some_iff] at hat
  obtain ⟨diagnostic, hat, rfl⟩ := hat
  obtain ⟨hindex, hget⟩ := List.getElem?_eq_some_iff.mp hat
  have hfree : ∀ {j : Nat} {other : Diagnostic}, diagnostics[j]? = some other →
      (diagnostics.map Slot.unclaimed)[j]? = some (Slot.unclaimed other) := by
    intro j other hother
    rw [List.getElem?_map, hother, Option.map_some]
  rw [closest?, List.find?_filter, List.find?_eq_some_iff_getElem]
  refine ⟨?_, index, hindex, hget, ?_⟩
  · rw [decide_eq_true_eq, List.all_eq_true]
    refine ⟨hserves.satisfiedBy, ?_⟩
    intro other hother
    obtain ⟨hmem, hsat⟩ := List.mem_filter.mp hother
    obtain ⟨j, hj⟩ := List.mem_iff_getElem?.mp hmem
    rw [decide_eq_true_eq]
    exact hserves.closest j _ (hfree hj) (by rwa [Slot.fits_unclaimed])
  · intro j hj
    have hat' : diagnostics[j]? = some diagnostics[j] := List.getElem?_eq_getElem _
    rw [Bool.not_eq_true', decide_eq_false_iff_not, List.all_eq_true]
    rintro ⟨hsat, hclosest⟩
    -- An earlier one of the closest would have served the finding.
    have hle := hclosest diagnostic
      (List.mem_filter.mpr ⟨List.mem_of_getElem? hat, hserves.satisfiedBy⟩)
    rw [decide_eq_true_eq] at hle
    have hfits : (Slot.unclaimed diagnostics[j]).fits finding tolerance = true := by
      rwa [Slot.fits_unclaimed]
    have hge := hserves.closest j _ (hfree hat') hfits
    have hfirst := hserves.first j _ (hfree hat') hfits (Nat.le_antisymm hle hge)
    exact absurd hj (Nat.not_lt.mpr hfirst)

theorem alone_eq_closest? :
    finding.alone tolerance diagnostics = ⟨finding, finding.closest? tolerance diagnostics⟩ := by
  cases hserve : Slot.serve? finding tolerance (diagnostics.map Slot.unclaimed) with
  | none =>
      have halone : (finding.alone tolerance diagnostics).diagnostic? = none := by
        simp [alone, hserve]
      rw [closest?_of_unsatisfied (alone_diagnostic?_eq_none_iff.mp halone)]
      simp [alone, hserve]
  | some result =>
      obtain ⟨index, slot, hserves, -⟩ := Slot.exists_serves_of_serve? hserve
      rw [alone_eq_of_serves hserves, closest?_of_serves hserves]

/-- Some of the diagnostics satisfies the finding. -/
def satisfiedAmong (finding : Finding) (tolerance : Nat) (diagnostics : List Diagnostic) : Bool :=
  diagnostics.any (finding.satisfiedBy tolerance)

theorem closest?_isSome :
    (finding.closest? tolerance diagnostics).isSome =
      finding.satisfiedAmong tolerance diagnostics := by
  have halone := @alone_diagnostic?_eq_none_iff finding tolerance diagnostics
  rw [alone_eq_closest?] at halone
  rw [Bool.eq_iff_iff, satisfiedAmong, List.any_eq_true, Option.isSome_iff_ne_none, Ne, halone]
  simp

end Finding

namespace Fixture

variable {fixture : Fixture} {diagnostics diagnostics' : List Diagnostic} {options : CheckOptions}

/-- The order and the number of the diagnostics do not matter. -/
theorem satisfiedAmong_relevant_congr
    (hsame : ∀ diagnostic, diagnostic ∈ diagnostics' ↔ diagnostic ∈ diagnostics)
    (tolerance : Nat) (finding : Finding) :
    finding.satisfiedAmong tolerance (fixture.relevant diagnostics') =
      finding.satisfiedAmong tolerance (fixture.relevant diagnostics) := by
  rw [Bool.eq_iff_iff]
  simp only [Finding.satisfiedAmong, relevant, List.any_filter, List.any_eq_true, hsame]

theorem matched_of_apart (hapart : Apart options.lineTolerance fixture.findings) :
    (fixture.check diagnostics options).matched = fixture.findings.filterMap fun finding =>
      (finding.closest? options.lineTolerance (fixture.relevant diagnostics)).map
        (Match.mk finding) := by
  rw [check_matched, verdicts_of_apart hapart, List.filterMap_map]
  congr 1
  funext finding
  rw [Function.comp_apply, Finding.alone_eq_closest?]
  rfl

/-- The findings that are matched are those that some diagnostic satisfies. -/
theorem map_finding_matched_of_apart (hapart : Apart options.lineTolerance fixture.findings) :
    (fixture.check diagnostics options).matched.map Match.finding =
      fixture.findings.filter fun finding =>
        finding.satisfiedAmong options.lineTolerance (fixture.relevant diagnostics) := by
  rw [matched_of_apart hapart, List.map_filterMap, ← List.filterMap_eq_filter]
  congr 1
  funext finding
  rw [Option.map_map, Option.guard, ← Finding.closest?_isSome]
  cases finding.closest? options.lineTolerance (fixture.relevant diagnostics) with
  | none => rfl
  | some diagnostic => rfl

/-- The findings that are missing are those that no diagnostic satisfies. -/
theorem filterMap_missing?_of_apart (hapart : Apart options.lineTolerance fixture.findings)
    (expectation : Expectation) :
    (fixture.verdicts diagnostics options).filterMap (Verdict.missing? expectation) =
      fixture.findings.filter fun finding => finding.expectation = expectation &&
        !finding.satisfiedAmong options.lineTolerance (fixture.relevant diagnostics) := by
  rw [verdicts_of_apart hapart, List.filterMap_map, ← List.filterMap_eq_filter]
  congr 1
  funext finding
  rw [Function.comp_apply, Finding.alone_eq_closest?]
  simp [Verdict.missing?, Option.guard, ← Finding.closest?_isSome, and_comm]

/-- What is missing does not depend on the order and the number of the diagnostics. -/
theorem filterMap_missing?_congr_of_apart (hapart : Apart options.lineTolerance fixture.findings)
    (hsame : ∀ diagnostic, diagnostic ∈ diagnostics' ↔ diagnostic ∈ diagnostics)
    (expectation : Expectation) :
    (fixture.verdicts diagnostics' options).filterMap (Verdict.missing? expectation) =
      (fixture.verdicts diagnostics options).filterMap (Verdict.missing? expectation) := by
  simp only [filterMap_missing?_of_apart hapart, satisfiedAmong_relevant_congr hsame]

/-- Where findings cannot compete, the report is what each of them gives by itself. -/
theorem check_of_apart (fixture : Fixture) :
    Apart 0 fixture.findings ∧
      ∀ options, Apart options.lineTolerance fixture.findings → ∀ diagnostics,
        (fixture.check diagnostics options).matched = (fixture.findings.filterMap fun finding =>
            (finding.closest? options.lineTolerance (fixture.relevant diagnostics)).map
              (Match.mk finding)) ∧
          (fixture.check diagnostics options).matched.map Match.finding =
            (fixture.findings.filter fun finding =>
              finding.satisfiedAmong options.lineTolerance (fixture.relevant diagnostics)) ∧
          (fixture.check diagnostics options).missing = (fixture.findings.filter fun finding =>
            finding.expectation = .required &&
              !finding.satisfiedAmong options.lineTolerance (fixture.relevant diagnostics)) ∧
          (fixture.check diagnostics options).missingAdvisory =
            (fixture.findings.filter fun finding => finding.expectation = .advisory &&
              !finding.satisfiedAmong options.lineTolerance (fixture.relevant diagnostics)) ∧
          ∀ diagnostics', (∀ diagnostic, diagnostic ∈ diagnostics' ↔ diagnostic ∈ diagnostics) →
            (fixture.check diagnostics' options).missing =
                (fixture.check diagnostics options).missing ∧
              (fixture.check diagnostics' options).missingAdvisory =
                (fixture.check diagnostics options).missingAdvisory ∧
              (options.strict = false → (fixture.check diagnostics' options).ok =
                (fixture.check diagnostics options).ok) := by
  refine ⟨apart_zero fixture.findings, ?_⟩
  intro options hapart diagnostics
  refine ⟨matched_of_apart hapart, map_finding_matched_of_apart hapart,
    filterMap_missing?_of_apart hapart .required, filterMap_missing?_of_apart hapart .advisory, ?_⟩
  intro diagnostics' hsame
  have hmissing : (fixture.check diagnostics' options).missing =
      (fixture.check diagnostics options).missing :=
    filterMap_missing?_congr_of_apart hapart hsame .required
  refine ⟨hmissing, filterMap_missing?_congr_of_apart hapart hsame .advisory, ?_⟩
  intro hlenient
  rw [Bool.eq_iff_iff, check_ok_iff_of_lenient hlenient, check_ok_iff_of_lenient hlenient, hmissing]

end Fixture

namespace ApartWitness

/-- A finding on the last line there can be, two on the first line, and one seven lines below. -/
def fixture : Fixture where
  name := "far"
  fileName := "far.cpp"
  summary := ""
  categories := [.cert, .misc]
  findings := [
    .required "misc-*" .misc 4294967295 "" "", .required "misc-*" .misc 1 "" "",
    .advisory "cert-err58-cpp" .cert 1 "" "", .required "misc-*" .misc 8 "" ""]
  waivers := []
  source := ""

/-- Findings on different lines are more than six lines apart. -/
def options : CheckOptions := ⟨3, [], false⟩

/-- A diagnostic with these checks on a line of the file. -/
def report (line : Nat) (checks : List String) : Diagnostic :=
  ⟨"far.cpp", line, 1, .warning, "", checks⟩

/-- Two aliases on line 2, one check on line 0, which is as close to line 1, and one on line 4. -/
def diagnostics : List Diagnostic :=
  [report 4 ["misc-a"], report 2 ["misc-b", "cert-err58-cpp"], report 0 ["misc-c"]]

/-- Both findings on line 1 take the diagnostic on line 2, and that on line 4 cannot serve line
8. -/
theorem check_diagnostics :
    Apart options.lineTolerance fixture.findings ∧
      (∀ diagnostic, diagnostic ∈ diagnostics.reverse ++ diagnostics ↔ diagnostic ∈ diagnostics) ∧
      (fixture.check diagnostics options).matched =
        [⟨.required "misc-*" .misc 1 "" "", report 2 ["misc-b", "cert-err58-cpp"]⟩,
          ⟨.advisory "cert-err58-cpp" .cert 1 "" "", report 2 ["misc-b", "cert-err58-cpp"]⟩] ∧
      (fixture.check (diagnostics.reverse ++ diagnostics) options).missing =
        [.required "misc-*" .misc 4294967295 "" "", .required "misc-*" .misc 8 "" ""] := by
  have hapart : Apart options.lineTolerance fixture.findings := by
    decide
  have hsame : ∀ diagnostic,
      diagnostic ∈ diagnostics.reverse ++ diagnostics ↔ diagnostic ∈ diagnostics := by
    simp
  obtain ⟨hmatched, -, hmissing, -, hcongr⟩ :=
    (fixture.check_of_apart).2 options hapart diagnostics
  refine ⟨hapart, hsame, ?_, ?_⟩
  · rw [hmatched]
    decide +kernel
  · rw [(hcongr _ hsame).1, hmissing]
    decide +kernel

end ApartWitness

end LintCorpus
