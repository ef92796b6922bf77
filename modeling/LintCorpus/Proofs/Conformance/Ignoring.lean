import LintCorpus.Proofs.Conformance.Assignment
import LintCorpus.Proofs.Conformance.Coverage

/-!
What the ignored patterns and strict mode decide.  The matching knows neither of them.  The patterns
only take diagnostics away from what is unexpected, exactly those that they ignore, so more patterns
take more away, and their order and repetitions do not matter (`Fixture.check_ignoring`).
-/

namespace LintCorpus

variable {fixture : Fixture} {diagnostics : List Diagnostic} {options options' : CheckOptions}

/-- What is ignored stays ignored among more patterns. -/
theorem CheckOptions.Ignored.mono (hpatterns : options.ignoreChecks ⊆ options'.ignoreChecks)
    {diagnostic : Diagnostic} (hignored : options.Ignored diagnostic) :
    options'.Ignored diagnostic := by
  refine ⟨hignored.1, fun check hcheck => ?_⟩
  obtain ⟨pattern, hpattern, hcovers⟩ := hignored.2 check hcheck
  exact ⟨pattern, hpatterns hpattern, hcovers⟩

/-- Under more patterns a slot is unexpected if it was and is not ignored now. -/
theorem CheckOptions.unexpected?_of_subset
    (hpatterns : options.ignoreChecks ⊆ options'.ignoreChecks)
    (slot : Slot) :
    options'.unexpected? slot =
      (options.unexpected? slot).filter fun diagnostic => ¬ options'.Ignored diagnostic := by
  rw [unexpected?_eq, unexpected?_eq]
  by_cases hignored' : options'.Ignored slot.diagnostic
  · rw [if_neg fun h => h.2.2 hignored']
    split <;> simp [Option.filter_some, hignored']
  · have hignored : ¬ options.Ignored slot.diagnostic := mt (.mono hpatterns) hignored'
    simp only [hignored, hignored', not_false_eq_true, and_true]
    split <;> simp [Option.filter_some, hignored']

namespace Fixture

/-- The matching depends on the tolerance alone. -/
theorem check_congr (htolerance : options'.lineTolerance = options.lineTolerance) :
    (fixture.check diagnostics options').matched = (fixture.check diagnostics options).matched ∧
      (fixture.check diagnostics options').missing = (fixture.check diagnostics options).missing ∧
      (fixture.check diagnostics options').missingAdvisory =
        (fixture.check diagnostics options).missingAdvisory := by
  have hverdicts := fixture.verdicts_congr diagnostics htolerance
  refine ⟨?_, ?_, ?_⟩
  · rw [check_matched, check_matched, hverdicts]
  · rw [check_missing, check_missing, hverdicts]
  · rw [check_missingAdvisory, check_missingAdvisory, hverdicts]

/-- More patterns take away from what is unexpected the diagnostics that they ignore. -/
theorem unexpected_of_subset (htolerance : options'.lineTolerance = options.lineTolerance)
    (hpatterns : options.ignoreChecks ⊆ options'.ignoreChecks) :
    (fixture.check diagnostics options').unexpected =
      (fixture.check diagnostics options).unexpected.filter fun diagnostic =>
        ¬ options'.Ignored diagnostic := by
  rw [check_unexpected, check_unexpected, fixture.claims_congr diagnostics htolerance,
    List.filter_filterMap]
  exact List.filterMap_congr fun slot _ => CheckOptions.unexpected?_of_subset hpatterns slot

theorem unexpected_sublist_of_subset (htolerance : options'.lineTolerance = options.lineTolerance)
    (hpatterns : options.ignoreChecks ⊆ options'.ignoreChecks) :
    (fixture.check diagnostics options').unexpected.Sublist
      (fixture.check diagnostics options).unexpected := by
  rw [unexpected_of_subset htolerance hpatterns]
  exact List.filter_sublist

/-- A check that is passed stays passed when patterns are added or strict mode is given up. -/
theorem check_ok_of_subset (htolerance : options'.lineTolerance = options.lineTolerance)
    (hpatterns : options.ignoreChecks ⊆ options'.ignoreChecks)
    (hstrict : options'.strict = true → options.strict = true)
    (hok : (fixture.check diagnostics options).ok = true) :
    (fixture.check diagnostics options').ok = true := by
  rw [check_ok_iff] at hok ⊢
  obtain ⟨hmissing, hunexpected⟩ := hok
  refine ⟨(check_congr htolerance).2.1.trans hmissing, fun hstrict' => ?_⟩
  rw [← List.sublist_nil, ← hunexpected (hstrict hstrict')]
  exact unexpected_sublist_of_subset htolerance hpatterns

/-- Reports with the same matching and the same unexpected diagnostics are the same. -/
theorem check_eq_of_unexpected_eq (htolerance : options'.lineTolerance = options.lineTolerance)
    (hstrict : options'.strict = options.strict)
    (hunexpected : (fixture.check diagnostics options').unexpected =
      (fixture.check diagnostics options).unexpected) :
    fixture.check diagnostics options' = fixture.check diagnostics options := by
  obtain ⟨hmatched, hmissing, hmissingAdvisory⟩ := check_congr htolerance
  apply Report.ext
  · rfl
  · rw [Bool.eq_iff_iff, check_ok_iff, check_ok_iff, hmissing, hunexpected, hstrict]
  · exact hmatched
  · exact hmissing
  · exact hmissingAdvisory
  · exact hunexpected

/-- The same patterns in another order, or with repetitions, give the same report. -/
theorem check_eq_of_same_patterns (htolerance : options'.lineTolerance = options.lineTolerance)
    (hstrict : options'.strict = options.strict)
    (hpatterns : ∀ pattern, pattern ∈ options'.ignoreChecks ↔ pattern ∈ options.ignoreChecks) :
    fixture.check diagnostics options' = fixture.check diagnostics options := by
  apply check_eq_of_unexpected_eq htolerance hstrict
  exact (unexpected_sublist_of_subset htolerance fun pattern => (hpatterns pattern).mpr).antisymm
    (unexpected_sublist_of_subset htolerance.symm fun pattern => (hpatterns pattern).mp)

/-- The ignored patterns and strict mode do not touch the matching.  More patterns take exactly the
diagnostics that they ignore away from what is unexpected, and never fail a check; patterns in
another order or with repetitions give the same report; and what passes in strict mode passes
without it. -/
theorem check_ignoring (fixture : Fixture) (diagnostics : List Diagnostic) (tolerance : Nat) :
    let report := fun patterns strict => fixture.check diagnostics ⟨tolerance, patterns, strict⟩
    (∀ patterns patterns' strict strict',
      (report patterns' strict').matched = (report patterns strict).matched ∧
        (report patterns' strict').missing = (report patterns strict).missing ∧
        (report patterns' strict').missingAdvisory = (report patterns strict).missingAdvisory) ∧
    (∀ patterns patterns' strict strict', patterns ⊆ patterns' →
      (report patterns' strict').unexpected =
          (report patterns strict).unexpected.filter (fun diagnostic =>
            ¬ CheckOptions.Ignored ⟨tolerance, patterns', strict'⟩ diagnostic) ∧
        (report patterns' strict').unexpected.Sublist (report patterns strict).unexpected) ∧
    (∀ patterns patterns' strict, patterns ⊆ patterns' →
      (report patterns strict).ok = true → (report patterns' strict).ok = true) ∧
    (∀ patterns patterns' strict, (∀ pattern, pattern ∈ patterns' ↔ pattern ∈ patterns) →
      report patterns' strict = report patterns strict) ∧
    ∀ patterns, (report patterns true).ok = true → (report patterns false).ok = true := by
  intro report
  refine ⟨?_, ?_, ?_, ?_, ?_⟩
  · intro patterns patterns' strict strict'
    exact check_congr rfl
  · intro patterns patterns' strict strict' hpatterns
    exact ⟨unexpected_of_subset rfl hpatterns, unexpected_sublist_of_subset rfl hpatterns⟩
  · intro patterns patterns' strict hpatterns
    exact check_ok_of_subset rfl hpatterns id
  · intro patterns patterns' strict hpatterns
    exact check_eq_of_same_patterns rfl rfl hpatterns
  · intro patterns
    exact check_ok_of_subset rfl (List.Subset.refl patterns) fun _ => rfl

end Fixture

namespace IgnoringWitness

/-- A fixture with one finding. -/
def pointer : Fixture where
  name := "pointer"
  fileName := "pointer.cpp"
  summary := ""
  categories := [.modernize]
  findings := [.required "modernize-use-nullptr" .modernize 1 "p = 0" ""]
  waivers := []
  source := "int* p = 0;\n"

/-- The diagnostic of the finding. -/
def served : Diagnostic :=
  ⟨"pointer.cpp", 1, 10, .warning, "use nullptr", ["modernize-use-nullptr"]⟩

/-- A diagnostic under two names. -/
def aliased : Diagnostic :=
  ⟨"pointer.cpp", 1, 1, .warning, "wrong order", ["llvm-include-order", "google-include-order"]⟩

/-- A diagnostic without a name. -/
def unnamed : Diagnostic :=
  ⟨"pointer.cpp", 1, 12, .error, "expected an identifier", []⟩

/-- A diagnostic with a name that is no pattern. -/
def odd : Diagnostic :=
  ⟨"pointer.cpp", 1, 1, .warning, "odd", ["odd[1", "llvm-odd"]⟩

/-- Only the diagnostic with both of its names among the patterns is taken away. -/
theorem check_ignoring_odd :
    ["llvm-*"] ⊆ ["odd[1", "llvm-*", "llvm-*"] ∧
      (pointer.check [served, aliased, unnamed, odd] ⟨0, ["llvm-*"], false⟩).unexpected =
        [aliased, unnamed, odd] ∧
      (pointer.check [served, aliased, unnamed, odd]
        ⟨0, ["odd[1", "llvm-*", "llvm-*"], true⟩).unexpected = [aliased, unnamed] := by
  have hpatterns : ["llvm-*"] ⊆ ["odd[1", "llvm-*", "llvm-*"] := by
    decide
  have hunexpected : (pointer.check [served, aliased, unnamed, odd]
      ⟨0, ["llvm-*"], false⟩).unexpected = [aliased, unnamed, odd] := by
    decide +kernel
  obtain ⟨-, hmore, -⟩ := Fixture.check_ignoring pointer [served, aliased, unnamed, odd] 0
  obtain ⟨hfilter, -⟩ := hmore ["llvm-*"] ["odd[1", "llvm-*", "llvm-*"] false true hpatterns
  refine ⟨hpatterns, hunexpected, ?_⟩
  rw [hfilter, hunexpected]
  decide +kernel

end IgnoringWitness

end LintCorpus
