import LintCorpus.Proofs.Conformance.Choice
import LintCorpus.Proofs.Conformance.Coverage

/-!
Reports as partitions.  Every finding of a fixture is matched, missing though required, or missing
and advisory, and the lists of a report hold nothing else.  So their lengths add up, and the
coverage is full exactly when nothing that is required is missing (`Fixture.check_accounts`).
-/

namespace LintCorpus

/-- The findings are those at these places of the list, in its order. -/
structure StandAt {all : List Finding} (findings : List Finding) (places : List (Fin all.length)) :
    Prop where
  ordered : places.Pairwise (· < ·)
  findings_eq : findings = places.map all.get

theorem Expectation.eq_advisory_iff {expectation : Expectation} :
    expectation = .advisory ↔ expectation ≠ .required := by
  cases expectation <;> simp

theorem Report.RestsOn.exists_standAt {findings : List Finding} {relevant : List Diagnostic}
    {options : CheckOptions} {report : Report}
    {choice : Fin findings.length → Option (Fin relevant.length)}
    (hrests : report.RestsOn options choice) :
    ∃ matched missing advisory : List (Fin findings.length),
      (matched ++ (missing ++ advisory)).Perm (List.finRange findings.length) ∧
      StandAt (report.matched.map Match.finding) matched ∧
      StandAt report.missing missing ∧ StandAt report.missingAdvisory advisory := by
  have hordered (p : Fin findings.length → Bool) :
      ((List.finRange findings.length).filter p).Pairwise (· < ·) :=
    (List.pairwise_lt_finRange _).filter p
  refine ⟨(List.finRange findings.length).filter fun k => (choice k).isSome, _, _, ?_,
    ⟨hordered _, ?_⟩, ⟨hordered _, hrests.missing⟩, ⟨hordered _, hrests.missingAdvisory⟩⟩
  · have hmissing : ((List.finRange findings.length).filter fun k =>
        choice k = none ∧ (findings.get k).expectation = .required) =
          ((List.finRange findings.length).filter fun k => !(choice k).isSome).filter fun k =>
            (findings.get k).isRequired := by
      rw [List.filter_filter]
      apply List.filter_congr
      intro k _
      cases hk : choice k <;> simp [Finding.isRequired]
    have hadvisory : ((List.finRange findings.length).filter fun k =>
        choice k = none ∧ (findings.get k).expectation = .advisory) =
          ((List.finRange findings.length).filter fun k => !(choice k).isSome).filter fun k =>
            !(findings.get k).isRequired := by
      rw [List.filter_filter]
      apply List.filter_congr
      intro k _
      cases hk : choice k <;> simp [Finding.isRequired, Expectation.eq_advisory_iff]
    rw [hmissing, hadvisory]
    exact ((List.filter_append_perm _ _).append_left _).trans (List.filter_append_perm _ _)
  · rw [hrests.matched, List.map_filterMap, ← List.filterMap_eq_filter, List.map_filterMap]
    apply List.filterMap_congr
    intro k _
    cases hk : choice k <;> simp [hk, Option.guard]

/-- What is missing has the expectation that is asked for. -/
theorem expectation_of_mem_filterMap {verdicts : List Verdict} {expectation : Expectation}
    {finding : Finding} (hfinding : finding ∈ verdicts.filterMap (Verdict.missing? expectation)) :
    finding.expectation = expectation := by
  obtain ⟨verdict, -, hmissing⟩ := List.mem_filterMap.mp hfinding
  exact (Verdict.missing?_eq_some_iff.mp hmissing).2

namespace Fixture

variable (fixture : Fixture) (diagnostics : List Diagnostic) (options : CheckOptions)

/-- The coverage is the share of the fixture's required findings that are matched. -/
theorem requiredCoverage_toRat_eq_matched :
    (fixture.check diagnostics options).requiredCoverage.toRat =
      if fixture.requiredFindings = [] then 1
      else (((fixture.check diagnostics options).matched.filter (·.finding.isRequired)).length : ℚ) /
        fixture.requiredFindings.length := by
  have hlength := fixture.length_required diagnostics options
  rw [Report.requiredCoverage]
  simp only [hlength, List.length_eq_zero_iff]
  split <;> simp [Ratio.toRat]

theorem requiredCoverage_eq_one_iff :
    (fixture.check diagnostics options).requiredCoverage.toRat = 1 ↔
      (fixture.check diagnostics options).missing = [] := by
  have hlength := fixture.length_required diagnostics options
  rw [requiredCoverage_toRat, ← List.length_eq_zero_iff]
  split
  · simp only [true_iff]
    omega
  · rename_i hrequired
    rw [div_eq_one_iff_eq (Nat.cast_ne_zero.mpr hrequired), sub_eq_self, Nat.cast_eq_zero]

end Fixture

/-- The report accounts for every finding of the fixture. -/
structure Report.Accounts (report : Report) (fixture : Fixture) (strict : Bool) : Prop where
  /-- Every place of the fixture's list belongs to one list of the report, which keeps their
  order. -/
  partition : ∃ matched missing advisory : List (Fin fixture.findings.length),
    (matched ++ (missing ++ advisory)).Perm (List.finRange fixture.findings.length) ∧
      StandAt (report.matched.map Match.finding) matched ∧ StandAt report.missing missing ∧
      StandAt report.missingAdvisory advisory
  missing : ∀ finding ∈ report.missing, finding.expectation = .required
  missingAdvisory : ∀ finding ∈ report.missingAdvisory, finding.expectation = .advisory
  length : report.matched.length + report.missing.length + report.missingAdvisory.length =
    fixture.findings.length
  /-- The coverage is the share of the fixture's required findings that are matched. -/
  coverage : report.requiredCoverage.toRat = if fixture.requiredFindings = [] then 1
    else ((report.matched.filter (·.finding.isRequired)).length : ℚ) /
      fixture.requiredFindings.length
  coverage_eq_one_iff : report.requiredCoverage.toRat = 1 ↔ report.missing = []
  ok_iff : report.ok = true ↔
    report.requiredCoverage.toRat = 1 ∧ (strict = true → report.unexpected = [])

/-- No finding is lost or invented by a check, and the coverage counts them right. -/
theorem Fixture.check_accounts (fixture : Fixture) (diagnostics : List Diagnostic)
    (options : CheckOptions) :
    (fixture.check diagnostics options).Accounts fixture options.strict := by
  obtain ⟨choice, hchooses⟩ := fixture.exists_chooses diagnostics options
  obtain ⟨matched, missing, advisory, hperm, hmatched, hmissing, hadvisory⟩ :=
    hchooses.restsOn.exists_standAt
  refine ⟨⟨matched, missing, advisory, hperm, hmatched, hmissing, hadvisory⟩, ?_, ?_, ?_,
    fixture.requiredCoverage_toRat_eq_matched diagnostics options,
    fixture.requiredCoverage_eq_one_iff diagnostics options, ?_⟩
  · intro finding hfinding
    exact expectation_of_mem_filterMap hfinding
  · intro finding hfinding
    exact expectation_of_mem_filterMap hfinding
  · have hlength := hperm.length_eq
    have hmatchedLength := congrArg List.length hmatched.findings_eq
    have hmissingLength := congrArg List.length hmissing.findings_eq
    have hadvisoryLength := congrArg List.length hadvisory.findings_eq
    simp only [List.length_append, List.length_finRange, List.length_map] at *
    omega
  · rw [check_ok_iff, requiredCoverage_eq_one_iff]

end LintCorpus
