import Mathlib.Algebra.Order.Field.Rat
import LintCorpus.Proofs.Conformance.Run

/-!
Verdict and coverage.  Without strict mode a check is passed exactly when no required finding is
missing, and the coverage is the share of the fixture's required findings that are not missing
(`requiredCoverage_toRat`).
-/

namespace LintCorpus

/-- The ratio as a rational number. -/
def Ratio.toRat (ratio : Ratio) : ℚ :=
  ratio.num / ratio.den

theorem Verdict.missing?_required (finding : Finding) :
    Verdict.missing? .required ⟨finding, none⟩ =
      if finding.isRequired = true then some finding else none := by
  simp [Verdict.missing?, Finding.isRequired]

/-- A required finding is either matched or missing. -/
theorem Verdict.length_required (verdicts : List Verdict) :
    ((verdicts.filterMap Verdict.match?).filter (·.finding.isRequired)).length +
        (verdicts.filterMap (Verdict.missing? .required)).length =
      ((verdicts.map Verdict.finding).filter (·.isRequired)).length := by
  induction verdicts with
  | nil => rfl
  | cons verdict rest ih =>
      rcases verdict with ⟨finding, _ | diagnostic⟩
      · have hmatch : Verdict.match? ⟨finding, none⟩ = none := rfl
        by_cases hrequired : finding.isRequired = true
        · simp [hmatch, Verdict.missing?_required, hrequired, ← ih, Nat.add_assoc]
        · simp [hmatch, Verdict.missing?_required, hrequired, ← ih]
      · have hmatch : Verdict.match? ⟨finding, some diagnostic⟩ = some ⟨finding, diagnostic⟩ := rfl
        have hmissing : Verdict.missing? .required ⟨finding, some diagnostic⟩ = none := rfl
        by_cases hrequired : finding.isRequired = true
        · simp [hmatch, hmissing, hrequired, ← ih, Nat.add_right_comm]
        · simp [hmatch, hmissing, hrequired, ← ih]

/-- What `f` finds in one list, `g` finds in the place beside it. -/
theorem filterMap_sublist_of_forall₂ {α β γ : Type} {R : α → β → Prop} {f : α → Option γ}
    {g : β → Option γ} (hfound : ∀ x y, R x y → ∀ z, f x = some z → g y = some z) {xs : List α}
    {ys : List β} (hrel : List.Forall₂ R xs ys) :
    (xs.filterMap f).Sublist (ys.filterMap g) := by
  induction hrel with
  | nil => exact List.Sublist.slnil
  | @cons x y xs ys hhead _ ih =>
      cases hx : f x with
      | none =>
          rw [List.filterMap_cons_none hx]
          exact ih.trans ((List.sublist_cons_self y ys).filterMap g)
      | some z =>
          rw [List.filterMap_cons_some hx, List.filterMap_cons_some (hfound x y hhead z hx)]
          exact ih.cons_cons z

/-- The same finding, and still served if it was. -/
structure Verdict.Improves (verdict verdict' : Verdict) : Prop where
  finding : verdict'.finding = verdict.finding
  served : verdict.diagnostic? ≠ none → verdict'.diagnostic? ≠ none

theorem Verdict.Improves.missing_sublist {verdicts verdicts' : List Verdict}
    (himproves : List.Forall₂ Verdict.Improves verdicts verdicts') (expectation : Expectation) :
    (verdicts'.filterMap (Verdict.missing? expectation)).Sublist
      (verdicts.filterMap (Verdict.missing? expectation)) := by
  refine filterMap_sublist_of_forall₂ ?_ himproves.flip
  rintro verdict' ⟨found, diagnostic?⟩ ⟨hfinding, hserved⟩ finding hmissing
  obtain ⟨rfl, hexpectation⟩ := Verdict.missing?_eq_some_iff.mp hmissing
  obtain rfl : finding = found := hfinding
  refine Verdict.missing?_eq_some_iff.mpr ⟨?_, hexpectation⟩
  cases diagnostic? with
  | none => rfl
  | some diagnostic => exact absurd rfl (hserved (Option.some_ne_none diagnostic))

namespace Fixture

variable {fixture : Fixture} {diagnostics : List Diagnostic} {options : CheckOptions}

theorem check_ok_iff :
    (fixture.check diagnostics options).ok = true ↔
      (fixture.check diagnostics options).missing = [] ∧
        (options.strict = true → (fixture.check diagnostics options).unexpected = []) := by
  simp only [Fixture.check, Bool.and_eq_true, Bool.not_eq_true', Bool.and_eq_false_imp,
    Bool.not_eq_false', List.isEmpty_iff]

theorem check_ok_iff_of_lenient (hlenient : options.strict = false) :
    (fixture.check diagnostics options).ok = true ↔
      (fixture.check diagnostics options).missing = [] := by
  simp [Fixture.check, hlenient]

variable (fixture diagnostics options)

theorem length_required :
    ((fixture.check diagnostics options).matched.filter (·.finding.isRequired)).length +
        (fixture.check diagnostics options).missing.length =
      fixture.requiredFindings.length := by
  rw [check_matched, check_missing, Verdict.length_required,
    (fixture.run_verdicts diagnostics options).map_finding]
  rfl

/-- The coverage is the share of the fixture's required findings that are not missing. -/
theorem requiredCoverage_toRat :
    (fixture.check diagnostics options).requiredCoverage.toRat =
      if fixture.requiredFindings.length = 0 then 1
      else (fixture.requiredFindings.length -
          (fixture.check diagnostics options).missing.length : ℚ) /
        fixture.requiredFindings.length := by
  have hlength := fixture.length_required diagnostics options
  rw [Report.requiredCoverage]
  simp only [hlength]
  split
  · simp [Ratio.toRat]
  · rw [Ratio.toRat, ← hlength]
    push_cast
    rw [add_sub_cancel_right]

variable {diagnostics options}

theorem requiredCoverage_le_of_missing_length_le {diagnostics' : List Diagnostic}
    {options' : CheckOptions}
    (hle : (fixture.check diagnostics' options').missing.length ≤
      (fixture.check diagnostics options).missing.length) :
    (fixture.check diagnostics options).requiredCoverage.toRat ≤
      (fixture.check diagnostics' options').requiredCoverage.toRat := by
  rw [requiredCoverage_toRat, requiredCoverage_toRat]
  split
  · exact le_refl 1
  · apply div_le_div_of_nonneg_right _ (Nat.cast_nonneg _)
    exact sub_le_sub_left (Nat.cast_le.mpr hle) _

end Fixture

end LintCorpus
