import LintCorpus.Proofs.Conformance.Coverage

/-!
Findings that cannot compete.  When findings on different lines are more than twice the tolerance
apart, as all are at tolerance zero, no claim ever stands in the way of a finding that needs it:
what becomes of a finding is what would become of it alone (`verdicts_of_apart`).
-/

namespace LintCorpus

/-- No diagnostic can lie within the tolerance of findings on different lines. -/
def Apart (tolerance : Nat) (findings : List Finding) : Prop :=
  ∀ first ∈ findings, ∀ second ∈ findings, first.line ≠ second.line →
    2 * tolerance < lineDistance first.line second.line

instance (tolerance : Nat) (findings : List Finding) : Decidable (Apart tolerance findings) :=
  inferInstanceAs (Decidable (∀ first ∈ findings, ∀ second ∈ findings, first.line ≠ second.line →
    2 * tolerance < lineDistance first.line second.line))

theorem apart_zero (findings : List Finding) : Apart 0 findings := by
  intro first _ second _ hne
  unfold lineDistance
  omega

/-- The verdict on a finding for which all diagnostics are free. -/
def Finding.alone (finding : Finding) (tolerance : Nat) (diagnostics : List Diagnostic) : Verdict :=
  ⟨finding, (Slot.serve? finding tolerance (diagnostics.map Slot.unclaimed)).map Prod.fst⟩

@[simp] theorem Slot.fits_unclaimed (finding : Finding) (tolerance : Nat)
    (diagnostic : Diagnostic) :
    (Slot.unclaimed diagnostic).fits finding tolerance =
      finding.satisfiedBy tolerance diagnostic := by
  simp [Slot.fits, Slot.isOpenTo, Slot.unclaimed]

namespace Finding

variable {finding : Finding} {tolerance : Nat} {diagnostics : List Diagnostic}

theorem alone_diagnostic?_eq_none_iff :
    (finding.alone tolerance diagnostics).diagnostic? = none ↔
      ∀ diagnostic ∈ diagnostics, finding.satisfiedBy tolerance diagnostic = false := by
  simp [alone, Slot.serve?_eq_none_iff]

theorem alone_eq_of_serves {index : Nat} {slot : Slot}
    (hserves : Slot.Serves finding tolerance (diagnostics.map Slot.unclaimed) index slot) :
    finding.alone tolerance diagnostics = ⟨finding, some slot.diagnostic⟩ := by
  rw [alone, Slot.serve?_eq_some_of_serves hserves, Option.map_some]

end Finding

/-- Every claim was made for a finding within the tolerance. -/
def ClaimedNearby (tolerance : Nat) (findings : List Finding) (slots : List Slot) : Prop :=
  ∀ slot ∈ slots, ∀ line, slot.claimedBy = some line →
    lineDistance line slot.diagnostic.line ≤ tolerance ∧
      ∃ finding ∈ findings, finding.line = line

namespace ClaimedNearby

variable {tolerance : Nat} {findings : List Finding} {slots : List Slot} {finding : Finding}

/-- Claims do not stand in the way of a finding that is apart from the others. -/
theorem fits_iff (hclaimed : ClaimedNearby tolerance findings slots)
    (hapart : Apart tolerance findings) (hfinding : finding ∈ findings) {slot : Slot}
    (hslot : slot ∈ slots) :
    slot.fits finding tolerance = true ↔
      finding.satisfiedBy tolerance slot.diagnostic = true := by
  rw [Slot.fits_iff, and_iff_right_iff_imp, Slot.isOpenTo_iff]
  intro hsat line hclaim
  obtain ⟨hclose, claimant, hclaimant, rfl⟩ := hclaimed slot hslot line hclaim
  by_contra hne
  have hfar := hapart claimant hclaimant finding hfinding hne
  have hnear := (Finding.satisfiedBy_iff.mp hsat).1
  unfold lineDistance at hclose hfar hnear
  omega

theorem serves (hclaimed : ClaimedNearby tolerance findings slots) (hfinding : finding ∈ findings)
    {index : Nat} {slot : Slot} (hserves : Slot.Serves finding tolerance slots index slot) :
    ClaimedNearby tolerance findings (slots.set index (slot.claim finding.line)) := by
  intro other hother line hclaim
  obtain ⟨i, hat⟩ := List.mem_iff_getElem?.mp hother
  rcases hserves.eq_claim_or_unchanged hat with ⟨-, rfl⟩ | ⟨-, hunchanged⟩
  · rw [Slot.claim_claimedBy_of_isOpenTo hserves.isOpenTo] at hclaim
    obtain rfl := Option.some.inj hclaim
    exact ⟨(Finding.satisfiedBy_iff.mp hserves.satisfiedBy).1, finding, hfinding, rfl⟩
  · exact hclaimed other (List.mem_of_getElem? hunchanged) line hclaim

/-- What serves a finding among the claimed slots serves it among free ones. -/
theorem serves_unclaimed (hclaimed : ClaimedNearby tolerance findings slots)
    (hapart : Apart tolerance findings) (hfinding : finding ∈ findings) {index : Nat} {slot : Slot}
    (hserves : Slot.Serves finding tolerance slots index slot) :
    Slot.Serves finding tolerance ((slots.map Slot.diagnostic).map Slot.unclaimed) index
      (Slot.unclaimed slot.diagnostic) := by
  have hback : ∀ (j : Nat) (other : Slot),
      ((slots.map Slot.diagnostic).map Slot.unclaimed)[j]? = some other →
      other.fits finding tolerance = true →
      ∃ before, slots[j]? = some before ∧ before.fits finding tolerance = true ∧
        before.distance finding = other.distance finding := by
    intro j other hother hfits
    simp only [List.getElem?_map, Option.map_eq_some_iff] at hother
    obtain ⟨diagnostic, ⟨before, hat, rfl⟩, rfl⟩ := hother
    rw [Slot.fits_unclaimed] at hfits
    exact ⟨before, hat,
      (hclaimed.fits_iff hapart hfinding (List.mem_of_getElem? hat)).mpr hfits, rfl⟩
  refine ⟨by simp [hserves.at_index], ?_, ?_, ?_⟩
  · rw [Slot.fits_unclaimed]
    exact hserves.satisfiedBy
  · intro j other hother hfits
    obtain ⟨before, hat, hfitsBefore, hdistance⟩ := hback j other hother hfits
    rw [← hdistance]
    exact hserves.closest j before hat hfitsBefore
  · intro j other hother hfits heq
    obtain ⟨before, hat, hfitsBefore, hdistance⟩ := hback j other hother hfits
    exact hserves.first j before hat hfitsBefore (hdistance.trans heq)

end ClaimedNearby

/-- A pass over findings that are apart serves each of them as if it were alone. -/
theorem Run.verdicts_of_apart {tolerance : Nat} {slots slots' : List Slot}
    {findings all : List Finding} {verdicts : List Verdict}
    (hrun : Run tolerance slots findings verdicts slots') (hapart : Apart tolerance all)
    (hall : findings ⊆ all) (hclaimed : ClaimedNearby tolerance all slots) :
    verdicts = findings.map fun finding =>
      finding.alone tolerance (slots.map Slot.diagnostic) := by
  induction hrun with
  | done slots => rfl
  | @served slots _ finding rest _ index slot hserves hrest ih =>
      obtain ⟨hfinding, hall⟩ := List.cons_subset.mp hall
      have hsame : (slots.set index (slot.claim finding.line)).map Slot.diagnostic =
          slots.map Slot.diagnostic := hserves.map_diagnostic_set
      rw [List.map_cons, ih hall (hclaimed.serves hfinding hserves), hsame,
        Finding.alone_eq_of_serves (hclaimed.serves_unclaimed hapart hfinding hserves)]
      rfl
  | @unserved slots _ finding rest _ hnone hrest ih =>
      obtain ⟨hfinding, hall⟩ := List.cons_subset.mp hall
      have halone : (finding.alone tolerance (slots.map Slot.diagnostic)).diagnostic? = none := by
        rw [Finding.alone_diagnostic?_eq_none_iff]
        intro diagnostic hdiagnostic
        obtain ⟨slot, hslot, rfl⟩ := List.mem_map.mp hdiagnostic
        rw [← Bool.not_eq_true, ← hclaimed.fits_iff hapart hfinding hslot, hnone slot hslot]
        exact Bool.false_ne_true
      rw [List.map_cons, ih hall hclaimed, ← halone]
      rfl

namespace Fixture

variable {fixture : Fixture} {diagnostics : List Diagnostic} {options : CheckOptions}

/-- Before any finding is served, nothing is claimed. -/
theorem claimedNearby_slots (tolerance : Nat) (findings : List Finding) :
    ClaimedNearby tolerance findings (fixture.slots diagnostics) := by
  intro slot hslot line hclaim
  rw [(mem_slots_iff.mp hslot).2] at hclaim
  contradiction

theorem verdicts_of_apart (hapart : Apart options.lineTolerance fixture.findings) :
    fixture.verdicts diagnostics options = fixture.findings.map fun finding =>
      finding.alone options.lineTolerance (fixture.relevant diagnostics) := by
  have hverdicts := (fixture.run_verdicts diagnostics options).verdicts_of_apart hapart
    (List.Subset.refl fixture.findings) (claimedNearby_slots options.lineTolerance fixture.findings)
  rwa [map_diagnostic_slots] at hverdicts

/-- A required finding is missing exactly when no diagnostic satisfies it. -/
theorem missing_eq_nil_iff_of_apart (hapart : Apart options.lineTolerance fixture.findings) :
    (fixture.check diagnostics options).missing = [] ↔
      ∀ finding ∈ fixture.findings, finding.isRequired = true →
        ∃ diagnostic ∈ fixture.relevant diagnostics,
          finding.satisfiedBy options.lineTolerance diagnostic = true := by
  rw [check_missing, verdicts_of_apart hapart, List.filterMap_eq_nil_iff, List.forall_mem_map]
  refine forall_congr' fun finding => imp_congr_right fun _ => ?_
  cases hdiagnostic : (finding.alone options.lineTolerance
      (fixture.relevant diagnostics)).diagnostic? with
  | none =>
      have hnone := Finding.alone_diagnostic?_eq_none_iff.mp hdiagnostic
      have halone : finding.alone options.lineTolerance (fixture.relevant diagnostics) =
          ⟨finding, none⟩ := congrArg (Verdict.mk finding) hdiagnostic
      rw [halone, Verdict.missing?_required]
      simp only [ite_eq_right_iff, reduceCtorEq, imp_false]
      refine imp_congr_right fun _ => ⟨False.elim, ?_⟩
      rintro ⟨diagnostic, hmem, hsat⟩
      simp [hnone diagnostic hmem] at hsat
  | some diagnostic =>
      have hserved : ¬ ∀ diagnostic ∈ fixture.relevant diagnostics,
          finding.satisfiedBy options.lineTolerance diagnostic = false := by
        rw [← Finding.alone_diagnostic?_eq_none_iff, hdiagnostic]
        simp
      simp only [not_forall, Bool.not_eq_false, exists_prop] at hserved
      simp [Verdict.missing?, hdiagnostic, hserved]

end Fixture

end LintCorpus
