import LintCorpus.Proofs.Conformance.Choice

/-!
Closest first.  The findings choose their diagnostics in turn: each takes the closest one that no
earlier finding on another line has taken, of equally close ones the first, and goes without only
when all that satisfy it are taken (`ClosestFirst`).  This leaves no freedom
(`ClosestFirst.unique`), and it is how the report of a check comes about
(`Fixture.check_closest_first`).
-/

namespace LintCorpus

section Choices

variable {findings : List Finding} {relevant : List Diagnostic}

/-- Each finding has the closest of the diagnostics that were left to it, and the first of equally
close ones. -/
structure ClosestFirst (tolerance : Nat)
    (choice : Fin findings.length → Option (Fin relevant.length)) : Prop where
  satisfied : ∀ k i, choice k = some i →
    (findings.get k).satisfiedBy tolerance (relevant.get i) = true
  /-- Findings that share a diagnostic are on one line. -/
  same_line : ∀ j k i, choice j = some i → choice k = some i →
    (findings.get j).line = (findings.get k).line
  closest : ∀ k i, choice k = some i → ∀ i',
    (findings.get k).satisfiedBy tolerance (relevant.get i') = true →
    lineDistance (findings.get k).line (relevant.get i').line <
      lineDistance (findings.get k).line (relevant.get i).line → TakenBefore choice k i'
  first : ∀ k i, choice k = some i → ∀ i' < i,
    (findings.get k).satisfiedBy tolerance (relevant.get i') = true →
    lineDistance (findings.get k).line (relevant.get i').line =
      lineDistance (findings.get k).line (relevant.get i).line → TakenBefore choice k i'
  /-- A finding goes without a diagnostic only when all that satisfy it are taken. -/
  maximal : ∀ k, choice k = none → ∀ i,
    (findings.get k).satisfiedBy tolerance (relevant.get i) = true → TakenBefore choice k i

/-- One diagnostic is closer to the finding than the other, or as close and not behind it. -/
def Finding.Prefers (finding : Finding) (i i' : Fin relevant.length) : Prop :=
  lineDistance finding.line (relevant.get i).line <
      lineDistance finding.line (relevant.get i').line ∨
    lineDistance finding.line (relevant.get i).line =
        lineDistance finding.line (relevant.get i').line ∧
      i ≤ i'

theorem Finding.Prefers.antisymm {finding : Finding} {i i' : Fin relevant.length}
    (hforth : finding.Prefers i i') (hback : finding.Prefers i' i) : i = i' := by
  rcases hforth with hlt | ⟨heq, hle⟩ <;> rcases hback with hlt' | ⟨heq', hle'⟩
  · exact absurd hlt' (Nat.lt_asymm hlt)
  · exact absurd heq' (Nat.ne_of_gt hlt)
  · exact absurd heq (Nat.ne_of_gt hlt')
  · exact Fin.le_antisymm hle hle'

namespace ClosestFirst

variable {tolerance : Nat} {choice other : Fin findings.length → Option (Fin relevant.length)}

/-- What a finding takes was not taken before. -/
theorem not_takenBefore (hchoice : ClosestFirst tolerance choice) {k : Fin findings.length}
    {i : Fin relevant.length} (hi : choice k = some i) : ¬ TakenBefore choice k i := by
  rintro ⟨j, -, hj, hline⟩
  exact hline (hchoice.same_line j k i hj hi)

/-- What a finding chooses is the best of what satisfies it and is not taken. -/
theorem eq_some_iff (hchoice : ClosestFirst tolerance choice) {k : Fin findings.length}
    {i : Fin relevant.length} : choice k = some i ↔
      ((findings.get k).satisfiedBy tolerance (relevant.get i) = true ∧ ¬ TakenBefore choice k i) ∧
        ∀ i', (findings.get k).satisfiedBy tolerance (relevant.get i') = true →
          ¬ TakenBefore choice k i' → (findings.get k).Prefers i i' := by
  have hbest : ∀ i, choice k = some i → ∀ i',
      (findings.get k).satisfiedBy tolerance (relevant.get i') = true → ¬ TakenBefore choice k i' →
      (findings.get k).Prefers i i' := by
    intro i hi i' hsat hfree
    rcases Nat.lt_trichotomy (lineDistance (findings.get k).line (relevant.get i).line)
      (lineDistance (findings.get k).line (relevant.get i').line) with hlt | heq | hgt
    · exact Or.inl hlt
    · refine Or.inr ⟨heq, ?_⟩
      by_contra hle
      exact hfree (hchoice.first k i hi i' (Fin.not_le.mp hle) hsat heq.symm)
    · exact absurd (hchoice.closest k i hi i' hsat hgt) hfree
  constructor
  · intro hi
    exact ⟨⟨hchoice.satisfied k i hi, hchoice.not_takenBefore hi⟩, hbest i hi⟩
  · rintro ⟨⟨hsat, hfree⟩, hmin⟩
    cases hk : choice k with
    | none => exact absurd (hchoice.maximal k hk i hsat) hfree
    | some i' =>
        have hback := hmin i' (hchoice.satisfied k i' hk) (hchoice.not_takenBefore hk)
        have hforth := hbest i' hk i hsat hfree
        rw [hback.antisymm hforth]

theorem takenBefore_congr {k : Fin findings.length} (hbefore : ∀ j < k, other j = choice j)
    {i : Fin relevant.length} : TakenBefore other k i ↔ TakenBefore choice k i := by
  refine exists_congr fun j => and_congr_right fun hj => ?_
  rw [hbefore j hj]

/-- The choices are determined, one after the other. -/
theorem unique (hchoice : ClosestFirst tolerance choice) (hother : ClosestFirst tolerance other) :
    other = choice := by
  funext k
  obtain ⟨k, hk⟩ := k
  induction k using Nat.strongRecOn with
  | _ k ih =>
      have htaken (i : Fin relevant.length) : TakenBefore other ⟨k, hk⟩ i ↔
          TakenBefore choice ⟨k, hk⟩ i :=
        takenBefore_congr fun j hj => ih j hj j.isLt
      ext i
      rw [hother.eq_some_iff, hchoice.eq_some_iff]
      simp only [htaken]

end ClosestFirst

end Choices

namespace Fixture

variable {fixture : Fixture} {diagnostics : List Diagnostic} {options : CheckOptions}
  {choice : Fin fixture.findings.length → Option (Fin (fixture.relevant diagnostics).length)}

namespace Chooses

/-- What a finding takes was free and satisfies it. -/
theorem free (hchooses : fixture.Chooses diagnostics options choice)
    {k : Fin fixture.findings.length} {i : Fin (fixture.relevant diagnostics).length}
    (hi : choice k = some i) : (fixture.findings.get k).satisfiedBy options.lineTolerance
        ((fixture.relevant diagnostics).get i) = true ∧ ¬ TakenBefore choice k i := by
  obtain ⟨slot, hserves⟩ := hchooses.served k i hi
  exact (hchooses.fits_iff hserves.at_index).mp hserves.fits

/-- What a finding takes is as good as anything else that it could have had. -/
theorem prefers (hchooses : fixture.Chooses diagnostics options choice)
    {k : Fin fixture.findings.length} {i i' : Fin (fixture.relevant diagnostics).length}
    (hi : choice k = some i) (hsat : (fixture.findings.get k).satisfiedBy options.lineTolerance
      ((fixture.relevant diagnostics).get i') = true) (hfree : ¬ TakenBefore choice k i') :
    (fixture.findings.get k).Prefers i i' := by
  obtain ⟨slot, hserves⟩ := hchooses.served k i hi
  obtain ⟨other, hother, hdiagnostic⟩ := fixture.exists_slotsBefore diagnostics options k i'
  have hfits := (hchooses.fits_iff hother).mpr ⟨hsat, hfree⟩
  have hclosest := hserves.closest i' other hother hfits
  have hfirst := hserves.first i' other hother hfits
  rw [Slot.distance, Slot.distance, hdiagnostic,
    fixture.diagnostic_slotsBefore diagnostics options hserves.at_index] at hclosest hfirst
  rcases Nat.lt_or_eq_of_le hclosest with hlt | heq
  · exact Or.inl hlt
  · exact Or.inr ⟨heq, hfirst heq.symm⟩

/-- What the findings choose in their turns is closest first. -/
theorem closestFirst (hchooses : fixture.Chooses diagnostics options choice) :
    ClosestFirst options.lineTolerance choice := by
  have hearlier (j k : Fin fixture.findings.length) (i : Fin (fixture.relevant diagnostics).length)
      (hj : choice j = some i) (hk : choice k = some i) (hjk : j < k) :
      (fixture.findings.get j).line = (fixture.findings.get k).line := by
    by_contra hline
    exact (hchooses.free hk).2 ⟨j, hjk, hj, hline⟩
  refine ⟨fun k i hi => (hchooses.free hi).1, ?_, ?_, ?_, ?_⟩
  · intro j k i hj hk
    rcases Nat.lt_trichotomy j k with hlt | heq | hgt
    · exact hearlier j k i hj hk hlt
    · rw [Fin.ext heq]
    · exact (hearlier k j i hk hj hgt).symm
  · intro k i hi i' hsat hlt
    by_contra htaken
    rcases hchooses.prefers hi hsat htaken with hlt' | ⟨heq, -⟩
    · exact Nat.lt_asymm hlt hlt'
    · exact Nat.ne_of_gt hlt heq
  · intro k i hi i' hbefore hsat heq
    by_contra htaken
    rcases hchooses.prefers hi hsat htaken with hlt | ⟨-, hle⟩
    · exact Nat.ne_of_gt hlt heq
    · exact Fin.not_le.mpr hbefore hle
  · intro k hk i hsat
    by_contra htaken
    obtain ⟨slot, hat, -⟩ := fixture.exists_slotsBefore diagnostics options k i
    have hnone := hchooses.unserved k hk slot (List.mem_of_getElem? hat)
    rw [(hchooses.fits_iff hat).mpr ⟨hsat, htaken⟩] at hnone
    contradiction

end Chooses

/-- The report rests on the one choice of diagnostics that is closest first.  So a finding that is
missing is satisfied by nothing that is left over. -/
theorem check_closest_first (fixture : Fixture) (diagnostics : List Diagnostic)
    (options : CheckOptions) :
    (∃ choice : Fin fixture.findings.length → Option (Fin (fixture.relevant diagnostics).length),
      ClosestFirst options.lineTolerance choice ∧
      (∀ other, ClosestFirst options.lineTolerance other → other = choice) ∧
      (fixture.check diagnostics options).RestsOn options choice ∧
      ∀ k, choice k = none → ∀ i, (∀ j, choice j ≠ some i) →
        (fixture.findings.get k).satisfiedBy options.lineTolerance
          ((fixture.relevant diagnostics).get i) = false) ∧
      ∀ finding ∈ (fixture.check diagnostics options).missing ++
          (fixture.check diagnostics options).missingAdvisory,
        ∀ diagnostic ∈ (fixture.check diagnostics options).unexpected,
          finding.satisfiedBy options.lineTolerance diagnostic = false := by
  obtain ⟨choice, hchooses⟩ := fixture.exists_chooses diagnostics options
  have hfirst := hchooses.closestFirst
  have hrests := hchooses.restsOn
  have hleft : ∀ k, choice k = none → ∀ i, (∀ j, choice j ≠ some i) →
      (fixture.findings.get k).satisfiedBy options.lineTolerance
        ((fixture.relevant diagnostics).get i) = false := by
    intro k hk i hfree
    rw [← Bool.not_eq_true]
    intro hsat
    obtain ⟨j, -, hj, -⟩ := hfirst.maximal k hk i hsat
    exact hfree j hj
  refine ⟨⟨choice, hfirst, fun other hother => hfirst.unique hother, hrests, hleft⟩, ?_⟩
  intro finding hfinding diagnostic hdiagnostic
  rw [hrests.missing, hrests.missingAdvisory, ← List.map_append, List.mem_map] at hfinding
  obtain ⟨k, hk, rfl⟩ := hfinding
  rw [hrests.unexpected, List.mem_map] at hdiagnostic
  obtain ⟨i, hi, rfl⟩ := hdiagnostic
  rw [List.mem_filter, decide_eq_true_eq] at hi
  have hnone : choice k = none := by
    rcases List.mem_append.mp hk with hk | hk
    all_goals exact (of_decide_eq_true (List.mem_filter.mp hk).2).1
  exact hleft k hnone i hi.2.1

end Fixture

end LintCorpus
