import Mathlib.Data.List.Dedup
import Mathlib.Data.List.Perm.Subperm
import LintCorpus.Proofs.Conformance.Run

/-!
Reports as assignments.  The matches of a report can be sent to positions of the fixture's
diagnostics so that findings share a position only on one line, and what is unexpected is exactly
what stands at the other positions, notes and ignored diagnostics excepted.
-/

namespace LintCorpus

/-- The diagnostic has checks, and every one of them is covered by an ignored pattern. -/
def CheckOptions.Ignored (options : CheckOptions) (diagnostic : Diagnostic) : Prop :=
  diagnostic.checks ≠ [] ∧ ∀ check ∈ diagnostic.checks,
    ∃ pattern ∈ options.ignoreChecks, Glob.covers pattern check = true

theorem CheckOptions.ignores_iff {options : CheckOptions} {diagnostic : Diagnostic} :
    options.ignores diagnostic = true ↔ options.Ignored diagnostic := by
  simp [CheckOptions.ignores, CheckOptions.Ignored]

instance (options : CheckOptions) (diagnostic : Diagnostic) :
    Decidable (options.Ignored diagnostic) :=
  decidable_of_iff _ CheckOptions.ignores_iff

theorem CheckOptions.unexpected?_eq (options : CheckOptions) (slot : Slot) :
    options.unexpected? slot =
      if slot.claimedBy = none ∧ slot.diagnostic.severity ≠ .note ∧
          ¬ options.Ignored slot.diagnostic then some slot.diagnostic else none := by
  simp [CheckOptions.unexpected?, ← CheckOptions.ignores_iff, and_assoc]

/-- `position` sends each match of the report to a diagnostic of the fixture's file. -/
structure IsAssignment (report : Report) (relevant : List Diagnostic) (options : CheckOptions)
    (position : Fin report.matched.length → Nat) : Prop where
  at_position : ∀ k, relevant[position k]? = some report.matched[k].diagnostic
  within : ∀ k : Fin report.matched.length,
    report.matched[k].finding.line ≤
        report.matched[k].diagnostic.line + options.lineTolerance ∧
      report.matched[k].diagnostic.line ≤
        report.matched[k].finding.line + options.lineTolerance
  covered : ∀ k : Fin report.matched.length, ∃ check ∈ report.matched[k].diagnostic.checks,
    report.matched[k].finding.coversCheck check = true
  /-- Findings that share a diagnostic are on one line. -/
  same_line : ∀ k l, position k = position l →
    report.matched[k].finding.line = report.matched[l].finding.line
  /-- What no match is sent to is unexpected, unless it is a note or ignored. -/
  unexpected : report.unexpected =
    (relevant.zipIdx.filter fun entry =>
      (∀ k, position k ≠ entry.2) ∧ entry.1.severity ≠ .note ∧
        ¬ options.Ignored entry.1).map Prod.fst

/-- The unexpected diagnostics of slots, by the positions that are claimed. -/
theorem filterMap_unexpected? (options : CheckOptions) (claimed : Nat → Prop)
    [DecidablePred claimed] (start : Nat) (slots : List Slot)
    (hclaimed : ∀ i slot, slots[i]? = some slot →
      (slot.claimedBy = none ↔ ¬ claimed (start + i))) :
    slots.filterMap options.unexpected? =
      (((slots.map Slot.diagnostic).zipIdx start).filter fun entry =>
        ¬ claimed entry.2 ∧ entry.1.severity ≠ .note ∧
          ¬ options.Ignored entry.1).map Prod.fst := by
  induction slots generalizing start with
  | nil => rfl
  | cons slot rest ih =>
      have hhead : slot.claimedBy = none ↔ ¬ claimed start := hclaimed 0 slot rfl
      have htail := ih (start + 1) fun i other hother => by
        rw [Nat.add_assoc, Nat.add_comm 1 i]
        exact hclaimed (i + 1) other hother
      rw [List.filterMap_cons, htail, CheckOptions.unexpected?_eq, List.map_cons,
        List.zipIdx_cons, List.filter_cons]
      simp only [hhead]
      by_cases hslot : ¬ claimed start ∧ slot.diagnostic.severity ≠ .note ∧
          ¬ options.Ignored slot.diagnostic
      · simp only [hslot, not_false_eq_true, ne_eq, and_self, ↓reduceIte, decide_true,
          List.map_cons]
      · simp only [hslot, ↓reduceIte, decide_false, Bool.false_eq_true]

/-- Every match of the report rests on a claim, and every claim belongs to a match. -/
theorem Fixture.exists_claimed_positions (fixture : Fixture) (diagnostics : List Diagnostic)
    (options : CheckOptions) :
    ∃ positions : List Nat,
      List.Forall₂ (Run.Holds (fixture.claims diagnostics options))
          (fixture.check diagnostics options).matched positions ∧
        ∀ i slot, (fixture.claims diagnostics options)[i]? = some slot →
          (slot.claimedBy = none ↔ i ∉ positions) := by
  obtain ⟨positions, hholds, hclaimed⟩ :=
    (fixture.run_verdicts diagnostics options).exists_positions
  refine ⟨positions, hholds, fun i slot hat => ⟨?_, ?_⟩⟩
  · intro hnone hmem
    obtain ⟨k, hk, rfl⟩ := List.mem_iff_getElem.mp hmem
    obtain ⟨slot', hat', -, hclaim⟩ :=
      (List.forall₂_iff_get.mp hholds).2 k (hholds.length_eq ▸ hk) hk
    obtain rfl : slot = slot' := Option.some.inj (hat.symm.trans hat')
    simp [hnone] at hclaim
  · intro hmem
    by_contra hne
    rcases hclaimed i slot hat hne with hin | hbefore
    · exact hmem hin
    · exact hne (Fixture.mem_slots_iff.mp (List.mem_of_getElem? hbefore)).2

/-- The distinct lines of the matched findings are at most as many as the fixture's
diagnostics. -/
theorem Fixture.length_dedup_matched_line_le (fixture : Fixture) (diagnostics : List Diagnostic)
    (options : CheckOptions) :
    (((fixture.check diagnostics options).matched.map (·.finding.line)).dedup).length ≤
      (fixture.relevant diagnostics).length := by
  obtain ⟨positions, hholds, -⟩ := fixture.exists_claimed_positions diagnostics options
  have hsub : ((fixture.check diagnostics options).matched.map (·.finding.line)).dedup ⊆
      (fixture.claims diagnostics options).filterMap Slot.claimedBy := by
    intro line hline
    rw [List.mem_dedup, List.mem_map] at hline
    obtain ⟨entry, hentry, rfl⟩ := hline
    obtain ⟨k, hk, rfl⟩ := List.mem_iff_getElem.mp hentry
    obtain ⟨slot, hat, -, hclaim⟩ :=
      (List.forall₂_iff_get.mp hholds).2 k hk (hholds.length_eq ▸ hk)
    exact List.mem_filterMap.mpr ⟨slot, List.mem_of_getElem? hat, hclaim⟩
  calc _ ≤ ((fixture.claims diagnostics options).filterMap Slot.claimedBy).length :=
        (List.subperm_of_subset (List.nodup_dedup _) hsub).length_le
    _ ≤ (fixture.claims diagnostics options).length := List.length_filterMap_le _ _
    _ = (fixture.relevant diagnostics).length := by
        rw [← fixture.map_diagnostic_claims diagnostics options, List.length_map]

/-- Every report is backed by an assignment of its matches to diagnostics of the fixture's file. -/
theorem Fixture.exists_assignment (fixture : Fixture) (diagnostics : List Diagnostic)
    (options : CheckOptions) :
    (∃ position, IsAssignment (fixture.check diagnostics options)
        (fixture.relevant diagnostics) options position) ∧
      (((fixture.check diagnostics options).matched.map (·.finding.line)).dedup).length ≤
        (fixture.relevant diagnostics).length := by
  refine ⟨?_, fixture.length_dedup_matched_line_le diagnostics options⟩
  obtain ⟨positions, hholds, hclaimed⟩ := fixture.exists_claimed_positions diagnostics options
  have hlength := hholds.length_eq
  have hget := (List.forall₂_iff_get.mp hholds).2
  have hsat : ∀ entry ∈ (fixture.check diagnostics options).matched,
      entry.finding.satisfiedBy options.lineTolerance entry.diagnostic = true :=
    fun entry hentry =>
      ((fixture.run_verdicts diagnostics options).satisfiedBy_of_mem_matches hentry).2
  refine ⟨fun k => positions.get (k.cast hlength), ?_, ?_, ?_, ?_, ?_⟩
  · intro k
    obtain ⟨slot, hat, hdiagnostic, -⟩ := hget k.val k.isLt (hlength ▸ k.isLt)
    rw [← fixture.map_diagnostic_claims diagnostics options, List.getElem?_map]
    simpa [hdiagnostic] using congrArg (Option.map Slot.diagnostic) hat
  · intro k
    exact lineDistance_le_iff.mp
      (Finding.satisfiedBy_iff.mp (hsat _ (List.getElem_mem k.isLt))).1
  · intro k
    exact (Finding.satisfiedBy_iff.mp (hsat _ (List.getElem_mem k.isLt))).2
  · intro k l heq
    obtain ⟨slot, hat, -, hclaim⟩ := hget k.val k.isLt (hlength ▸ k.isLt)
    obtain ⟨slot', hat', -, hclaim'⟩ := hget l.val l.isLt (hlength ▸ l.isLt)
    have hsame : some slot = some slot' := hat.symm.trans ((congrArg _ heq).trans hat')
    obtain rfl := Option.some.inj hsame
    exact Option.some.inj (hclaim.symm.trans hclaim')
  · have hmem : ∀ i, i ∉ positions ↔ ∀ k, positions.get (Fin.cast hlength k) ≠ i := by
      intro i
      rw [List.mem_iff_get, not_exists]
      constructor
      · intro hnone k
        exact hnone (k.cast hlength)
      · intro hnone k
        exact hnone (k.cast hlength.symm)
    rw [Fixture.check_unexpected, filterMap_unexpected? options (· ∈ positions) 0,
      Fixture.map_diagnostic_claims]
    · simp only [hmem]
    · intro i slot hat
      rw [Nat.zero_add]
      exact hclaimed i slot hat

end LintCorpus
