import LintCorpus.Proofs.Conformance.Assignment
import LintCorpus.Proofs.Conformance.Closest

/-!
Unexpected diagnostics at tolerance zero.  Each finding claims the first diagnostic that satisfies
it and no other (`Fixture.mem_unexpected_iff_of_exact`).  A second diagnostic that satisfies the
finding just as well is therefore unexpected, unless it comes first for another finding.
`Fixture.unexpected_unsatisfying_iff` says when this does not happen, and `RepeatedWitness` shows
that it does.
-/

namespace LintCorpus

/-- Among free diagnostics, the one at `i` serves the finding. -/
def Finding.ServedAt (finding : Finding) (tolerance : Nat) (diagnostics : List Diagnostic)
    (i : Nat) : Prop :=
  ∃ slot, Slot.Serves finding tolerance (diagnostics.map Slot.unclaimed) i slot

/-- The diagnostic at `i` satisfies the finding on its own line, and none before it does. -/
structure Finding.FirstAt (finding : Finding) (diagnostics : List Diagnostic) (i : Nat) : Prop where
  satisfied : ∃ diagnostic, diagnostics[i]? = some diagnostic ∧
    finding.satisfiedBy 0 diagnostic = true
  unsatisfied_before : ∀ j < i, ∀ diagnostic, diagnostics[j]? = some diagnostic →
    finding.satisfiedBy 0 diagnostic = false

theorem getElem?_map_unclaimed_eq_some_iff {diagnostics : List Diagnostic} {i : Nat}
    {slot : Slot} : (diagnostics.map Slot.unclaimed)[i]? = some slot ↔
      ∃ diagnostic, diagnostics[i]? = some diagnostic ∧ Slot.unclaimed diagnostic = slot := by
  rw [List.getElem?_map, Option.map_eq_some_iff]

theorem Slot.distance_eq_zero {finding : Finding} {slot : Slot}
    (hfits : slot.fits finding 0 = true) : slot.distance finding = 0 :=
  Nat.le_zero.mp (Finding.satisfiedBy_iff.mp (Slot.fits_iff.mp hfits).2).1

/-- At tolerance zero all that satisfies a finding is equally close, so the first serves it. -/
theorem Finding.servedAt_zero_iff {finding : Finding} {diagnostics : List Diagnostic} {i : Nat} :
    finding.ServedAt 0 diagnostics i ↔ finding.FirstAt diagnostics i := by
  constructor
  · rintro ⟨slot, hserves⟩
    obtain ⟨diagnostic, hat, rfl⟩ := getElem?_map_unclaimed_eq_some_iff.mp hserves.at_index
    refine ⟨⟨diagnostic, hat, hserves.satisfiedBy⟩, ?_⟩
    intro j hj other hother
    by_contra hsat
    rw [Bool.not_eq_false, ← Slot.fits_unclaimed] at hsat
    have hat' := getElem?_map_unclaimed_eq_some_iff.mpr ⟨other, hother, rfl⟩
    have hsame := (Slot.distance_eq_zero hsat).trans (Slot.distance_eq_zero hserves.fits).symm
    exact absurd hj (Nat.not_lt.mpr (hserves.first j _ hat' hsat hsame))
  · rintro ⟨⟨diagnostic, hat, hsat⟩, hbefore⟩
    rw [← Slot.fits_unclaimed] at hsat
    refine ⟨Slot.unclaimed diagnostic,
      getElem?_map_unclaimed_eq_some_iff.mpr ⟨diagnostic, hat, rfl⟩, hsat, ?_, ?_⟩
    · intro j other hother hfits
      rw [Slot.distance_eq_zero hsat]
      exact Nat.zero_le _
    · intro j other hother hfits _
      obtain ⟨before, hbeforeAt, rfl⟩ := getElem?_map_unclaimed_eq_some_iff.mp hother
      apply Nat.le_of_not_lt
      intro hj
      rw [Slot.fits_unclaimed, hbefore j hj before hbeforeAt] at hfits
      contradiction

/-- After serving, the slots that are claimed are those that were, and the one that served. -/
theorem Slot.Serves.claimed_iff {finding : Finding} {tolerance index : Nat} {slots : List Slot}
    {slot : Slot} (hserves : Slot.Serves finding tolerance slots index slot) {i : Nat} :
    (∃ after, (slots.set index (slot.claim finding.line))[i]? = some after ∧
        after.claimedBy ≠ none) ↔
      i = index ∨ ∃ before, slots[i]? = some before ∧ before.claimedBy ≠ none := by
  constructor
  · rintro ⟨after, hat, hne⟩
    rcases hserves.eq_claim_or_unchanged hat with ⟨hi, -⟩ | ⟨-, hunchanged⟩
    · exact Or.inl hi
    · exact Or.inr ⟨after, hunchanged, hne⟩
  · intro hclaimed
    by_cases hi : i = index
    · subst hi
      refine ⟨_, hserves.getElem?_set, ?_⟩
      simp [Slot.claim_claimedBy_of_isOpenTo hserves.isOpenTo]
    · rw [List.getElem?_set_ne (Ne.symm hi)]
      exact hclaimed.resolve_left hi

namespace ClaimedNearby

variable {tolerance : Nat} {findings : List Finding} {slots : List Slot} {finding : Finding}

/-- What serves the finding is what would serve it if nothing were claimed. -/
theorem servedAt_iff (hclaimed : ClaimedNearby tolerance findings slots)
    (hapart : Apart tolerance findings) (hfinding : finding ∈ findings) {index : Nat} {slot : Slot}
    (hserves : Slot.Serves finding tolerance slots index slot) {i : Nat} :
    finding.ServedAt tolerance (slots.map Slot.diagnostic) i ↔ i = index := by
  have halone := hclaimed.serves_unclaimed hapart hfinding hserves
  constructor
  · rintro ⟨free, hfree⟩
    exact hfree.index_unique halone
  · rintro rfl
    exact ⟨_, halone⟩

/-- If nothing serves the finding, nothing would if no slot were claimed. -/
theorem not_servedAt (hclaimed : ClaimedNearby tolerance findings slots)
    (hapart : Apart tolerance findings) (hfinding : finding ∈ findings)
    (hnone : ∀ slot ∈ slots, slot.fits finding tolerance = false) (i : Nat) :
    ¬ finding.ServedAt tolerance (slots.map Slot.diagnostic) i := by
  rintro ⟨free, hfree⟩
  obtain ⟨diagnostic, hdiagnostic, rfl⟩ := getElem?_map_unclaimed_eq_some_iff.mp hfree.at_index
  rw [List.getElem?_map, Option.map_eq_some_iff] at hdiagnostic
  obtain ⟨slot, hat, rfl⟩ := hdiagnostic
  have hmem := List.mem_of_getElem? hat
  have hfits := (hclaimed.fits_iff hapart hfinding hmem).mpr hfree.satisfiedBy
  simp [hnone slot hmem] at hfits

end ClaimedNearby

/-- When a pass over findings that are apart is over, a slot is claimed if it was before or if it
serves some finding by itself. -/
theorem Run.claimed_iff_of_apart {tolerance : Nat} {slots slots' : List Slot}
    {findings all : List Finding} {verdicts : List Verdict}
    (hrun : Run tolerance slots findings verdicts slots') (hapart : Apart tolerance all)
    (hall : findings ⊆ all) (hclaimed : ClaimedNearby tolerance all slots) (i : Nat) :
    (∃ after, slots'[i]? = some after ∧ after.claimedBy ≠ none) ↔
      (∃ before, slots[i]? = some before ∧ before.claimedBy ≠ none) ∨
        ∃ finding ∈ findings, finding.ServedAt tolerance (slots.map Slot.diagnostic) i := by
  induction hrun with
  | done slots => simp
  | @served slots _ finding rest _ index slot hserves hrest ih =>
      obtain ⟨hfinding, hall⟩ := List.cons_subset.mp hall
      rw [ih hall (hclaimed.serves hfinding hserves), hserves.claimed_iff,
        hserves.map_diagnostic_set, List.exists_mem_cons_iff,
        hclaimed.servedAt_iff hapart hfinding hserves, or_left_comm, or_assoc]
  | @unserved slots _ finding rest _ hnone hrest ih =>
      obtain ⟨hfinding, hall⟩ := List.cons_subset.mp hall
      rw [ih hall hclaimed, List.exists_mem_cons_iff,
        or_iff_right (hclaimed.not_servedAt hapart hfinding hnone i)]

/-- The diagnostic is neither a note nor ignored, so it is unexpected if nothing claims it. -/
def CheckOptions.Counts (options : CheckOptions) (diagnostic : Diagnostic) : Prop :=
  diagnostic.severity ≠ .note ∧ ¬ options.Ignored diagnostic

namespace Fixture

variable {fixture : Fixture} {diagnostics diagnostics' : List Diagnostic} {options : CheckOptions}

theorem getElem?_relevant_eq_some_iff (options : CheckOptions) {i : Nat} {diagnostic : Diagnostic} :
    (fixture.relevant diagnostics)[i]? = some diagnostic ↔
      ∃ slot, (fixture.claims diagnostics options)[i]? = some slot ∧
        slot.diagnostic = diagnostic := by
  rw [← fixture.map_diagnostic_claims diagnostics options, List.getElem?_map,
    Option.map_eq_some_iff]

/-- At tolerance zero the diagnostics that stay unclaimed are those that come first for no
finding. -/
theorem claimedBy_eq_none_iff_of_exact (hexact : options.lineTolerance = 0) {i : Nat} {slot : Slot}
    (hat : (fixture.claims diagnostics options)[i]? = some slot) :
    slot.claimedBy = none ↔
      ∀ finding ∈ fixture.findings, ¬ finding.FirstAt (fixture.relevant diagnostics) i := by
  have hapart : Apart options.lineTolerance fixture.findings :=
    hexact ▸ apart_zero fixture.findings
  have hclaimed := (fixture.run_verdicts diagnostics options).claimed_iff_of_apart hapart
    (List.Subset.refl fixture.findings)
    (claimedNearby_slots options.lineTolerance fixture.findings) i
  have hfree : ¬ ∃ before, (fixture.slots diagnostics)[i]? = some before ∧
      before.claimedBy ≠ none := by
    rintro ⟨before, hbefore, hne⟩
    exact hne (mem_slots_iff.mp (List.mem_of_getElem? hbefore)).2
  rw [or_iff_right hfree, map_diagnostic_slots, hexact] at hclaimed
  simp only [Finding.servedAt_zero_iff, hat, Option.some.injEq, exists_eq_left'] at hclaimed
  rw [← not_iff_not, ← Ne, hclaimed]
  simp only [not_forall, not_not, exists_prop]

/-- At tolerance zero the unexpected diagnostics are those that come first for no finding. -/
theorem mem_unexpected_iff_of_exact (hexact : options.lineTolerance = 0)
    {diagnostic : Diagnostic} :
    diagnostic ∈ (fixture.check diagnostics options).unexpected ↔
      ∃ i, (fixture.relevant diagnostics)[i]? = some diagnostic ∧
        (∀ finding ∈ fixture.findings, ¬ finding.FirstAt (fixture.relevant diagnostics) i) ∧
          options.Counts diagnostic := by
  simp only [check_unexpected, List.mem_filterMap, CheckOptions.unexpected?_eq,
    Option.ite_none_right_eq_some, Option.some.injEq, getElem?_relevant_eq_some_iff options]
  constructor
  · rintro ⟨slot, hslot, ⟨hnone, hcounts⟩, rfl⟩
    obtain ⟨i, hat⟩ := List.mem_iff_getElem?.mp hslot
    exact ⟨i, ⟨slot, hat, rfl⟩, (claimedBy_eq_none_iff_of_exact hexact hat).mp hnone, hcounts⟩
  · rintro ⟨i, ⟨slot, hat, rfl⟩, hfirst, hcounts⟩
    exact ⟨slot, List.mem_of_getElem? hat,
      ⟨(claimedBy_eq_none_iff_of_exact hexact hat).mpr hfirst, hcounts⟩, rfl⟩

/-- Of the diagnostics that count, each one that satisfies a finding is the first to satisfy some
finding. -/
def EachIsFirst (fixture : Fixture) (diagnostics : List Diagnostic) (options : CheckOptions) :
    Prop :=
  ∀ i diagnostic, (fixture.relevant diagnostics)[i]? = some diagnostic →
    options.Counts diagnostic →
    (∃ finding ∈ fixture.findings, finding.satisfiedBy 0 diagnostic = true) →
      ∃ finding ∈ fixture.findings, finding.FirstAt (fixture.relevant diagnostics) i

/-- No unexpected diagnostic satisfies a finding exactly when each that does is the first. -/
theorem unexpected_unsatisfying_iff_eachIsFirst (hexact : options.lineTolerance = 0) :
    (∀ diagnostic ∈ (fixture.check diagnostics options).unexpected,
        ∀ finding ∈ fixture.findings, finding.satisfiedBy 0 diagnostic = false) ↔
      fixture.EachIsFirst diagnostics options := by
  simp only [mem_unexpected_iff_of_exact hexact]
  constructor
  · intro hunsatisfying i diagnostic hat hcounts hsat
    by_contra hnone
    obtain ⟨finding, hfinding, hsat⟩ := hsat
    have hfirst : ∀ finding ∈ fixture.findings,
        ¬ finding.FirstAt (fixture.relevant diagnostics) i := by
      intro other hother hfirst
      exact hnone ⟨other, hother, hfirst⟩
    have hfalse := hunsatisfying diagnostic ⟨i, hat, hfirst, hcounts⟩ finding hfinding
    rw [hsat] at hfalse
    contradiction
  · rintro heach diagnostic ⟨i, hat, hnone, hcounts⟩ finding hfinding
    by_contra hsat
    rw [Bool.not_eq_false] at hsat
    obtain ⟨other, hother, hfirst⟩ := heach i diagnostic hat hcounts ⟨finding, hfinding, hsat⟩
    exact hnone other hother hfirst

/-- Where each diagnostic that satisfies a finding is a first one, the unexpected ones are those
that satisfy none. -/
theorem mem_unexpected_iff_of_eachIsFirst (hexact : options.lineTolerance = 0)
    (heach : fixture.EachIsFirst diagnostics options) {diagnostic : Diagnostic} :
    diagnostic ∈ (fixture.check diagnostics options).unexpected ↔
      diagnostic ∈ fixture.relevant diagnostics ∧ options.Counts diagnostic ∧
        ∀ finding ∈ fixture.findings, finding.satisfiedBy 0 diagnostic = false := by
  constructor
  · intro hmem
    refine ⟨?_, ?_, (unexpected_unsatisfying_iff_eachIsFirst hexact).mpr heach diagnostic hmem⟩
    all_goals obtain ⟨i, hat, -, hcounts⟩ := (mem_unexpected_iff_of_exact hexact).mp hmem
    · exact List.mem_of_getElem? hat
    · exact hcounts
  · rintro ⟨hmem, hcounts, hunsatisfied⟩
    obtain ⟨i, hat⟩ := List.mem_iff_getElem?.mp hmem
    refine (mem_unexpected_iff_of_exact hexact).mpr ⟨i, hat, ?_, hcounts⟩
    rintro finding hfinding ⟨⟨other, hother, hsat⟩, -⟩
    obtain rfl := Option.some.inj (hat.symm.trans hother)
    rw [hunsatisfied finding hfinding] at hsat
    contradiction

theorem unexpected_eq_nil_congr (hexact : options.lineTolerance = 0)
    (hsame : ∀ diagnostic, diagnostic ∈ diagnostics' ↔ diagnostic ∈ diagnostics)
    (heach : fixture.EachIsFirst diagnostics options)
    (heach' : fixture.EachIsFirst diagnostics' options) :
    (fixture.check diagnostics' options).unexpected = [] ↔
      (fixture.check diagnostics options).unexpected = [] := by
  simp only [List.eq_nil_iff_forall_not_mem, mem_unexpected_iff_of_eachIsFirst hexact heach,
    mem_unexpected_iff_of_eachIsFirst hexact heach', relevant, List.mem_filter, hsame]

/-- At tolerance zero no unexpected diagnostic satisfies a finding exactly when each diagnostic that
satisfies one is the first to satisfy some finding.  Between lists of which this holds the verdict
does not depend on the order and the number of the diagnostics. -/
theorem unexpected_unsatisfying_iff (hexact : options.lineTolerance = 0) :
    ((∀ diagnostic ∈ (fixture.check diagnostics options).unexpected,
        ∀ finding ∈ fixture.findings, finding.satisfiedBy 0 diagnostic = false) ↔
      fixture.EachIsFirst diagnostics options) ∧
    ∀ diagnostics', (∀ diagnostic, diagnostic ∈ diagnostics' ↔ diagnostic ∈ diagnostics) →
      fixture.EachIsFirst diagnostics options → fixture.EachIsFirst diagnostics' options →
        (fixture.check diagnostics' options).ok = (fixture.check diagnostics options).ok := by
  refine ⟨unexpected_unsatisfying_iff_eachIsFirst hexact, ?_⟩
  intro diagnostics' hsame heach heach'
  have hapart : Apart options.lineTolerance fixture.findings :=
    hexact ▸ apart_zero fixture.findings
  have hmissing : (fixture.check diagnostics' options).missing =
      (fixture.check diagnostics options).missing :=
    filterMap_missing?_congr_of_apart hapart hsame .required
  rw [Bool.eq_iff_iff, check_ok_iff, check_ok_iff, hmissing,
    unexpected_eq_nil_congr hexact hsame heach heach']

end Fixture

namespace RepeatedWitness

/-- A finding about a line that declares three variables, and another one on the same line. -/
def fixture : Fixture where
  name := "style"
  fileName := "style.cpp"
  summary := ""
  categories := [.clangDiagnostic, .readability]
  findings := [
    .required "clang-diagnostic-unused-variable" .clangDiagnostic 1 "int a,b,c;"
      "a, b and c are declared but never used",
    .required "readability-isolate-declaration" .readability 1 "int a,b,c;"
      "multiple declarations in a single statement"]
  waivers := []
  source := "int a,b,c;\n"

/-- The diagnostic about one of the variables, which stands at the column. -/
def unused (column : Nat) (message : String) : Diagnostic :=
  ⟨"style.cpp", 1, column, .warning, message, ["clang-diagnostic-unused-variable"]⟩

def joined : Diagnostic :=
  ⟨"style.cpp", 1, 1, .warning, "multiple declarations", ["readability-isolate-declaration"]⟩

/-- Exact lines, in strict mode. -/
def options : CheckOptions := ⟨0, [], true⟩

/-- With one diagnostic for each finding the order makes no difference. -/
theorem check_ok_of_reverse :
    options.lineTolerance = 0 ∧
      (∀ diagnostic, diagnostic ∈ [joined, unused 5 "unused variable 'a'"] ↔
        diagnostic ∈ [unused 5 "unused variable 'a'", joined]) ∧
      fixture.EachIsFirst [unused 5 "unused variable 'a'", joined] options ∧
      fixture.EachIsFirst [joined, unused 5 "unused variable 'a'"] options ∧
      (fixture.check [joined, unused 5 "unused variable 'a'"] options).ok =
        (fixture.check [unused 5 "unused variable 'a'", joined] options).ok := by
  have hsame : ∀ diagnostic, diagnostic ∈ [joined, unused 5 "unused variable 'a'"] ↔
      diagnostic ∈ [unused 5 "unused variable 'a'", joined] := by
    simp [or_comm]
  have hforward : (fixture.check [unused 5 "unused variable 'a'", joined] options).unexpected =
      [] := by
    decide +kernel
  have hbackward : (fixture.check [joined, unused 5 "unused variable 'a'"] options).unexpected =
      [] := by
    decide +kernel
  have hexact : options.lineTolerance = 0 := rfl
  have heach : fixture.EachIsFirst [unused 5 "unused variable 'a'", joined] options := by
    apply (Fixture.unexpected_unsatisfying_iff hexact).1.mp
    rw [hforward]
    exact fun _ hmem => absurd hmem List.not_mem_nil
  have heach' : fixture.EachIsFirst [joined, unused 5 "unused variable 'a'"] options := by
    apply (Fixture.unexpected_unsatisfying_iff hexact).1.mp
    rw [hbackward]
    exact fun _ hmem => absurd hmem List.not_mem_nil
  exact ⟨hexact, hsame, heach, heach',
    (Fixture.unexpected_unsatisfying_iff hexact).2 _ hsame heach heach'⟩

/-- The finding is about all three variables, but only the first diagnostic counts for it. -/
theorem not_unexpected_unsatisfying :
    ¬ ∀ (fixture : Fixture) (diagnostics : List Diagnostic) (options : CheckOptions),
      options.lineTolerance = 0 →
        ∀ diagnostic ∈ (fixture.check diagnostics options).unexpected,
          ∀ finding ∈ fixture.findings, finding.satisfiedBy 0 diagnostic = false := by
  intro hall
  have hmem : unused 7 "unused variable 'b'" ∈ (fixture.check
      [unused 5 "unused variable 'a'", unused 7 "unused variable 'b'",
        unused 9 "unused variable 'c'", joined] options).unexpected := by
    decide +kernel
  have hsat := hall fixture _ options rfl _ hmem _ List.mem_cons_self
  revert hsat
  decide +kernel

end RepeatedWitness

end LintCorpus
