import Mathlib.Data.List.Forall2
import LintCorpus.Proofs.Conformance.Serving

/-!
A pass over the findings.  `Run` is `serveAll` as a relation, with one rule for a finding that is
served and one for a finding that is not.  A claim that was made is neither dropped nor moved to
another line (`Run.keeps`), every match holds the claim of its own line at the end, and every claim
of the end was there at the start or belongs to a match (`Run.exists_positions`).
-/

namespace LintCorpus

/-- After serving, every slot is the claimed one or as it was before. -/
theorem Slot.Serves.eq_claim_or_unchanged {finding : Finding} {tolerance index : Nat}
    {slots : List Slot} {slot : Slot} (hserves : Slot.Serves finding tolerance slots index slot)
    {j : Nat} {slot' : Slot}
    (hafter : (slots.set index (slot.claim finding.line))[j]? = some slot') :
    (j = index ∧ slot' = slot.claim finding.line) ∨ (j ≠ index ∧ slots[j]? = some slot') := by
  by_cases hj : j = index
  · subst hj
    have hlt : j < slots.length := (List.getElem?_eq_some_iff.mp hserves.at_index).1
    rw [List.getElem?_set_self hlt, Option.some.injEq] at hafter
    exact Or.inl ⟨rfl, hafter.symm⟩
  · rw [List.getElem?_set_ne (Ne.symm hj)] at hafter
    exact Or.inr ⟨hj, hafter⟩

/-- The slot that was claimed, after it served. -/
theorem Slot.Serves.getElem?_set {finding : Finding} {tolerance index : Nat} {slots : List Slot}
    {slot : Slot} (hserves : Slot.Serves finding tolerance slots index slot) :
    (slots.set index (slot.claim finding.line))[index]? = some (slot.claim finding.line) :=
  List.getElem?_set_self (List.getElem?_eq_some_iff.mp hserves.at_index).1

/-- Claims leave the diagnostics as they are. -/
theorem Slot.Serves.map_diagnostic_set {finding : Finding} {tolerance index : Nat}
    {slots : List Slot} {slot : Slot} (hserves : Slot.Serves finding tolerance slots index slot) :
    (slots.set index (slot.claim finding.line)).map Slot.diagnostic =
      slots.map Slot.diagnostic := by
  have hmap : (slots.map Slot.diagnostic)[index]? = some slot.diagnostic := by
    rw [List.getElem?_map, hserves.at_index, Option.map_some]
  obtain ⟨hlt, hsame⟩ := List.getElem?_eq_some_iff.mp hmap
  rw [List.map_set, Slot.claim_diagnostic, ← hsame, List.set_getElem_self]

/-- `Run tolerance slots findings verdicts slots'` says that serving the findings in order takes
`slots` to `slots'` with these verdicts. -/
inductive Run (tolerance : Nat) :
    List Slot → List Finding → List Verdict → List Slot → Prop where
  | done (slots : List Slot) : Run tolerance slots [] [] slots
  | served {slots slots' : List Slot} {finding : Finding} {rest : List Finding}
      {verdicts : List Verdict} {index : Nat} {slot : Slot}
      (hserves : Slot.Serves finding tolerance slots index slot)
      (hrest : Run tolerance (slots.set index (slot.claim finding.line)) rest verdicts slots') :
      Run tolerance slots (finding :: rest) (⟨finding, some slot.diagnostic⟩ :: verdicts) slots'
  | unserved {slots slots' : List Slot} {finding : Finding} {rest : List Finding}
      {verdicts : List Verdict}
      (hnone : ∀ slot ∈ slots, slot.fits finding tolerance = false)
      (hrest : Run tolerance slots rest verdicts slots') :
      Run tolerance slots (finding :: rest) (⟨finding, none⟩ :: verdicts) slots'

theorem run_serveAll (tolerance : Nat) (slots : List Slot) (findings : List Finding) :
    Run tolerance slots findings (serveAll tolerance slots findings).1
      (serveAll tolerance slots findings).2 := by
  induction findings generalizing slots with
  | nil => exact Run.done slots
  | cons finding rest ih =>
      cases hserve : Slot.serve? finding tolerance slots with
      | none =>
          simp only [serveAll, hserve]
          exact Run.unserved (Slot.serve?_eq_none_iff.mp hserve) (ih slots)
      | some result =>
          obtain ⟨index, slot, hserves, rfl⟩ := Slot.exists_serves_of_serve? hserve
          simp only [serveAll, hserve]
          exact Run.served hserves (ih _)

/-- Serving more findings goes on where the first ones left the slots. -/
theorem serveAll_append (tolerance : Nat) (slots : List Slot) (first second : List Finding) :
    serveAll tolerance slots (first ++ second) =
      ((serveAll tolerance slots first).1 ++
          (serveAll tolerance (serveAll tolerance slots first).2 second).1,
        (serveAll tolerance (serveAll tolerance slots first).2 second).2) := by
  induction first generalizing slots with
  | nil => rfl
  | cons finding first ih =>
      rw [List.cons_append, serveAll, serveAll]
      cases Slot.serve? finding tolerance slots with
      | none => simp [ih]
      | some result => simp [ih]

/-- What no later finding can change about a slot: its diagnostic, and a claim once it is made. -/
structure Slot.Keeps (slot slot' : Slot) : Prop where
  diagnostic : slot'.diagnostic = slot.diagnostic
  claim : ∀ line, slot.claimedBy = some line → slot'.claimedBy = some line

namespace Slot.Keeps

theorem refl (slot : Slot) : Slot.Keeps slot slot :=
  ⟨rfl, fun _ hclaim => hclaim⟩

theorem trans {slot slot' slot'' : Slot} (hfirst : Slot.Keeps slot slot')
    (hsecond : Slot.Keeps slot' slot'') : Slot.Keeps slot slot'' :=
  ⟨hsecond.diagnostic.trans hfirst.diagnostic,
    fun line hclaim => hsecond.claim line (hfirst.claim line hclaim)⟩

theorem of_claim (slot : Slot) (line : Nat) : Slot.Keeps slot (slot.claim line) :=
  ⟨rfl, fun other hclaim => by simp [Slot.claim, hclaim]⟩

end Slot.Keeps

theorem Verdict.match?_eq_some_iff {verdict : Verdict} {entry : Match} :
    verdict.match? = some entry ↔ verdict = ⟨entry.finding, some entry.diagnostic⟩ := by
  rcases verdict with ⟨finding, diagnostic?⟩
  rcases entry with ⟨found, diagnostic⟩
  simp [Verdict.match?, and_comm]

theorem Verdict.missing?_eq_some_iff {verdict : Verdict} {expectation : Expectation}
    {finding : Finding} :
    verdict.missing? expectation = some finding ↔
      verdict = ⟨finding, none⟩ ∧ finding.expectation = expectation := by
  rcases verdict with ⟨found, _ | diagnostic⟩
  · simp only [Verdict.missing?, Option.isNone_none, Bool.true_and, decide_eq_true_eq,
      Option.ite_none_right_eq_some, Option.some.injEq, Verdict.mk.injEq, and_true]
    constructor
    · rintro ⟨hexpectation, rfl⟩
      exact ⟨rfl, hexpectation⟩
    · rintro ⟨rfl, hexpectation⟩
      exact ⟨hexpectation, rfl⟩
  · simp [Verdict.missing?]

namespace Run

variable {tolerance : Nat} {slots slots' : List Slot} {findings : List Finding}
  {verdicts : List Verdict}

theorem map_finding (hrun : Run tolerance slots findings verdicts slots') :
    verdicts.map Verdict.finding = findings := by
  induction hrun with
  | done slots => rfl
  | served hserves hrest ih => simp [ih]
  | unserved hnone hrest ih => simp [ih]

theorem keeps (hrun : Run tolerance slots findings verdicts slots') {i : Nat} {slot : Slot}
    (hat : slots[i]? = some slot) : ∃ slot', slots'[i]? = some slot' ∧ slot.Keeps slot' := by
  induction hrun generalizing slot with
  | done slots => exact ⟨slot, hat, Slot.Keeps.refl slot⟩
  | @served slots _ finding _ _ index claimed hserves hrest ih =>
      by_cases hi : i = index
      · subst hi
        obtain rfl : claimed = slot := Option.some.inj (hserves.at_index.symm.trans hat)
        obtain ⟨slot', hat', hkeeps⟩ := ih hserves.getElem?_set
        exact ⟨slot', hat', (Slot.Keeps.of_claim claimed finding.line).trans hkeeps⟩
      · exact ih (by rwa [List.getElem?_set_ne (Ne.symm hi)])
  | unserved hnone hrest ih => exact ih hat

theorem map_diagnostic (hrun : Run tolerance slots findings verdicts slots') :
    slots'.map Slot.diagnostic = slots.map Slot.diagnostic := by
  induction hrun with
  | done slots => rfl
  | served hserves hrest ih => exact ih.trans hserves.map_diagnostic_set
  | unserved hnone hrest ih => exact ih

/-- A diagnostic serves only a finding that it satisfies. -/
theorem satisfiedBy (hrun : Run tolerance slots findings verdicts slots') :
    ∀ verdict ∈ verdicts, ∀ diagnostic, verdict.diagnostic? = some diagnostic →
      verdict.finding.satisfiedBy tolerance diagnostic = true := by
  induction hrun with
  | done slots => simp
  | served hserves hrest ih =>
      intro verdict hverdict diagnostic hdiagnostic
      rcases List.mem_cons.mp hverdict with rfl | hverdict
      · obtain rfl := Option.some.inj hdiagnostic
        exact hserves.satisfiedBy
      · exact ih verdict hverdict diagnostic hdiagnostic
  | unserved hnone hrest ih =>
      intro verdict hverdict diagnostic hdiagnostic
      rcases List.mem_cons.mp hverdict with rfl | hverdict
      · contradiction
      · exact ih verdict hverdict diagnostic hdiagnostic

/-- A match is of a finding of the pass, with a diagnostic that satisfies it. -/
theorem satisfiedBy_of_mem_matches (hrun : Run tolerance slots findings verdicts slots')
    {entry : Match} (hentry : entry ∈ verdicts.filterMap Verdict.match?) :
    entry.finding ∈ findings ∧ entry.finding.satisfiedBy tolerance entry.diagnostic = true := by
  obtain ⟨verdict, hverdict, hmatch⟩ := List.mem_filterMap.mp hentry
  obtain rfl := Verdict.match?_eq_some_iff.mp hmatch
  refine ⟨?_, hrun.satisfiedBy _ hverdict _ rfl⟩
  rw [← hrun.map_finding]
  exact List.mem_map_of_mem hverdict

/-- What a pass makes of the findings and the slots is determined. -/
theorem unique (hrun : Run tolerance slots findings verdicts slots') {verdicts₂ : List Verdict}
    {slots₂ : List Slot} (hrun₂ : Run tolerance slots findings verdicts₂ slots₂) :
    verdicts = verdicts₂ ∧ slots' = slots₂ := by
  induction hrun generalizing verdicts₂ with
  | done slots =>
      cases hrun₂
      exact ⟨rfl, rfl⟩
  | served hserves hrest ih =>
      cases hrun₂ with
      | served hserves₂ hrest₂ =>
          obtain rfl := hserves.index_unique hserves₂
          obtain rfl := Option.some.inj (hserves.at_index.symm.trans hserves₂.at_index)
          obtain ⟨rfl, rfl⟩ := ih hrest₂
          exact ⟨rfl, rfl⟩
      | unserved hnone₂ hrest₂ =>
          simpa [hserves.fits] using hnone₂ _ (List.mem_of_getElem? hserves.at_index)
  | unserved hnone hrest ih =>
      cases hrun₂ with
      | served hserves₂ hrest₂ =>
          simpa [hserves₂.fits] using hnone _ (List.mem_of_getElem? hserves₂.at_index)
      | unserved hnone₂ hrest₂ =>
          obtain ⟨rfl, rfl⟩ := ih hrest₂
          exact ⟨rfl, rfl⟩

/-- The slot is claimed for the line of the match, and its diagnostic is that of the match. -/
def Holds (slots : List Slot) (entry : Match) (i : Nat) : Prop :=
  ∃ slot, slots[i]? = some slot ∧ slot.diagnostic = entry.diagnostic ∧
    slot.claimedBy = some entry.finding.line

/-- Every match has a position whose claim it holds when the pass is over, and what is claimed at
any other position was claimed before the pass. -/
theorem exists_positions (hrun : Run tolerance slots findings verdicts slots') :
    ∃ positions : List Nat,
      List.Forall₂ (Holds slots') (verdicts.filterMap Verdict.match?) positions ∧
        ∀ i slot', slots'[i]? = some slot' → slot'.claimedBy ≠ none →
          i ∈ positions ∨ slots[i]? = some slot' := by
  induction hrun with
  | done slots => exact ⟨[], List.Forall₂.nil, fun i slot' hat _ => Or.inr hat⟩
  | @served slots slots' finding rest verdicts index slot hserves hrest ih =>
      obtain ⟨positions, hholds, hclaimed⟩ := ih
      obtain ⟨slot', hat', hkeeps⟩ := hrest.keeps hserves.getElem?_set
      refine ⟨index :: positions, List.Forall₂.cons ?_ hholds, ?_⟩
      · exact ⟨slot', hat', hkeeps.diagnostic,
          hkeeps.claim _ (Slot.claim_claimedBy_of_isOpenTo hserves.isOpenTo)⟩
      · intro i other hother hne
        rcases hclaimed i other hother hne with hmem | hbefore
        · exact Or.inl (List.mem_cons_of_mem index hmem)
        · rcases hserves.eq_claim_or_unchanged hbefore with ⟨rfl, -⟩ | ⟨-, hunchanged⟩
          · exact Or.inl List.mem_cons_self
          · exact Or.inr hunchanged
  | unserved hnone hrest ih => exact ih

/-- A claim of the end was there at the start, or a match made it. -/
theorem exists_match_of_claim (hrun : Run tolerance slots findings verdicts slots') {i : Nat}
    {slot' : Slot} (hat' : slots'[i]? = some slot') (hclaimed : slot'.claimedBy ≠ none) :
    slots[i]? = some slot' ∨ ∃ entry ∈ verdicts.filterMap Verdict.match?,
      entry.diagnostic = slot'.diagnostic ∧ slot'.claimedBy = some entry.finding.line := by
  obtain ⟨positions, hholds, hpositions⟩ := hrun.exists_positions
  rcases hpositions i slot' hat' hclaimed with hmem | hbefore
  · obtain ⟨k, hk, rfl⟩ := List.mem_iff_getElem.mp hmem
    have hk' : k < (verdicts.filterMap Verdict.match?).length := hholds.length_eq ▸ hk
    obtain ⟨slot, hat, hdiagnostic, hclaim⟩ := (List.forall₂_iff_get.mp hholds).2 k hk' hk
    obtain rfl : slot' = slot := Option.some.inj (hat'.symm.trans hat)
    exact Or.inr ⟨_, List.getElem_mem hk', hdiagnostic.symm, hclaim⟩
  · exact Or.inl hbefore

end Run

/-- The verdict on a finding comes of the slots as the findings before it leave them. -/
theorem getElem?_serveAll_append (tolerance : Nat) (slots : List Slot) (first second : List Finding)
    (finding : Finding) :
    (serveAll tolerance slots (first ++ finding :: second)).1[first.length]? =
      some ⟨finding, (Slot.serve? finding tolerance
        (serveAll tolerance slots first).2).map Prod.fst⟩ := by
  have hlength : (serveAll tolerance slots first).1.length = first.length := by
    rw [← List.length_map, (run_serveAll tolerance slots first).map_finding]
  rw [serveAll_append, List.getElem?_append_right (Nat.le_of_eq hlength), hlength, Nat.sub_self,
    serveAll]
  cases Slot.serve? finding tolerance (serveAll tolerance slots first).2 <;> rfl

attribute [ext] Report

namespace Fixture

variable (fixture : Fixture) (diagnostics : List Diagnostic) (options : CheckOptions)

/-- The fixture's diagnostics before any finding is served. -/
def slots : List Slot :=
  (fixture.relevant diagnostics).map Slot.unclaimed

/-- What becomes of each finding. -/
def verdicts : List Verdict :=
  (serveAll options.lineTolerance (fixture.slots diagnostics) fixture.findings).1

/-- The fixture's diagnostics with their claims, after all findings were served. -/
def claims : List Slot :=
  (serveAll options.lineTolerance (fixture.slots diagnostics) fixture.findings).2

theorem run_verdicts :
    Run options.lineTolerance (fixture.slots diagnostics) fixture.findings
      (fixture.verdicts diagnostics options) (fixture.claims diagnostics options) :=
  run_serveAll _ _ _

theorem check_matched :
    (fixture.check diagnostics options).matched =
      (fixture.verdicts diagnostics options).filterMap Verdict.match? := rfl

theorem check_missing :
    (fixture.check diagnostics options).missing =
      (fixture.verdicts diagnostics options).filterMap (Verdict.missing? .required) := rfl

theorem check_missingAdvisory :
    (fixture.check diagnostics options).missingAdvisory =
      (fixture.verdicts diagnostics options).filterMap (Verdict.missing? .advisory) := rfl

theorem check_unexpected :
    (fixture.check diagnostics options).unexpected =
      (fixture.claims diagnostics options).filterMap options.unexpected? := rfl

theorem map_diagnostic_slots :
    (fixture.slots diagnostics).map Slot.diagnostic = fixture.relevant diagnostics := by
  rw [slots, List.map_map]
  exact List.map_id _

theorem map_diagnostic_claims :
    (fixture.claims diagnostics options).map Slot.diagnostic = fixture.relevant diagnostics := by
  rw [(run_verdicts fixture diagnostics options).map_diagnostic, map_diagnostic_slots]

/-- The verdicts depend on the tolerance alone. -/
theorem verdicts_congr {options options' : CheckOptions}
    (htolerance : options'.lineTolerance = options.lineTolerance) :
    fixture.verdicts diagnostics options' = fixture.verdicts diagnostics options := by
  rw [verdicts, verdicts, htolerance]

theorem claims_congr {options options' : CheckOptions}
    (htolerance : options'.lineTolerance = options.lineTolerance) :
    fixture.claims diagnostics options' = fixture.claims diagnostics options := by
  rw [claims, claims, htolerance]

variable {fixture diagnostics options}

theorem mem_of_mem_claims {slot : Slot} (hslot : slot ∈ fixture.claims diagnostics options) :
    slot.diagnostic ∈ diagnostics := by
  have hmem : slot.diagnostic ∈ fixture.relevant diagnostics := by
    rw [← fixture.map_diagnostic_claims diagnostics options]
    exact List.mem_map_of_mem hslot
  exact List.mem_of_mem_filter hmem

/-- A slot at the start of a pass holds a diagnostic of the fixture's file, and no claim. -/
theorem mem_slots_iff {slot : Slot} :
    slot ∈ fixture.slots diagnostics ↔
      slot.diagnostic ∈ fixture.relevant diagnostics ∧ slot.claimedBy = none := by
  rw [slots, List.mem_map]
  constructor
  · rintro ⟨diagnostic, hmem, rfl⟩
    exact ⟨hmem, rfl⟩
  · rintro ⟨hmem, hclaim⟩
    exact ⟨slot.diagnostic, hmem, by rw [Slot.unclaimed, ← hclaim]⟩

end Fixture

end LintCorpus
