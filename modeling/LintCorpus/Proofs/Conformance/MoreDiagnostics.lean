import Mathlib.Data.List.NodupEquivFin
import LintCorpus.Proofs.Conformance.Coverage

/-!
More diagnostics.  When the findings are ordered by line, diagnostics that are added anywhere never
lose a finding.

Two passes are compared, one over the slots of a list of diagnostics and one over those of a longer
list.  An added diagnostic may take a finding away from another diagnostic, which then serves a
later finding, and so on; what carries the comparison through such a chain is `StaysOpen`: a slot
that is open to the present line or a later one in the first pass is so in the second.
-/

namespace LintCorpus

/-- `place` sends the slots of one pass to slots of another with the same diagnostics, in order.
Those that are open to `line` or to a later line are open to it in the other pass as well. -/
structure StaysOpen (place : ℕ ↪o ℕ) (line : Nat) (slots more : List Slot) : Prop where
  counterpart : ∀ i slot, slots[i]? = some slot →
    ∃ slot', more[place i]? = some slot' ∧ slot'.diagnostic = slot.diagnostic ∧
      ∀ later, line ≤ later → slot.isOpenTo later = true → slot'.isOpenTo later = true
  /-- No later line has claimed anything yet. -/
  claimed_le : ∀ slot ∈ slots, ∀ claimant, slot.claimedBy = some claimant → claimant ≤ line

namespace StaysOpen

variable {place : ℕ ↪o ℕ} {line tolerance : Nat} {slots more : List Slot} {finding : Finding}

theorem mono (hopen : StaysOpen place line slots more) {later : Nat} (hle : line ≤ later) :
    StaysOpen place later slots more := by
  constructor
  · intro i slot hat
    obtain ⟨slot', hat', hdiagnostic, hstays⟩ := hopen.counterpart i slot hat
    exact ⟨slot', hat', hdiagnostic,
      fun latest hlatest => hstays latest (Nat.le_trans hle hlatest)⟩
  · intro slot hmem claimant hclaim
    exact Nat.le_trans (hopen.claimed_le slot hmem claimant hclaim) hle

/-- What fits in the first pass fits in the second, at the same distance. -/
theorem exists_fits (hopen : StaysOpen place finding.line slots more) {i : Nat} {slot : Slot}
    (hat : slots[i]? = some slot) (hfits : slot.fits finding tolerance = true) :
    ∃ slot', more[place i]? = some slot' ∧ slot'.fits finding tolerance = true ∧
      slot'.distance finding = slot.distance finding := by
  obtain ⟨slot', hat', hdiagnostic, hstays⟩ := hopen.counterpart i slot hat
  rw [Slot.fits_iff] at hfits
  refine ⟨slot', hat', ?_, ?_⟩
  · rw [Slot.fits_iff, hdiagnostic]
    exact ⟨hstays _ (Nat.le_refl _) hfits.1, hfits.2⟩
  · rw [Slot.distance, hdiagnostic, Slot.distance]

/-- The choice of the second pass, where the first pass has it open, is the choice of the first. -/
theorem serves_of_serves (hopen : StaysOpen place finding.line slots more) {i : Nat}
    {slot slot' : Slot} (hserves : Slot.Serves finding tolerance more (place i) slot')
    (hat : slots[i]? = some slot) (hslot : slot.isOpenTo finding.line = true) :
    Slot.Serves finding tolerance slots i slot := by
  obtain ⟨counterpart, hat', hdiagnostic, -⟩ := hopen.counterpart i slot hat
  obtain rfl : counterpart = slot' := Option.some.inj (hat'.symm.trans hserves.at_index)
  have hdistance : counterpart.distance finding = slot.distance finding := by
    rw [Slot.distance, hdiagnostic, Slot.distance]
  refine ⟨hat, Slot.fits_iff.mpr ⟨hslot, hdiagnostic ▸ hserves.satisfiedBy⟩, ?_, ?_⟩
  · intro j other hother hfits
    obtain ⟨other', hother', hfits', hdistance'⟩ := hopen.exists_fits hother hfits
    rw [← hdistance, ← hdistance']
    exact hserves.closest (place j) other' hother' hfits'
  · intro j other hother hfits heq
    obtain ⟨other', hother', hfits', hdistance'⟩ := hopen.exists_fits hother hfits
    have hle := hserves.first (place j) other' hother' hfits'
      (hdistance'.trans (heq.trans hdistance.symm))
    exact place.le_iff_le.mp hle

/-- A claim in the first pass keeps the relation. -/
theorem claim_left (hopen : StaysOpen place finding.line slots more) {index : Nat} {slot : Slot}
    (hserves : Slot.Serves finding tolerance slots index slot) :
    StaysOpen place finding.line (slots.set index (slot.claim finding.line)) more := by
  constructor
  · intro i other hother
    rcases hserves.eq_claim_or_unchanged hother with ⟨rfl, rfl⟩ | ⟨-, hunchanged⟩
    · obtain ⟨slot', hat', hdiagnostic, hstays⟩ := hopen.counterpart i slot hserves.at_index
      exact ⟨slot', hat', hdiagnostic, fun later hle hlater =>
        hstays later hle (Slot.isOpenTo_of_claim hserves.isOpenTo hlater)⟩
    · exact hopen.counterpart i other hunchanged
  · intro other hmem claimant hclaim
    obtain ⟨i, hother⟩ := List.mem_iff_getElem?.mp hmem
    rcases hserves.eq_claim_or_unchanged hother with ⟨-, rfl⟩ | ⟨-, hunchanged⟩
    · rw [Slot.claim_claimedBy_of_isOpenTo hserves.isOpenTo, Option.some.injEq] at hclaim
      exact Nat.le_of_eq hclaim.symm
    · exact hopen.claimed_le other (List.mem_of_getElem? hunchanged) claimant hclaim

/-- A claim in the second pass keeps the relation if the first pass has claimed the slot, too. -/
theorem claim_right (hopen : StaysOpen place finding.line slots more) {index : Nat}
    {slot' : Slot} (hserves : Slot.Serves finding tolerance more index slot')
    (hclaimed : ∀ i slot, place i = index → slots[i]? = some slot → slot.claimedBy ≠ none) :
    StaysOpen place finding.line slots (more.set index (slot'.claim finding.line)) := by
  refine ⟨?_, hopen.claimed_le⟩
  intro i slot hat
  obtain ⟨counterpart, hat', hdiagnostic, hstays⟩ := hopen.counterpart i slot hat
  by_cases hi : place i = index
  · subst hi
    obtain rfl : counterpart = slot' := Option.some.inj (hat'.symm.trans hserves.at_index)
    refine ⟨counterpart.claim finding.line, hserves.getElem?_set, hdiagnostic, ?_⟩
    intro later hle hlater
    -- The line that claimed the slot first is not later than this one, so `later` is this one.
    obtain ⟨claimant, hclaim⟩ := Option.ne_none_iff_exists'.mp (hclaimed i slot rfl hat)
    have hbound := hopen.claimed_le slot (List.mem_of_getElem? hat) claimant hclaim
    have hsame := Slot.isOpenTo_iff.mp hlater claimant hclaim
    rw [Slot.isOpenTo_iff, Slot.claim_claimedBy_of_isOpenTo hserves.isOpenTo]
    rintro _ ⟨⟩
    omega
  · exact ⟨counterpart, by rwa [List.getElem?_set_ne (Ne.symm hi)], hdiagnostic, hstays⟩

/-- Both passes serve the finding. -/
theorem served (hopen : StaysOpen place finding.line slots more) {index index' : Nat}
    {slot slot' : Slot} (hserves : Slot.Serves finding tolerance slots index slot)
    (hserves' : Slot.Serves finding tolerance more index' slot') :
    StaysOpen place finding.line (slots.set index (slot.claim finding.line))
      (more.set index' (slot'.claim finding.line)) := by
  apply (hopen.claim_left hserves).claim_right hserves'
  rintro i other rfl hother hnone
  rcases hserves.eq_claim_or_unchanged hother with ⟨-, rfl⟩ | ⟨hne, hunchanged⟩
  · simp [Slot.claim_claimedBy_of_isOpenTo hserves.isOpenTo] at hnone
  · have hother' := hopen.serves_of_serves hserves' hunchanged (by simp [Slot.isOpenTo, hnone])
    exact hne (hother'.index_unique hserves)

/-- Only the second pass serves the finding. -/
theorem unserved (hopen : StaysOpen place finding.line slots more)
    (hnone : ∀ slot ∈ slots, slot.fits finding tolerance = false) {index : Nat} {slot' : Slot}
    (hserves : Slot.Serves finding tolerance more index slot') :
    StaysOpen place finding.line slots (more.set index (slot'.claim finding.line)) := by
  apply hopen.claim_right hserves
  rintro i slot rfl hat hclaim
  have hslot := hopen.serves_of_serves hserves hat (by simp [Slot.isOpenTo, hclaim])
  simpa [hslot.fits] using hnone slot (List.mem_of_getElem? hat)

end StaysOpen

/-- Every finding that the first pass serves is served by the second. -/
theorem Run.improves_of_staysOpen {place : ℕ ↪o ℕ} {tolerance : Nat} {slots slots' : List Slot}
    {findings : List Finding} {verdicts : List Verdict}
    (hrun : Run tolerance slots findings verdicts slots') {line : Nat}
    {more more' : List Slot} {verdicts' : List Verdict}
    (hsorted : findings.Pairwise fun first second => first.line ≤ second.line)
    (hline : ∀ finding ∈ findings, line ≤ finding.line)
    (hopen : StaysOpen place line slots more)
    (hmore : Run tolerance more findings verdicts' more') :
    List.Forall₂ Verdict.Improves verdicts verdicts' := by
  induction hrun generalizing line more verdicts' with
  | done slots =>
      cases hmore
      exact List.Forall₂.nil
  | @served slots _ finding rest _ index slot hserves hrest ih =>
      rw [List.pairwise_cons] at hsorted
      have hopen := hopen.mono (hline finding List.mem_cons_self)
      cases hmore with
      | served hserves' hrest' =>
          refine List.Forall₂.cons ⟨rfl, fun _ => by simp⟩ ?_
          exact ih hsorted.2 hsorted.1 (hopen.served hserves hserves') hrest'
      | unserved hnone hrest' =>
          obtain ⟨slot', hat', hfits, -⟩ := hopen.exists_fits hserves.at_index hserves.fits
          simpa [hfits] using hnone slot' (List.mem_of_getElem? hat')
  | @unserved slots _ finding rest _ hnone hrest ih =>
      rw [List.pairwise_cons] at hsorted
      have hopen := hopen.mono (hline finding List.mem_cons_self)
      cases hmore with
      | served hserves' hrest' =>
          refine List.Forall₂.cons ⟨rfl, fun h => absurd rfl h⟩ ?_
          exact ih hsorted.2 hsorted.1 (hopen.unserved hnone hserves') hrest'
      | unserved hnone' hrest' =>
          exact List.Forall₂.cons ⟨rfl, id⟩ (ih hsorted.2 hsorted.1 hopen hrest')

namespace Fixture

variable (fixture : Fixture) {fewer more : List Diagnostic}

/-- Before any finding is served, all that is there stays there. -/
theorem exists_staysOpen (hsub : fewer.Sublist more) :
    ∃ place, StaysOpen place 0 (fixture.slots fewer) (fixture.slots more) := by
  have hslots : (fixture.slots fewer).Sublist (fixture.slots more) :=
    (hsub.filter _).map _
  obtain ⟨place, hplace⟩ := List.sublist_iff_exists_orderEmbedding_getElem?_eq.mp hslots
  refine ⟨place, ?_, ?_⟩
  · intro i slot hat
    exact ⟨slot, (hplace i).symm.trans hat, rfl, fun _ _ h => h⟩
  · intro slot hmem claimant hclaim
    rw [(mem_slots_iff.mp hmem).2] at hclaim
    contradiction

theorem verdicts_improve (options : CheckOptions)
    (hsorted : fixture.findings.Pairwise fun first second => first.line ≤ second.line)
    (hsub : fewer.Sublist more) :
    List.Forall₂ Verdict.Improves (fixture.verdicts fewer options)
      (fixture.verdicts more options) := by
  obtain ⟨place, hopen⟩ := fixture.exists_staysOpen hsub
  exact (fixture.run_verdicts fewer options).improves_of_staysOpen hsorted
    (fun finding _ => Nat.zero_le finding.line) hopen (fixture.run_verdicts more options)

/-- More diagnostics never lose a finding. -/
theorem check_mono (options : CheckOptions)
    (hsorted : fixture.findings.Pairwise fun first second => first.line ≤ second.line)
    (hsub : fewer.Sublist more) :
    (fixture.check more options).missing.Sublist (fixture.check fewer options).missing ∧
      (fixture.check more options).missingAdvisory.Sublist
        (fixture.check fewer options).missingAdvisory ∧
      (options.strict = false → (fixture.check fewer options).ok = true →
        (fixture.check more options).ok = true) ∧
      (fixture.check fewer options).requiredCoverage.toRat ≤
        (fixture.check more options).requiredCoverage.toRat := by
  have himproves := fixture.verdicts_improve options hsorted hsub
  have hmissing : (fixture.check more options).missing.Sublist
      (fixture.check fewer options).missing :=
    Verdict.Improves.missing_sublist himproves .required
  refine ⟨hmissing, Verdict.Improves.missing_sublist himproves .advisory, ?_, ?_⟩
  · intro hlenient hok
    rw [check_ok_iff_of_lenient hlenient] at hok ⊢
    rw [hok] at hmissing
    exact List.sublist_nil.mp hmissing
  · exact fixture.requiredCoverage_le_of_missing_length_le hmissing.length_le

end Fixture

namespace MoreDiagnosticsWitness

/-- Three findings, two lines apart. -/
def fixture : Fixture where
  name := "odd"
  fileName := "odd.cpp"
  summary := ""
  categories := [.misc]
  findings := [1, 3, 5].map fun line => .required "misc-*" .misc line "" ""
  waivers := []
  source := ""

/-- Diagnostics on these lines of the file. -/
def reports (lines : List Nat) : List Diagnostic :=
  lines.map fun line => ⟨"odd.cpp", line, 1, .warning, "", ["misc-redundant-expression"]⟩

/-- The options of a check with tolerance one. -/
def options : CheckOptions := ⟨1, [], false⟩

/-- With a diagnostic on line 1 those on lines 2 and 4 move on to the findings behind them. -/
theorem check_reports_mono :
    (fixture.findings.Pairwise fun first second => first.line ≤ second.line) ∧
      (reports [2, 4]).Sublist (reports [1, 2, 4]) ∧
      (fixture.check (reports [1, 2, 4]) options).missing.Sublist
        (fixture.check (reports [2, 4]) options).missing ∧
      (fixture.check (reports [1, 2, 4]) options).missingAdvisory.Sublist
        (fixture.check (reports [2, 4]) options).missingAdvisory ∧
      (options.strict = false → (fixture.check (reports [2, 4]) options).ok = true →
        (fixture.check (reports [1, 2, 4]) options).ok = true) ∧
      (fixture.check (reports [2, 4]) options).requiredCoverage.toRat ≤
        (fixture.check (reports [1, 2, 4]) options).requiredCoverage.toRat := by
  have hsorted : fixture.findings.Pairwise fun first second => first.line ≤ second.line := by
    decide
  have hsub : (reports [2, 4]).Sublist (reports [1, 2, 4]) := by
    decide
  exact ⟨hsorted, hsub, fixture.check_mono options hsorted hsub⟩

example : (fixture.check (reports [2, 4]) options).missing.map Finding.line = [5] ∧
    (fixture.check (reports [1, 2, 4]) options).missing = [] := by
  decide +kernel

end MoreDiagnosticsWitness

end LintCorpus
