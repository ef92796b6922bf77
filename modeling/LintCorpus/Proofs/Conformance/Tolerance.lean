import LintCorpus.Proofs.Conformance.Apart
import LintCorpus.Proofs.Validation.Conditions

/-!
A wider tolerance.  What is matched keeps its diagnostic when the tolerance grows, unless a finding
that was not served takes a diagnostic from a finding on a later line (`Run.relaxes`).  With that
one exception a check that is passed stays so; `ToleranceWitness` shows that the exception occurs.

Two passes over the same slots are compared, a narrow and a wide one.  Slots that the narrow pass
never claims may be claimed in the wide one; `Agrees` says that all others are claimed alike.
-/

namespace LintCorpus

/-- The same finding, with the same diagnostic if it had one. -/
structure Verdict.Keeps (verdict verdict' : Verdict) : Prop where
  finding : verdict'.finding = verdict.finding
  served : ∀ diagnostic, verdict.diagnostic? = some diagnostic →
    verdict'.diagnostic? = some diagnostic

namespace Verdict.Keeps

theorem improves {verdict verdict' : Verdict} (hkeeps : verdict.Keeps verdict') :
    verdict.Improves verdict' := by
  refine ⟨hkeeps.finding, ?_⟩
  intro hserved
  obtain ⟨diagnostic, hdiagnostic⟩ := Option.ne_none_iff_exists'.mp hserved
  rw [hkeeps.served diagnostic hdiagnostic]
  exact Option.some_ne_none diagnostic

theorem matched_sublist {verdicts verdicts' : List Verdict}
    (hkeeps : List.Forall₂ Verdict.Keeps verdicts verdicts') :
    (verdicts.filterMap Verdict.match?).Sublist (verdicts'.filterMap Verdict.match?) := by
  refine filterMap_sublist_of_forall₂ ?_ hkeeps
  rintro verdict ⟨found, diagnostic?⟩ ⟨hfinding, hserved⟩ entry hmatch
  obtain rfl := Verdict.match?_eq_some_iff.mp hmatch
  obtain rfl : found = entry.finding := hfinding
  obtain rfl : diagnostic? = some entry.diagnostic := hserved entry.diagnostic rfl
  rfl

end Verdict.Keeps

/-- The findings of the verdicts without a diagnostic. -/
def unservedFindings (verdicts : List Verdict) : List Finding :=
  (verdicts.filter (·.diagnostic?.isNone)).map Verdict.finding

theorem mem_unservedFindings_iff {verdicts : List Verdict} {finding : Finding} :
    finding ∈ unservedFindings verdicts ↔ ⟨finding, none⟩ ∈ verdicts := by
  simp only [unservedFindings, List.mem_map, List.mem_filter, Option.isNone_iff_eq_none]
  constructor
  · rintro ⟨⟨found, diagnostic?⟩, ⟨hmem, rfl⟩, rfl⟩
    exact hmem
  · intro hmem
    exact ⟨_, ⟨hmem, rfl⟩, rfl⟩

/-- A finding that was not served, that of `taken`, has a diagnostic beyond the tolerance now, which
served a finding on a later line before, that of `served`. -/
structure Displaced (tolerance : Nat) (unserved : List Finding) (before after : List Match)
    (taken served : Match) : Prop where
  was_unserved : taken.finding ∈ unserved
  taken_mem : taken ∈ after
  served_mem : served ∈ before
  diagnostic_eq : taken.diagnostic = served.diagnostic
  line_lt : taken.finding.line < served.finding.line
  beyond : tolerance < lineDistance taken.finding.line taken.diagnostic.line

theorem Displaced.mono {tolerance : Nat} {unserved unserved' : List Finding}
    {before before' after after' : List Match} {taken served : Match}
    (hdisplaced : Displaced tolerance unserved before after taken served)
    (hunserved : unserved ⊆ unserved') (hbefore : before ⊆ before') (hafter : after ⊆ after') :
    Displaced tolerance unserved' before' after' taken served :=
  ⟨hunserved hdisplaced.was_unserved, hafter hdisplaced.taken_mem,
    hbefore hdisplaced.served_mem, hdisplaced.diagnostic_eq, hdisplaced.line_lt,
    hdisplaced.beyond⟩

/-- The slots of the narrow pass, which ends in `final`, and `more`, those of the wide pass, have
the same diagnostics, and the same claims wherever the narrow pass ends with one. -/
structure Agrees (final slots more : List Slot) : Prop where
  diagnostics : more.map Slot.diagnostic = slots.map Slot.diagnostic
  claims : ∀ (i : Nat) (slot slot' last : Slot), slots[i]? = some slot → more[i]? = some slot' →
    final[i]? = some last → last.claimedBy ≠ none → slot'.claimedBy = slot.claimedBy
  /-- The narrow pass keeps what it has claimed. -/
  keeps : ∀ (i : Nat) (slot : Slot), slots[i]? = some slot →
    ∃ last, final[i]? = some last ∧ slot.Keeps last

/-- Slots with the same diagnostics have them at the same positions. -/
theorem exists_slot_of_map_diagnostic_eq {slots more : List Slot}
    (hsame : slots.map Slot.diagnostic = more.map Slot.diagnostic) {i : Nat} {slot : Slot}
    (hat : slots[i]? = some slot) :
    ∃ slot', more[i]? = some slot' ∧ slot'.diagnostic = slot.diagnostic := by
  have hmap : (more.map Slot.diagnostic)[i]? = some slot.diagnostic := by
    rw [← hsame, List.getElem?_map, hat, Option.map_some]
  rwa [List.getElem?_map, Option.map_eq_some_iff] at hmap

namespace Agrees

variable {narrow wide index : Nat} {final slots more : List Slot} {finding : Finding}

/-- What is open in the wide pass is open in the narrow one. -/
theorem isOpenTo (hagree : Agrees final slots more) {i line : Nat} {slot slot' : Slot}
    (hat : slots[i]? = some slot) (hat' : more[i]? = some slot')
    (hopen : slot'.isOpenTo line = true) : slot.isOpenTo line = true := by
  rw [Slot.isOpenTo_iff] at hopen ⊢
  intro claimant hclaim
  obtain ⟨last, hlast, hkeeps⟩ := hagree.keeps i slot hat
  have hclaimed : last.claimedBy ≠ none := by
    rw [hkeeps.claim claimant hclaim]
    exact Option.some_ne_none claimant
  apply hopen
  rw [hagree.claims i slot slot' last hat hat' hlast hclaimed, hclaim]

/-- What fits in the wide pass fits in the narrow one if it is close enough. -/
theorem exists_fits (hagree : Agrees final slots more) {i : Nat} {slot' : Slot}
    (hat' : more[i]? = some slot') (hfits : slot'.fits finding wide = true)
    (hnear : slot'.distance finding ≤ narrow) :
    ∃ slot, slots[i]? = some slot ∧ slot.fits finding narrow = true ∧
      slot.distance finding = slot'.distance finding := by
  obtain ⟨slot, hat, hdiagnostic⟩ := exists_slot_of_map_diagnostic_eq hagree.diagnostics hat'
  rw [Slot.fits_iff, Finding.satisfiedBy_iff] at hfits
  obtain ⟨hopen, -, hchecks⟩ := hfits
  refine ⟨slot, hat, ?_, ?_⟩
  · rw [Slot.fits_iff, Finding.satisfiedBy_iff, hdiagnostic]
    exact ⟨hagree.isOpenTo hat hat' hopen, hnear, hchecks⟩
  · rw [Slot.distance, hdiagnostic, Slot.distance]

/-- The choice of the narrow pass is that of the wide one. -/
theorem serves (hagree : Agrees final slots more) (hle : narrow ≤ wide) {slot : Slot}
    (hserves : Slot.Serves finding narrow slots index slot) {last : Slot}
    (hlast : final[index]? = some last) (hclaimed : last.claimedBy ≠ none) :
    Slot.Serves finding wide more index slot := by
  have hdistance : slot.distance finding ≤ narrow :=
    (Finding.satisfiedBy_iff.mp hserves.satisfiedBy).1
  refine ⟨?_, ?_, ?_, ?_⟩
  · obtain ⟨slot', hat', hdiagnostic⟩ :=
      exists_slot_of_map_diagnostic_eq hagree.diagnostics.symm hserves.at_index
    have hclaim := hagree.claims index slot slot' last hserves.at_index hat' hlast hclaimed
    have hsame : slot' = slot := Slot.ext hdiagnostic hclaim
    rw [hat', hsame]
  · rw [Slot.fits_iff]
    exact ⟨hserves.isOpenTo, Finding.satisfiedBy_mono hle hserves.satisfiedBy⟩
  · intro j other hother hfits
    by_contra hcloser
    have hnear : other.distance finding ≤ narrow := by omega
    obtain ⟨before, hat, hfitsBefore, hsame⟩ := hagree.exists_fits hother hfits hnear
    have hclosest := hserves.closest j before hat hfitsBefore
    omega
  · intro j other hother hfits heq
    obtain ⟨before, hat, hfitsBefore, hsame⟩ :=
      hagree.exists_fits hother hfits (heq ▸ hdistance)
    exact hserves.first j before hat hfitsBefore (hsame.trans heq)

/-- Both passes serve the finding from the same slot. -/
theorem served (hagree : Agrees final slots more) {slot : Slot}
    (hserves : Slot.Serves finding narrow slots index slot)
    (hserves' : Slot.Serves finding wide more index slot)
    (hkeeps : ∀ (i : Nat) (slot' : Slot),
      (slots.set index (slot.claim finding.line))[i]? = some slot' →
        ∃ last, final[i]? = some last ∧ slot'.Keeps last) :
    Agrees final (slots.set index (slot.claim finding.line))
      (more.set index (slot.claim finding.line)) := by
  refine ⟨?_, ?_, hkeeps⟩
  · rw [hserves.map_diagnostic_set, hserves'.map_diagnostic_set, hagree.diagnostics]
  · intro i other other' last hat hat' hlast hclaimed
    rcases hserves.eq_claim_or_unchanged hat with ⟨rfl, rfl⟩ | ⟨hne, hunchanged⟩
    · rw [hserves'.getElem?_set, Option.some.injEq] at hat'
      rw [hat']
    · rcases hserves'.eq_claim_or_unchanged hat' with ⟨heq, -⟩ | ⟨-, hunchanged'⟩
      · exact absurd heq hne
      · exact hagree.claims i other other' last hunchanged hunchanged' hlast hclaimed

/-- Only the wide pass serves the finding, from a slot that the narrow pass never claims. -/
theorem unserved (hagree : Agrees final slots more) {slot' : Slot}
    (hserves : Slot.Serves finding wide more index slot')
    (hfree : ∀ last, final[index]? = some last → last.claimedBy = none) :
    Agrees final slots (more.set index (slot'.claim finding.line)) := by
  refine ⟨?_, ?_, hagree.keeps⟩
  · rw [hserves.map_diagnostic_set, hagree.diagnostics]
  · intro i other other' last hat hat' hlast hclaimed
    rcases hserves.eq_claim_or_unchanged hat' with ⟨rfl, -⟩ | ⟨-, hunchanged⟩
    · exact absurd (hfree last hlast) hclaimed
    · exact hagree.claims i other other' last hat hunchanged hlast hclaimed

theorem final_diagnostic (hagree : Agrees final slots more) {i : Nat} {slot' last : Slot}
    (hat' : more[i]? = some slot') (hlast : final[i]? = some last) :
    last.diagnostic = slot'.diagnostic := by
  obtain ⟨slot, hat, hdiagnostic⟩ := exists_slot_of_map_diagnostic_eq hagree.diagnostics hat'
  obtain ⟨kept, hkept, hkeeps⟩ := hagree.keeps i slot hat
  obtain rfl : last = kept := Option.some.inj (hlast.symm.trans hkept)
  rw [hkeeps.diagnostic, hdiagnostic]

/-- What only the wide pass takes lies beyond the narrow tolerance. -/
theorem lt_distance (hagree : Agrees final slots more) {slot' : Slot}
    (hnone : ∀ slot ∈ slots, slot.fits finding narrow = false)
    (hserves : Slot.Serves finding wide more index slot') :
    narrow < slot'.distance finding := by
  apply Nat.lt_of_not_le
  intro hnear
  obtain ⟨slot, hat, hfits, -⟩ := hagree.exists_fits hserves.at_index hserves.fits hnear
  simp [hnone slot (List.mem_of_getElem? hat)] at hfits

/-- If the wide pass takes a slot that the narrow pass ends with a claim on, a finding is
displaced. -/
theorem exists_displaced (hagree : Agrees final slots more) {all rest : List Finding}
    {verdicts : List Verdict} {slot' last : Slot} {after : List Match}
    (hclaimed : ClaimedNearby narrow all slots)
    (hnone : ∀ slot ∈ slots, slot.fits finding narrow = false)
    (hrest : Run narrow slots rest verdicts final)
    (hlater : ∀ other ∈ rest, finding.line ≤ other.line)
    (hserves : Slot.Serves finding wide more index slot')
    (hlast : final[index]? = some last) (hne : last.claimedBy ≠ none) :
    ∃ served, Displaced narrow (finding :: unservedFindings verdicts)
      (verdicts.filterMap Verdict.match?) (⟨finding, slot'.diagnostic⟩ :: after)
      ⟨finding, slot'.diagnostic⟩ served := by
  have hbeyond : narrow < slot'.distance finding := hagree.lt_distance hnone hserves
  have hdiagnostic : last.diagnostic = slot'.diagnostic :=
    hagree.final_diagnostic hserves.at_index hlast
  rcases hrest.exists_match_of_claim hlast hne with hbefore | ⟨entry, hentry, hsame, -⟩
  · -- The claim was there, hence for this line, and that is too far from the diagnostic.
    obtain ⟨line, hclaim⟩ := Option.ne_none_iff_exists'.mp hne
    have hopen := hagree.isOpenTo hbefore hserves.at_index hserves.isOpenTo
    obtain rfl := Slot.isOpenTo_iff.mp hopen line hclaim
    have hnear := (hclaimed last (List.mem_of_getElem? hbefore) _ hclaim).1
    rw [hdiagnostic] at hnear
    exact absurd hbeyond (Nat.not_lt.mpr hnear)
  · obtain ⟨hmem, hsat⟩ := hrest.satisfiedBy_of_mem_matches hentry
    have hnear := (Finding.satisfiedBy_iff.mp hsat).1
    rw [hsame, hdiagnostic] at hnear
    have hline : finding.line ≠ entry.finding.line := by
      intro heq
      rw [← heq] at hnear
      exact absurd hbeyond (Nat.not_lt.mpr hnear)
    exact ⟨entry, List.mem_cons_self, List.mem_cons_self, hentry, (hsame.trans hdiagnostic).symm,
      Nat.lt_of_le_of_ne (hlater entry.finding hmem) hline, hbeyond⟩

end Agrees

/-- The verdicts of a wider pass keep what the narrow one served, or a finding is displaced. -/
def Relaxes (tolerance : Nat) (verdicts verdicts' : List Verdict) : Prop :=
  List.Forall₂ Verdict.Keeps verdicts verdicts' ∨
    ∃ taken served, Displaced tolerance (unservedFindings verdicts)
      (verdicts.filterMap Verdict.match?) (verdicts'.filterMap Verdict.match?) taken served

theorem Relaxes.cons {tolerance : Nat} {verdict verdict' : Verdict}
    {verdicts verdicts' : List Verdict} (hhead : verdict.Keeps verdict')
    (hrelaxes : Relaxes tolerance verdicts verdicts') :
    Relaxes tolerance (verdict :: verdicts) (verdict' :: verdicts') := by
  have htail : verdicts.Sublist (verdict :: verdicts) := List.sublist_cons_self verdict verdicts
  have htail' : verdicts'.Sublist (verdict' :: verdicts') :=
    List.sublist_cons_self verdict' verdicts'
  rcases hrelaxes with hkeeps | ⟨taken, served, hdisplaced⟩
  · exact Or.inl (List.Forall₂.cons hhead hkeeps)
  · exact Or.inr ⟨taken, served, hdisplaced.mono ((htail.filter _).map _).subset
      (htail.filterMap _).subset (htail'.filterMap _).subset⟩

theorem Run.relaxes {narrow wide : Nat} (hle : narrow ≤ wide) {all findings : List Finding}
    {slots final : List Slot} {verdicts : List Verdict}
    (hrun : Run narrow slots findings verdicts final) {more more' : List Slot}
    {verdicts' : List Verdict}
    (hsorted : findings.Pairwise fun first second => first.line ≤ second.line)
    (hall : findings ⊆ all) (hclaimed : ClaimedNearby narrow all slots)
    (hagree : Agrees final slots more) (hmore : Run wide more findings verdicts' more') :
    Relaxes narrow verdicts verdicts' := by
  induction hrun generalizing more verdicts' with
  | done slots =>
      cases hmore
      exact Or.inl List.Forall₂.nil
  | @served slots final finding rest verdicts index slot hserves hrest ih =>
      obtain ⟨hfinding, hall⟩ := List.cons_subset.mp hall
      obtain ⟨last, hlast, hkeeps⟩ := hrest.keeps hserves.getElem?_set
      have hne : last.claimedBy ≠ none := by
        rw [hkeeps.claim _ (Slot.claim_claimedBy_of_isOpenTo hserves.isOpenTo)]
        exact Option.some_ne_none finding.line
      have hserves' := hagree.serves hle hserves hlast hne
      cases hmore with
      | @served _ _ _ _ _ index' slot' hchoice hrest' =>
          obtain rfl := hserves'.index_unique hchoice
          obtain rfl : slot = slot' :=
            Option.some.inj (hserves'.at_index.symm.trans hchoice.at_index)
          have hagree' := hagree.served hserves hserves' fun _ _ => hrest.keeps
          have hrelaxes := ih hsorted.of_cons hall (hclaimed.serves hfinding hserves) hagree' hrest'
          exact hrelaxes.cons ⟨rfl, fun _ => id⟩
      | unserved hnone hrest' =>
          have hfits := hnone slot (List.mem_of_getElem? hserves'.at_index)
          simp [hserves'.fits] at hfits
  | @unserved slots final finding rest verdicts hnone hrest ih =>
      obtain ⟨-, hall⟩ := List.cons_subset.mp hall
      cases hmore with
      | @served _ _ _ _ _ index' slot' hserves' hrest' =>
          by_cases hfree : ∀ last, final[index']? = some last → last.claimedBy = none
          · have hrelaxes :=
              ih hsorted.of_cons hall hclaimed (hagree.unserved hserves' hfree) hrest'
            exact hrelaxes.cons ⟨rfl, by simp⟩
          · simp only [not_forall] at hfree
            obtain ⟨last, hlast, hne⟩ := hfree
            obtain ⟨hlater, -⟩ := List.pairwise_cons.mp hsorted
            obtain ⟨lost, hdisplaced⟩ := hagree.exists_displaced hclaimed hnone hrest hlater
              hserves' hlast hne
            exact Or.inr ⟨_, lost, hdisplaced⟩
      | unserved hnone' hrest' =>
          have hrelaxes := ih hsorted.of_cons hall hclaimed hagree hrest'
          exact hrelaxes.cons ⟨rfl, by simp⟩

namespace Fixture

/-- A check without strict mode. -/
def checkWithin (fixture : Fixture) (tolerance : Nat) (diagnostics : List Diagnostic)
    (ignoreChecks : List String) : Report :=
  fixture.check diagnostics ⟨tolerance, ignoreChecks, false⟩

variable {fixture : Fixture} {diagnostics : List Diagnostic} {ignoreChecks : List String}
  {narrow wide : Nat}

theorem agrees_slots (options : CheckOptions) :
    Agrees (fixture.claims diagnostics options) (fixture.slots diagnostics)
      (fixture.slots diagnostics) := by
  refine ⟨rfl, ?_, fun _ _ => (fixture.run_verdicts diagnostics options).keeps⟩
  intro i slot slot' last hat hat' _ _
  obtain rfl : slot = slot' := Option.some.inj (hat.symm.trans hat')
  rfl

theorem mem_missingAdvisory_of_ok {options : CheckOptions} (hlenient : options.strict = false)
    (hok : (fixture.check diagnostics options).ok = true) {finding : Finding}
    (hunserved : finding ∈ unservedFindings (fixture.verdicts diagnostics options)) :
    finding ∈ (fixture.check diagnostics options).missingAdvisory := by
  rw [check_ok_iff_of_lenient hlenient, check_missing, List.filterMap_eq_nil_iff] at hok
  rw [mem_unservedFindings_iff] at hunserved
  rw [check_missingAdvisory, List.mem_filterMap]
  refine ⟨_, hunserved, Verdict.missing?_eq_some_iff.mpr ⟨rfl, ?_⟩⟩
  cases hexpectation : finding.expectation with
  | advisory => rfl
  | required =>
      have hmissing := hok _ hunserved
      rw [Verdict.missing?_eq_some_iff.mpr ⟨rfl, hexpectation⟩] at hmissing
      contradiction

/-- A check that is passed stays so under a wider tolerance, and all that is matched keeps its
diagnostic, unless an advisory finding displaces another. -/
theorem checkWithin_ok_or_displaced
    (hsorted : fixture.findings.Pairwise fun first second => first.line ≤ second.line)
    (hle : narrow ≤ wide) (hok : (fixture.checkWithin narrow diagnostics ignoreChecks).ok = true) :
    (fixture.checkWithin wide diagnostics ignoreChecks).ok = true ∧
        (fixture.checkWithin narrow diagnostics ignoreChecks).matched.Sublist
          (fixture.checkWithin wide diagnostics ignoreChecks).matched ∨
      ∃ taken served, Displaced narrow
        (fixture.checkWithin narrow diagnostics ignoreChecks).missingAdvisory
        (fixture.checkWithin narrow diagnostics ignoreChecks).matched
        (fixture.checkWithin wide diagnostics ignoreChecks).matched taken served := by
  have hrun := fixture.run_verdicts diagnostics ⟨narrow, ignoreChecks, false⟩
  have hmore := fixture.run_verdicts diagnostics ⟨wide, ignoreChecks, false⟩
  have hrelaxes := hrun.relaxes hle hsorted (List.Subset.refl fixture.findings)
    (claimedNearby_slots narrow fixture.findings) (agrees_slots _) hmore
  rcases hrelaxes with hkeeps | ⟨taken, served, hdisplaced⟩
  · refine Or.inl ⟨?_, Verdict.Keeps.matched_sublist hkeeps⟩
    have hmissing := Verdict.Improves.missing_sublist (hkeeps.imp fun _ _ => Verdict.Keeps.improves)
      .required
    have hnil := (check_ok_iff_of_lenient rfl).mp hok
    rw [check_missing] at hnil
    rw [hnil] at hmissing
    exact (check_ok_iff_of_lenient rfl).mpr (List.sublist_nil.mp hmissing)
  · refine Or.inr ⟨taken, served, hdisplaced.mono ?_ (List.Subset.refl _) (List.Subset.refl _)⟩
    intro finding hunserved
    exact mem_missingAdvisory_of_ok rfl hok hunserved

/-- In a valid corpus a wider tolerance fails no check that was passed, unless an advisory finding
displaces another. -/
theorem checkWithin_ok_of_le {corpus : Corpus} (hvalid : corpus.isValid = true)
    (hfixture : fixture ∈ corpus.fixtures) (hle : narrow ≤ wide) (diagnostics : List Diagnostic)
    (ignoreChecks : List String) :
    ((fixture.checkWithin narrow diagnostics ignoreChecks).ok = true →
      (fixture.checkWithin wide diagnostics ignoreChecks).ok = true ∧
          (fixture.checkWithin narrow diagnostics ignoreChecks).matched.Sublist
            (fixture.checkWithin wide diagnostics ignoreChecks).matched ∨
        ∃ taken served, Displaced narrow
          (fixture.checkWithin narrow diagnostics ignoreChecks).missingAdvisory
          (fixture.checkWithin narrow diagnostics ignoreChecks).matched
          (fixture.checkWithin wide diagnostics ignoreChecks).matched taken served) ∧
      ((∀ finding ∈ fixture.findings, finding.isRequired = true →
          ∃ diagnostic ∈ fixture.relevant diagnostics, finding.satisfiedBy 0 diagnostic = true) →
        (fixture.checkWithin wide diagnostics ignoreChecks).ok = true ∨
          ∃ taken served, Displaced 0
            (fixture.checkWithin 0 diagnostics ignoreChecks).missingAdvisory
            (fixture.checkWithin 0 diagnostics ignoreChecks).matched
            (fixture.checkWithin wide diagnostics ignoreChecks).matched taken served) := by
  have hsorted := Corpus.pairwise_line_of_isValid hvalid hfixture
  refine ⟨checkWithin_ok_or_displaced hsorted hle, ?_⟩
  intro hexact
  have hok : (fixture.checkWithin 0 diagnostics ignoreChecks).ok = true := by
    refine (check_ok_iff_of_lenient rfl).mpr ?_
    exact (missing_eq_nil_iff_of_apart (apart_zero fixture.findings)).mpr hexact
  rcases checkWithin_ok_or_displaced hsorted (Nat.zero_le wide) hok with ⟨hwide, -⟩ | hdisplaced
  · exact Or.inl hwide
  · exact Or.inr hdisplaced

end Fixture

namespace ToleranceWitness

/-- An advisory finding with a wide rule, and a required one on the line behind it. -/
def fixture : Fixture where
  name := "store"
  fileName := "store.cpp"
  summary := ""
  categories := [.clangAnalyzer]
  findings := [
    .advisory "clang-analyzer-core.*" .clangAnalyzer 1 "<< x" "",
    .required "clang-analyzer-core.NullDereference" .clangAnalyzer 2 "*ptr = 42" ""]
  waivers := []
  source := "std::cout << x;\n*ptr = 42;\n"

def corpus : Corpus where
  fixtures := [fixture]

theorem corpus_isValid : corpus.isValid = true := by
  decide +kernel

/-- A diagnostic on the line that the required finding's rule covers, and the advisory one's. -/
def report (line : Nat) : Diagnostic :=
  ⟨"store.cpp", line, 1, .warning, "", ["clang-analyzer-core.NullDereference"]⟩

/-- With diagnostics on both lines nothing is displaced. -/
theorem checkWithin_ok_of_both :
    corpus.isValid = true ∧ fixture ∈ corpus.fixtures ∧
      (fixture.checkWithin 0 [report 1, report 2] []).ok = true ∧
      ((fixture.checkWithin 1 [report 1, report 2] []).ok = true ∧
          (fixture.checkWithin 0 [report 1, report 2] []).matched.Sublist
            (fixture.checkWithin 1 [report 1, report 2] []).matched ∨
        ∃ taken served, Displaced 0
          (fixture.checkWithin 0 [report 1, report 2] []).missingAdvisory
          (fixture.checkWithin 0 [report 1, report 2] []).matched
          (fixture.checkWithin 1 [report 1, report 2] []).matched taken served) := by
  have hfixture : fixture ∈ corpus.fixtures := List.mem_cons_self
  have hok : (fixture.checkWithin 0 [report 1, report 2] []).ok = true := by
    decide +kernel
  exact ⟨corpus_isValid, hfixture, hok,
    (fixture.checkWithin_ok_of_le corpus_isValid hfixture (Nat.zero_le 1) _ []).1 hok⟩

/-- At tolerance one the advisory finding takes the only diagnostic, which is exactly on the line of
the required one. -/
theorem not_checkWithin_ok_mono :
    ¬ ∀ (corpus : Corpus) (fixture : Fixture), corpus.isValid = true →
      fixture ∈ corpus.fixtures → ∀ (narrow wide : Nat), narrow ≤ wide →
        ∀ (diagnostics : List Diagnostic) (ignoreChecks : List String),
          (fixture.checkWithin narrow diagnostics ignoreChecks).ok = true →
            (fixture.checkWithin wide diagnostics ignoreChecks).ok = true := by
  intro hmono
  have hnarrow : (fixture.checkWithin 0 [report 2] []).ok = true := by
    decide +kernel
  have hwide : (fixture.checkWithin 1 [report 2] []).ok = false := by
    decide +kernel
  have hok := hmono corpus fixture corpus_isValid List.mem_cons_self 0 1 (Nat.zero_le 1)
    [report 2] [] hnarrow
  rw [hwide] at hok
  exact Bool.false_ne_true hok

end ToleranceWitness

end LintCorpus
