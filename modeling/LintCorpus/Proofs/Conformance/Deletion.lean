import Mathlib.Data.List.Nodup
import LintCorpus.Proofs.Conformance.Coverage

/-!
Deleting diagnostics that nothing claims.  A finding takes the first of the closest diagnostics that
fit, so one that it does not take can go: what is closest, and first among them, stays so.
Positions move when something is deleted, so the slots carry tags, the positions of their
diagnostics in the whole list, and a deletion is a filter on the tags (`Run.filter`).  The report is
therefore that on the diagnostics of the fixture's file alone, and their claimed ones give the same
matches (`Fixture.check_keepAt`).
-/

namespace LintCorpus

/-- A slot that serves a finding serves it with fewer slots before and behind it. -/
theorem Slot.Serves.of_subset {finding : Finding} {tolerance : Nat}
    {before before' after after' : List Slot} {slot : Slot}
    (hserves : Slot.Serves finding tolerance (before ++ slot :: after) before.length slot)
    (hbefore : before' ⊆ before) (hafter : after' ⊆ after) :
    Slot.Serves finding tolerance (before' ++ slot :: after') before'.length slot := by
  rw [Slot.serves_append_iff] at hserves ⊢
  obtain ⟨hfits, hfarther, hnotCloser⟩ := hserves
  exact ⟨hfits, fun other hother => hfarther other (hbefore hother),
    fun other hother => hnotCloser other (hafter hother)⟩

section Filter

variable {α : Type} (keep : α → Bool)

/-- The slots whose tags are kept. -/
def Slot.kept (tagged : List (Slot × α)) : List Slot :=
  (tagged.filter fun entry => keep entry.2).map Prod.fst

theorem Slot.kept_append (first second : List (Slot × α)) :
    Slot.kept keep (first ++ second) = Slot.kept keep first ++ Slot.kept keep second := by
  simp [Slot.kept]

theorem Slot.kept_cons {slot : Slot} {tag : α} (hkeep : keep tag = true)
    (tagged : List (Slot × α)) :
    Slot.kept keep ((slot, tag) :: tagged) = slot :: Slot.kept keep tagged := by
  simp [Slot.kept, hkeep]

theorem Slot.kept_subset (tagged : List (Slot × α)) :
    Slot.kept keep tagged ⊆ tagged.map Prod.fst :=
  List.map_subset _ (List.filter_subset_self _)

/-- Slots that are unclaimed when the pass is over make no difference to it. -/
theorem Run.filter {tolerance : Nat} {slots slots' : List Slot} {findings : List Finding}
    {verdicts : List Verdict} (hrun : Run tolerance slots findings verdicts slots')
    (tagged : List (Slot × α)) (htagged : tagged.map Prod.fst = slots)
    (hkeep : ∀ entry ∈ slots'.zip (tagged.map Prod.snd),
      entry.1.claimedBy ≠ none → keep entry.2 = true) :
    Run tolerance (Slot.kept keep tagged) findings verdicts
      (Slot.kept keep (slots'.zip (tagged.map Prod.snd))) := by
  induction hrun generalizing tagged with
  | done slots =>
      rw [← htagged, ← List.zip_of_prod rfl rfl]
      exact Run.done _
  | @served slots slots' finding rest verdicts index slot hserves hrest ih =>
      have hat := hserves.at_index
      rw [← htagged, List.getElem?_map, Option.map_eq_some_iff] at hat
      obtain ⟨⟨slot, tag⟩, hat, rfl⟩ := hat
      obtain ⟨hlt, hget⟩ := List.getElem?_eq_some_iff.mp hat
      obtain ⟨before, after, hsplit, rfl, -⟩ := @List.exists_of_set _ _ (slot, tag) _ hlt
      rw [hget] at hsplit
      subst hsplit htagged
      -- The slot is claimed from here to the end, so its tag is kept.
      obtain ⟨slot', hat', hkeeps⟩ := hrest.keeps hserves.getElem?_set
      have hclaim := hkeeps.claim _ (Slot.claim_claimedBy_of_isOpenTo hserves.isOpenTo)
      have htag : keep tag = true := by
        apply hkeep (slot', tag) _ (by simp [hclaim])
        apply List.mem_of_getElem? (i := before.length)
        exact List.getElem?_zip_eq_some.mpr ⟨hat', by simp⟩
      have hclaimed := ih (before ++ (slot.claim finding.line, tag) :: after) (by simp)
      rw [List.map_append, List.map_cons] at hkeep hclaimed ⊢
      specialize hclaimed hkeep
      rw [Slot.kept_append, Slot.kept_cons keep htag] at hclaimed ⊢
      rw [List.map_append, List.map_cons, ← List.length_map (f := Prod.fst)] at hserves
      have hserves := hserves.of_subset (Slot.kept_subset keep before) (Slot.kept_subset keep after)
      apply Run.served hserves
      rw [List.set_append_right _ _ (Nat.le_refl _), Nat.sub_self, List.set_cons_zero]
      exact hclaimed
  | @unserved slots slots' finding rest verdicts hnone hrest ih =>
      apply Run.unserved _ (ih tagged htagged hkeep)
      intro slot hslot
      exact hnone slot (htagged ▸ Slot.kept_subset keep tagged hslot)

end Filter

/-- The diagnostics at the positions that are kept. -/
def keepAt (keep : Nat → Bool) (diagnostics : List Diagnostic) : List Diagnostic :=
  (diagnostics.zipIdx.filter fun entry => keep entry.2).map Prod.fst

namespace Fixture

section Positions

variable (fixture : Fixture) (diagnostics : List Diagnostic) (options : CheckOptions)

/-- The diagnostics about the fixture's file, with their positions among all diagnostics. -/
def entries : List (Diagnostic × Nat) :=
  diagnostics.zipIdx.filter fun entry => entry.1.fileName = fixture.fileName

/-- The positions of the diagnostics about the fixture's file. -/
def positions : List Nat :=
  (fixture.entries diagnostics).map Prod.snd

/-- The slots after all findings were served, with the positions of their diagnostics. -/
def placedClaims : List (Slot × Nat) :=
  (fixture.claims diagnostics options).zip (fixture.positions diagnostics)

/-- A finding claims the diagnostic at the position. -/
def ClaimsAt (i : Nat) : Prop :=
  ∃ entry ∈ fixture.placedClaims diagnostics options, entry.2 = i ∧ entry.1.claimedBy ≠ none

instance (i : Nat) : Decidable (fixture.ClaimsAt diagnostics options i) :=
  inferInstanceAs (Decidable (∃ entry ∈ fixture.placedClaims diagnostics options, _))

/-- The unexpected diagnostics, with their positions. -/
def unexpectedAt : List (Diagnostic × Nat) :=
  (fixture.placedClaims diagnostics options).filterMap fun entry =>
    (options.unexpected? entry.1).map fun diagnostic => (diagnostic, entry.2)

/-- The slots before any finding is served, with the positions of their diagnostics. -/
def placedSlots : List (Slot × Nat) :=
  (fixture.entries diagnostics).map fun entry => (Slot.unclaimed entry.1, entry.2)

theorem map_fst_entries :
    (fixture.entries diagnostics).map Prod.fst = fixture.relevant diagnostics := by
  have hfilter := List.filter_map (f := Prod.fst) (l := diagnostics.zipIdx)
    (p := fun diagnostic : Diagnostic => diagnostic.fileName = fixture.fileName)
  rw [List.zipIdx_map_fst] at hfilter
  exact hfilter.symm

theorem map_fst_placedSlots :
    (fixture.placedSlots diagnostics).map Prod.fst = fixture.slots diagnostics := by
  rw [slots, ← map_fst_entries, placedSlots, List.map_map, List.map_map]
  rfl

theorem map_snd_placedSlots :
    (fixture.placedSlots diagnostics).map Prod.snd = fixture.positions diagnostics := by
  rw [placedSlots, List.map_map]
  rfl

theorem length_positions :
    (fixture.positions diagnostics).length = (fixture.claims diagnostics options).length := by
  rw [← List.length_map (f := Slot.diagnostic), map_diagnostic_claims, ← map_fst_entries,
    positions, List.length_map, List.length_map]

theorem map_fst_placedClaims :
    (fixture.placedClaims diagnostics options).map Prod.fst = fixture.claims diagnostics options :=
  List.map_fst_zip (Nat.le_of_eq (fixture.length_positions diagnostics options).symm)

theorem map_snd_placedClaims :
    (fixture.placedClaims diagnostics options).map Prod.snd = fixture.positions diagnostics :=
  List.map_snd_zip (Nat.le_of_eq (fixture.length_positions diagnostics options))

theorem nodup_positions : (fixture.positions diagnostics).Nodup := by
  have hsub : (fixture.positions diagnostics).Sublist (diagnostics.zipIdx.map Prod.snd) :=
    (List.filter_sublist).map _
  rw [List.zipIdx_map_snd] at hsub
  exact hsub.nodup (List.nodup_range' ..)

theorem map_fst_unexpectedAt :
    (fixture.unexpectedAt diagnostics options).map Prod.fst =
      (fixture.check diagnostics options).unexpected := by
  rw [check_unexpected, ← map_fst_placedClaims, List.filterMap_map, unexpectedAt,
    List.map_filterMap]
  apply List.filterMap_congr
  intro entry _
  rw [Option.map_map]
  exact Option.map_id_apply

theorem map_diagnostic_placedClaims :
    (fixture.placedClaims diagnostics options).map (Prod.map Slot.diagnostic id) =
      fixture.entries diagnostics := by
  rw [placedClaims, ← List.zip_map_left, map_diagnostic_claims, ← map_fst_entries, positions]
  exact (List.zip_of_prod rfl rfl).symm

/-- The unexpected diagnostics are in order, each at its position. -/
theorem unexpectedAt_sublist :
    (fixture.unexpectedAt diagnostics options).Sublist diagnostics.zipIdx := by
  have hentries : (fixture.unexpectedAt diagnostics options).Sublist
      (fixture.entries diagnostics) := by
    rw [← fixture.map_diagnostic_placedClaims diagnostics options, ← List.filterMap_eq_map]
    refine filterMap_sublist_of_forall₂ (R := Eq) ?_ (List.forall₂_same.mpr fun _ _ => rfl)
    rintro ⟨slot, i⟩ _ rfl found hfound
    obtain ⟨diagnostic, hunexpected, rfl⟩ := Option.map_eq_some_iff.mp hfound
    rw [CheckOptions.unexpected?, Option.ite_none_right_eq_some, Option.some.injEq] at hunexpected
    rw [← hunexpected.2]
    rfl
  exact hentries.trans List.filter_sublist

theorem slots_keepAt (keep : Nat → Bool) :
    fixture.slots (keepAt keep diagnostics) =
      Slot.kept keep (fixture.placedSlots diagnostics) := by
  have hentries : fixture.relevant (keepAt keep diagnostics) =
      ((fixture.entries diagnostics).filter fun entry => keep entry.2).map Prod.fst := by
    rw [relevant, keepAt, List.filter_map, entries, List.filter_comm]
    rfl
  rw [slots, hentries, Slot.kept, placedSlots, List.filter_map, List.map_map, List.map_map]
  rfl

end Positions

variable {fixture : Fixture} {diagnostics : List Diagnostic} {options : CheckOptions}

/-- Nothing that a finding claims is unexpected. -/
theorem not_claimsAt_of_mem_unexpectedAt {entry : Diagnostic × Nat}
    (hentry : entry ∈ fixture.unexpectedAt diagnostics options) :
    ¬ fixture.ClaimsAt diagnostics options entry.2 := by
  rintro ⟨claimed, hclaimed, hposition, hne⟩
  obtain ⟨⟨slot, i⟩, hslot, hfound⟩ := List.mem_filterMap.mp hentry
  obtain ⟨diagnostic, hunexpected, rfl⟩ := Option.map_eq_some_iff.mp hfound
  have hnodup : ((fixture.placedClaims diagnostics options).map Prod.snd).Nodup := by
    rw [map_snd_placedClaims]
    exact fixture.nodup_positions diagnostics
  obtain rfl := List.inj_on_of_nodup_map hnodup hclaimed hslot hposition
  simp [CheckOptions.unexpected?, hne] at hunexpected

/-- A check of what is kept, where that is all that is claimed and perhaps more. -/
theorem run_keepAt {keep : Nat → Bool}
    (hkeep : ∀ i, fixture.ClaimsAt diagnostics options i → keep i = true) :
    fixture.verdicts (keepAt keep diagnostics) options = fixture.verdicts diagnostics options ∧
      fixture.claims (keepAt keep diagnostics) options =
        Slot.kept keep (fixture.placedClaims diagnostics options) := by
  have hrun := (fixture.run_verdicts diagnostics options).filter keep
    (fixture.placedSlots diagnostics) (fixture.map_fst_placedSlots diagnostics)
  rw [map_snd_placedSlots, ← slots_keepAt] at hrun
  apply (fixture.run_verdicts _ options).unique
  apply hrun
  intro entry hentry hne
  exact hkeep entry.2 ⟨entry, hentry, rfl, hne⟩

theorem unexpected_keepAt {keep : Nat → Bool}
    (hkeep : ∀ i, fixture.ClaimsAt diagnostics options i → keep i = true) :
    (fixture.check (keepAt keep diagnostics) options).unexpected =
      ((fixture.unexpectedAt diagnostics options).filter fun entry => keep entry.2).map
        Prod.fst := by
  rw [check_unexpected, (run_keepAt hkeep).2, Slot.kept, List.filterMap_map, List.filterMap_filter,
    unexpectedAt, List.filter_filterMap, List.map_filterMap]
  apply List.filterMap_congr
  rintro ⟨slot, i⟩ _
  cases hunexpected : options.unexpected? slot with
  | none => simp [hunexpected]
  | some diagnostic => cases hkept : keep i <;> simp [hunexpected, hkept, Option.filter]

theorem check_relevant :
    fixture.check (fixture.relevant diagnostics) options = fixture.check diagnostics options := by
  have hrelevant : fixture.relevant (fixture.relevant diagnostics) = fixture.relevant diagnostics :=
    by simp [relevant]
  rw [check, hrelevant, check]

/-- Only the diagnostics that findings claim matter for what is matched and missing: others can be
deleted wherever they stand, and the report loses no more than those of them that it calls
unexpected.  Diagnostics about other files leave no trace in it. -/
theorem check_keepAt (fixture : Fixture) (diagnostics : List Diagnostic) (options : CheckOptions) :
    (fixture.unexpectedAt diagnostics options).map Prod.fst =
        (fixture.check diagnostics options).unexpected ∧
      (fixture.unexpectedAt diagnostics options).Sublist diagnostics.zipIdx ∧
      (∀ keep : Nat → Bool,
        (∀ i, fixture.ClaimsAt diagnostics options i → keep i = true) →
          (fixture.check (keepAt keep diagnostics) options).matched =
              (fixture.check diagnostics options).matched ∧
            (fixture.check (keepAt keep diagnostics) options).missing =
              (fixture.check diagnostics options).missing ∧
            (fixture.check (keepAt keep diagnostics) options).missingAdvisory =
              (fixture.check diagnostics options).missingAdvisory ∧
            (fixture.check (keepAt keep diagnostics) options).unexpected =
              ((fixture.unexpectedAt diagnostics options).filter fun entry => keep entry.2).map
                Prod.fst) ∧
      (fixture.check (keepAt (fixture.ClaimsAt diagnostics options ·) diagnostics)
            options).matched = (fixture.check diagnostics options).matched ∧
      (fixture.check (keepAt (fixture.ClaimsAt diagnostics options ·) diagnostics)
            options).unexpected = [] ∧
      fixture.check (fixture.relevant diagnostics) options = fixture.check diagnostics options := by
  have hclaimed : ∀ i, fixture.ClaimsAt diagnostics options i →
      decide (fixture.ClaimsAt diagnostics options i) = true := fun i => decide_eq_true
  refine ⟨fixture.map_fst_unexpectedAt diagnostics options,
    fixture.unexpectedAt_sublist diagnostics options, ?_, ?_, ?_, check_relevant⟩
  · intro keep hkeep
    have hverdicts := (run_keepAt hkeep).1
    refine ⟨?_, ?_, ?_, unexpected_keepAt hkeep⟩
    · rw [check_matched, check_matched, hverdicts]
    · rw [check_missing, check_missing, hverdicts]
    · rw [check_missingAdvisory, check_missingAdvisory, hverdicts]
  · rw [check_matched, check_matched, (run_keepAt hclaimed).1]
  · rw [unexpected_keepAt hclaimed, List.map_eq_nil_iff, List.filter_eq_nil_iff]
    intro entry hentry
    rw [decide_eq_true_eq]
    exact not_claimsAt_of_mem_unexpectedAt hentry

end Fixture

namespace DeletionWitness

/-- Two findings, one line apart. -/
def fixture : Fixture where
  name := "near"
  fileName := "near.cpp"
  summary := ""
  categories := [.misc]
  findings := [1, 2].map fun line => .required "misc-*" .misc line "" ""
  waivers := []
  source := ""

/-- A diagnostic about a line of the file. -/
def report (file : String) (line : Nat) (severity : Severity) (check : String) : Diagnostic :=
  ⟨file, line, 1, severity, "", [check]⟩

/-- Two diagnostics that the findings claim, and one of another file, a note, an ignored one and two
unexpected ones around them. -/
def diagnostics : List Diagnostic :=
  [report "other.cpp" 1 .warning "misc-a", report "near.cpp" 9 .note "misc-b",
    report "near.cpp" 3 .warning "misc-c", report "near.cpp" 9 .warning "llvm-d",
    report "near.cpp" 9 .warning "misc-e", report "near.cpp" 2 .warning "misc-f",
    report "near.cpp" 9 .error "misc-g"]

/-- One line apart is close enough. -/
def options : CheckOptions := ⟨1, ["llvm-*"], false⟩

/-- The first finding claims the diagnostic at position 5 and the second one that at position 2.
Deleting what stands before them and between them moves both. -/
theorem check_keepAt_late :
    (∀ i, fixture.ClaimsAt diagnostics options i → [2, 5, 6].contains i = true) ∧
      (fixture.check (keepAt [2, 5, 6].contains diagnostics) options).matched =
        (fixture.check diagnostics options).matched ∧
      (fixture.check (keepAt [2, 5, 6].contains diagnostics) options).unexpected =
        [report "near.cpp" 9 .error "misc-g"] := by
  have hkeep : ∀ i, fixture.ClaimsAt diagnostics options i → [2, 5, 6].contains i = true := by
    have hall : ∀ entry ∈ fixture.placedClaims diagnostics options,
        entry.1.claimedBy ≠ none → [2, 5, 6].contains entry.2 = true := by
      decide +kernel
    rintro i ⟨entry, hentry, rfl, hne⟩
    exact hall entry hentry hne
  obtain ⟨-, -, hdeletion, -⟩ := fixture.check_keepAt diagnostics options
  obtain ⟨hmatched, -, -, hunexpected⟩ := hdeletion _ hkeep
  refine ⟨hkeep, hmatched, hunexpected.trans ?_⟩
  decide +kernel

end DeletionWitness

end LintCorpus
