import LintCorpus.Proofs.Conformance.Assignment

/-!
What each finding chooses.  When a finding has its turn, the slots hold the claims of the findings
before it and no others (`Fixture.Chooses.claimedBy_eq_some_iff`), so a diagnostic may serve it when
it satisfies the finding and no earlier finding on another line has taken it
(`Fixture.Chooses.fits_iff`).  The report lists what the choices amount to
(`Fixture.Chooses.restsOn`).
-/

namespace LintCorpus

/-- A list is told by what stands at each of its places. -/
theorem eq_map_finRange {α : Type} {entries : List α} {n : Nat} {entry : Fin n → α}
    (hlength : entries.length = n) (hentry : ∀ i : Fin n, entries[i.val]? = some (entry i)) :
    entries = (List.finRange n).map entry := by
  subst hlength
  have hget (i : Fin entries.length) : entries.get i = entry i :=
    Option.some.inj ((List.getElem?_eq_getElem i.isLt).symm.trans (hentry i))
  rw [← funext hget, List.map_get_finRange]

section Choice

variable {findings : List Finding} {relevant : List Diagnostic}

/-- An earlier finding on another line has taken the diagnostic. -/
def TakenBefore (choice : Fin findings.length → Option (Fin relevant.length))
    (k : Fin findings.length) (i : Fin relevant.length) : Prop :=
  ∃ j < k, choice j = some i ∧ (findings.get j).line ≠ (findings.get k).line

/-- The report lists the findings by their choices, and what nothing has chosen. -/
structure Report.RestsOn (report : Report) (options : CheckOptions)
    (choice : Fin findings.length → Option (Fin relevant.length)) : Prop where
  matched : report.matched = (List.finRange findings.length).filterMap fun k =>
    (choice k).map fun i => ⟨findings.get k, relevant.get i⟩
  missing : report.missing = ((List.finRange findings.length).filter fun k =>
    choice k = none ∧ (findings.get k).expectation = .required).map findings.get
  missingAdvisory : report.missingAdvisory = ((List.finRange findings.length).filter fun k =>
    choice k = none ∧ (findings.get k).expectation = .advisory).map findings.get
  unexpected : report.unexpected = ((List.finRange relevant.length).filter fun i =>
    (∀ k, choice k ≠ some i) ∧ (relevant.get i).severity ≠ .note ∧
      ¬ options.Ignored (relevant.get i)).map relevant.get

end Choice

namespace Fixture

variable (fixture : Fixture) (diagnostics : List Diagnostic) (options : CheckOptions)

/-- The fixture's diagnostics with the claims that the first `k` findings made. -/
def slotsBefore (k : Nat) : List Slot :=
  (serveAll options.lineTolerance (fixture.slots diagnostics) (fixture.findings.take k)).2

/-- Each finding chooses what serves it when it has its turn. -/
structure Chooses
    (choice : Fin fixture.findings.length → Option (Fin (fixture.relevant diagnostics).length)) :
    Prop where
  served : ∀ k i, choice k = some i → ∃ slot, Slot.Serves (fixture.findings.get k)
    options.lineTolerance (fixture.slotsBefore diagnostics options k) i slot
  unserved : ∀ k, choice k = none → ∀ slot ∈ fixture.slotsBefore diagnostics options k,
    slot.fits (fixture.findings.get k) options.lineTolerance = false

theorem slotsBefore_length :
    fixture.slotsBefore diagnostics options fixture.findings.length =
      fixture.claims diagnostics options := by
  rw [slotsBefore, List.take_length, claims]

theorem map_diagnostic_slotsBefore (k : Nat) :
    (fixture.slotsBefore diagnostics options k).map Slot.diagnostic =
      fixture.relevant diagnostics :=
  (run_serveAll _ _ _).map_diagnostic.trans (fixture.map_diagnostic_slots diagnostics)

theorem exists_slotsBefore (k : Nat) (i : Fin (fixture.relevant diagnostics).length) :
    ∃ slot, (fixture.slotsBefore diagnostics options k)[i.val]? = some slot ∧
      slot.diagnostic = (fixture.relevant diagnostics).get i := by
  have hmap := congrArg (·[i.val]?) (fixture.map_diagnostic_slotsBefore diagnostics options k)
  simp only [List.getElem?_map, List.getElem?_eq_getElem i.isLt, Option.map_eq_some_iff] at hmap
  exact hmap

theorem exists_chooses : ∃ choice, fixture.Chooses diagnostics options choice := by
  have hturn (k : Fin fixture.findings.length) :
      ∃ chosen : Option (Fin (fixture.relevant diagnostics).length),
        (∀ i, chosen = some i → ∃ slot, Slot.Serves (fixture.findings.get k) options.lineTolerance
          (fixture.slotsBefore diagnostics options k) i slot) ∧
        (chosen = none → ∀ slot ∈ fixture.slotsBefore diagnostics options k,
          slot.fits (fixture.findings.get k) options.lineTolerance = false) := by
    cases hserve : Slot.serve? (fixture.findings.get k) options.lineTolerance
        (fixture.slotsBefore diagnostics options k) with
    | none => exact ⟨none, by simp, fun _ => Slot.serve?_eq_none_iff.mp hserve⟩
    | some result =>
        obtain ⟨index, slot, hserves, -⟩ := Slot.exists_serves_of_serve? hserve
        have hlt : index < (fixture.relevant diagnostics).length := by
          rw [← fixture.map_diagnostic_slotsBefore diagnostics options k, List.length_map]
          exact (List.getElem?_eq_some_iff.mp hserves.at_index).1
        refine ⟨some ⟨index, hlt⟩, ?_, by simp⟩
        rintro i ⟨rfl⟩
        exact ⟨slot, hserves⟩
  choose choice hchoice using hturn
  exact ⟨choice, fun k => (hchoice k).1, fun k => (hchoice k).2⟩

/-- One more finding has its turn. -/
theorem slotsBefore_succ (k : Fin fixture.findings.length) :
    fixture.slotsBefore diagnostics options (k + 1) =
      ((Slot.serve? (fixture.findings.get k) options.lineTolerance
        (fixture.slotsBefore diagnostics options k)).map Prod.snd).getD
          (fixture.slotsBefore diagnostics options k) := by
  rw [slotsBefore, List.take_succ_eq_append_getElem k.isLt, serveAll_append, serveAll,
    ← slotsBefore, List.get_eq_getElem]
  cases Slot.serve? fixture.findings[k.val] options.lineTolerance _ <;> rfl

theorem diagnostic_slotsBefore {k : Nat} {i : Fin (fixture.relevant diagnostics).length}
    {slot : Slot} (hat : (fixture.slotsBefore diagnostics options k)[i.val]? = some slot) :
    slot.diagnostic = (fixture.relevant diagnostics).get i := by
  obtain ⟨_, hat', hdiagnostic⟩ := fixture.exists_slotsBefore diagnostics options k i
  obtain rfl := Option.some.inj (hat.symm.trans hat')
  exact hdiagnostic

theorem getElem?_verdicts (k : Fin fixture.findings.length) :
    (fixture.verdicts diagnostics options)[k.val]? =
      some ⟨fixture.findings.get k, (Slot.serve? (fixture.findings.get k) options.lineTolerance
        (fixture.slotsBefore diagnostics options k)).map Prod.fst⟩ := by
  have hat := getElem?_serveAll_append options.lineTolerance (fixture.slots diagnostics)
    (fixture.findings.take k) (fixture.findings.drop (k + 1)) (fixture.findings.get k)
  rwa [List.get_eq_getElem, ← List.drop_eq_getElem_cons k.isLt, List.take_append_drop,
    List.length_take_of_le (Nat.le_of_lt k.isLt)] at hat

namespace Chooses

variable {fixture diagnostics options}
  {choice : Fin fixture.findings.length → Option (Fin (fixture.relevant diagnostics).length)}

theorem slotsBefore_succ_of_none (hchooses : fixture.Chooses diagnostics options choice)
    {k : Fin fixture.findings.length} (hk : choice k = none) :
    fixture.slotsBefore diagnostics options (k + 1) =
      fixture.slotsBefore diagnostics options k := by
  rw [slotsBefore_succ, Slot.serve?_eq_none_iff.mpr (hchooses.unserved k hk)]
  rfl

theorem slotsBefore_succ_of_some (hchooses : fixture.Chooses diagnostics options choice)
    {k : Fin fixture.findings.length} {i : Fin (fixture.relevant diagnostics).length}
    (hk : choice k = some i) : ∃ slot, slot.isOpenTo (fixture.findings.get k).line = true ∧
      (fixture.slotsBefore diagnostics options k)[i.val]? = some slot ∧
      fixture.slotsBefore diagnostics options (k + 1) =
        (fixture.slotsBefore diagnostics options k).set i
          (slot.claim (fixture.findings.get k).line) := by
  obtain ⟨slot, hserves⟩ := hchooses.served k i hk
  refine ⟨slot, hserves.isOpenTo, hserves.at_index, ?_⟩
  rw [slotsBefore_succ, Slot.serve?_eq_some_of_serves hserves]
  rfl

/-- In its turn a finding adds its own line, at the position that it chooses. -/
theorem claimedBy_succ_iff (hchooses : fixture.Chooses diagnostics options choice)
    (k : Fin fixture.findings.length) {i : Fin (fixture.relevant diagnostics).length} {slot' : Slot}
    (hat' : (fixture.slotsBefore diagnostics options (k + 1))[i.val]? = some slot') :
    ∃ slot, (fixture.slotsBefore diagnostics options k)[i.val]? = some slot ∧
      ∀ line, slot'.claimedBy = some line ↔ slot.claimedBy = some line ∨
        choice k = some i ∧ (fixture.findings.get k).line = line := by
  cases hk : choice k with
  | none =>
      rw [hchooses.slotsBefore_succ_of_none hk] at hat'
      exact ⟨slot', hat', by simp⟩
  | some chosen =>
      obtain ⟨slot, hopen, hat, hslots⟩ := hchooses.slotsBefore_succ_of_some hk
      rw [hslots] at hat'
      by_cases hi : chosen = i
      · subst hi
        obtain ⟨hlt, -⟩ := List.getElem?_eq_some_iff.mp hat
        rw [List.getElem?_set_self hlt, Option.some.injEq] at hat'
        subst hat'
        refine ⟨slot, hat, fun line => ?_⟩
        rw [Slot.claim_claimedBy_of_isOpenTo hopen, Option.some.injEq]
        constructor
        · intro hline
          exact Or.inr ⟨rfl, hline⟩
        · rintro (hclaim | ⟨-, hline⟩)
          · exact (Slot.isOpenTo_iff.mp hopen line hclaim).symm
          · exact hline
      · rw [List.getElem?_set_ne (Fin.val_ne_of_ne hi)] at hat'
        exact ⟨slot', hat', by simp [hi]⟩

/-- When a finding has its turn, the slots hold the lines of the findings before it, each at the
position that the finding has chosen. -/
theorem claimedBy_eq_some_iff (hchooses : fixture.Chooses diagnostics options choice) {k : Nat}
    (hk : k ≤ fixture.findings.length) {i : Fin (fixture.relevant diagnostics).length} {slot : Slot}
    (hat : (fixture.slotsBefore diagnostics options k)[i.val]? = some slot) {line : Nat} :
    slot.claimedBy = some line ↔
      ∃ j, j.val < k ∧ choice j = some i ∧ (fixture.findings.get j).line = line := by
  induction k generalizing slot with
  | zero =>
      have hfree : slot.claimedBy = none := (mem_slots_iff.mp (List.mem_of_getElem? hat)).2
      simp [hfree]
  | succ k ih =>
      obtain ⟨before, hbefore, hclaim⟩ := hchooses.claimedBy_succ_iff ⟨k, hk⟩ hat
      rw [hclaim, ih (Nat.le_of_succ_le hk) hbefore]
      constructor
      · rintro (⟨j, hj, hchosen⟩ | hchosen)
        · exact ⟨j, Nat.lt_succ_of_lt hj, hchosen⟩
        · exact ⟨⟨k, hk⟩, Nat.lt_succ_self k, hchosen⟩
      · rintro ⟨j, hj, hchosen⟩
        rcases Nat.lt_succ_iff_lt_or_eq.mp hj with hlt | rfl
        · exact Or.inl ⟨j, hlt, hchosen⟩
        · exact Or.inr hchosen

/-- The diagnostic may serve a finding in its turn when it satisfies the finding and no earlier one
on another line has taken it. -/
theorem fits_iff (hchooses : fixture.Chooses diagnostics options choice)
    {k : Fin fixture.findings.length} {i : Fin (fixture.relevant diagnostics).length} {slot : Slot}
    (hat : (fixture.slotsBefore diagnostics options k)[i.val]? = some slot) :
    slot.fits (fixture.findings.get k) options.lineTolerance = true ↔
      (fixture.findings.get k).satisfiedBy options.lineTolerance
        ((fixture.relevant diagnostics).get i) = true ∧ ¬ TakenBefore choice k i := by
  rw [Slot.fits_iff, fixture.diagnostic_slotsBefore diagnostics options hat, and_comm,
    Slot.isOpenTo_iff]
  apply and_congr_right
  intro _
  simp only [hchooses.claimedBy_eq_some_iff (Nat.le_of_lt k.isLt) hat]
  constructor
  · rintro hopen ⟨j, hj, hchosen, hline⟩
    exact hline (hopen _ ⟨j, hj, hchosen, rfl⟩)
  · rintro hfree _ ⟨j, hj, hchosen, rfl⟩
    by_contra hline
    exact hfree ⟨j, hj, hchosen, hline⟩

theorem map_fst_serve? (hchooses : fixture.Chooses diagnostics options choice)
    (k : Fin fixture.findings.length) :
    (Slot.serve? (fixture.findings.get k) options.lineTolerance
        (fixture.slotsBefore diagnostics options k)).map Prod.fst =
      (choice k).map (fixture.relevant diagnostics).get := by
  cases hk : choice k with
  | none =>
      rw [Slot.serve?_eq_none_iff.mpr (hchooses.unserved k hk)]
      rfl
  | some i =>
      obtain ⟨slot, hserves⟩ := hchooses.served k i hk
      rw [Slot.serve?_eq_some_of_serves hserves, Option.map_some, Option.map_some,
        fixture.diagnostic_slotsBefore diagnostics options hserves.at_index]

/-- The verdicts are the findings with what they choose. -/
theorem verdicts_eq (hchooses : fixture.Chooses diagnostics options choice) :
    fixture.verdicts diagnostics options = (List.finRange fixture.findings.length).map fun k =>
      ⟨fixture.findings.get k, (choice k).map (fixture.relevant diagnostics).get⟩ := by
  have hlength := congrArg List.length (fixture.run_verdicts diagnostics options).map_finding
  rw [List.length_map] at hlength
  refine eq_map_finRange hlength fun k => ?_
  rw [fixture.getElem?_verdicts, hchooses.map_fst_serve?]

theorem claimedBy_eq_none_iff (hchooses : fixture.Chooses diagnostics options choice)
    {i : Fin (fixture.relevant diagnostics).length} {slot : Slot}
    (hat : (fixture.claims diagnostics options)[i.val]? = some slot) :
    slot.claimedBy = none ↔ ∀ k, choice k ≠ some i := by
  rw [← slotsBefore_length] at hat
  rw [Option.eq_none_iff_forall_ne_some]
  simp only [ne_eq, hchooses.claimedBy_eq_some_iff (Nat.le_refl _) hat]
  constructor
  · intro hnone k hk
    exact hnone _ ⟨k, k.isLt, hk, rfl⟩
  · rintro hnone _ ⟨k, -, hk, -⟩
    exact hnone k hk

theorem filterMap_missing?_eq (hchooses : fixture.Chooses diagnostics options choice)
    (expectation : Expectation) :
    (fixture.verdicts diagnostics options).filterMap (Verdict.missing? expectation) =
      ((List.finRange fixture.findings.length).filter fun k =>
        choice k = none ∧ (fixture.findings.get k).expectation = expectation).map
          fixture.findings.get := by
  rw [hchooses.verdicts_eq, List.filterMap_map, ← List.filterMap_eq_filter, List.map_filterMap]
  apply List.filterMap_congr
  intro k _
  cases hk : choice k with
  | none => simp [Verdict.missing?, hk, Option.guard, apply_ite]
  | some i => simp [Verdict.missing?, hk, Option.guard]

theorem claims_eq (hchooses : fixture.Chooses diagnostics options choice) :
    ∃ claimedBy : Fin (fixture.relevant diagnostics).length → Option Nat,
      fixture.claims diagnostics options =
        (List.finRange (fixture.relevant diagnostics).length).map (fun i =>
          ⟨(fixture.relevant diagnostics).get i, claimedBy i⟩) ∧
      ∀ i, claimedBy i = none ↔ ∀ k, choice k ≠ some i := by
  have hat := fixture.exists_slotsBefore diagnostics options fixture.findings.length
  rw [slotsBefore_length] at hat
  choose slot hat hdiagnostic using hat
  refine ⟨fun i => (slot i).claimedBy, ?_, fun i => hchooses.claimedBy_eq_none_iff (hat i)⟩
  have hlength := congrArg List.length (fixture.map_diagnostic_claims diagnostics options)
  rw [List.length_map] at hlength
  refine eq_map_finRange hlength fun i => (hat i).trans ?_
  exact congrArg some (Slot.ext (hdiagnostic i) rfl)

theorem restsOn (hchooses : fixture.Chooses diagnostics options choice) :
    (fixture.check diagnostics options).RestsOn options choice := by
  refine ⟨?_, hchooses.filterMap_missing?_eq .required, hchooses.filterMap_missing?_eq .advisory,
    ?_⟩
  · rw [check_matched, hchooses.verdicts_eq, List.filterMap_map]
    apply List.filterMap_congr
    intro k _
    cases hk : choice k <;> simp [Verdict.match?, hk]
  · obtain ⟨claimedBy, hclaims, hclaimed⟩ := hchooses.claims_eq
    rw [check_unexpected, hclaims, List.filterMap_map, ← List.filterMap_eq_filter,
      List.map_filterMap]
    apply List.filterMap_congr
    intro i _
    simp only [Function.comp_apply, CheckOptions.unexpected?_eq, hclaimed, Option.guard,
      decide_eq_true_eq]
    split <;> rfl

end Chooses

end Fixture

end LintCorpus
