import LintCorpus.Conformance

/-!
Serving one finding.  `Slot.Serves` says which position `Slot.serve?` claims: among the slots that
fit, the closest ones count, and of those the first.  `Slot.serve?_eq_none_iff` and
`Slot.exists_serves_of_serve?` are all that later modules need to know of the search.
-/

namespace LintCorpus

theorem lineDistance_le_iff {a b bound : Nat} :
    lineDistance a b ≤ bound ↔ a ≤ b + bound ∧ b ≤ a + bound := by
  unfold lineDistance
  omega

theorem Finding.satisfiedBy_iff {finding : Finding} {tolerance : Nat} {diagnostic : Diagnostic} :
    finding.satisfiedBy tolerance diagnostic = true ↔
      lineDistance finding.line diagnostic.line ≤ tolerance ∧
        ∃ check ∈ diagnostic.checks, finding.coversCheck check = true := by
  simp [Finding.satisfiedBy]

/-- A wider tolerance satisfies at least as much. -/
theorem Finding.satisfiedBy_mono {finding : Finding} {narrow wide : Nat} (hle : narrow ≤ wide)
    {diagnostic : Diagnostic} (hsat : finding.satisfiedBy narrow diagnostic = true) :
    finding.satisfiedBy wide diagnostic = true := by
  rw [Finding.satisfiedBy_iff] at hsat ⊢
  exact ⟨Nat.le_trans hsat.1 hle, hsat.2⟩

attribute [ext] Slot

namespace Slot

theorem isOpenTo_iff {slot : Slot} {line : Nat} :
    slot.isOpenTo line = true ↔ ∀ claimant, slot.claimedBy = some claimant → claimant = line := by
  simp [isOpenTo, Option.all_eq_true]

theorem fits_iff {slot : Slot} {finding : Finding} {tolerance : Nat} :
    slot.fits finding tolerance = true ↔
      slot.isOpenTo finding.line = true ∧
        finding.satisfiedBy tolerance slot.diagnostic = true := by
  simp [fits]

@[simp] theorem claim_diagnostic (line : Nat) (slot : Slot) :
    (slot.claim line).diagnostic = slot.diagnostic := rfl

theorem claim_claimedBy_of_isOpenTo {slot : Slot} {line : Nat}
    (hopen : slot.isOpenTo line = true) : (slot.claim line).claimedBy = some line := by
  cases hclaim : slot.claimedBy with
  | none => simp [claim, hclaim]
  | some claimant => simp [claim, hclaim, isOpenTo_iff.mp hopen claimant hclaim]

/-- A claim closes a slot to other lines and opens it to none. -/
theorem isOpenTo_of_claim {slot : Slot} {line other : Nat}
    (hopen : slot.isOpenTo line = true) (hclaim : (slot.claim line).isOpenTo other = true) :
    slot.isOpenTo other = true := by
  have heq : line = other :=
    isOpenTo_iff.mp hclaim line (claim_claimedBy_of_isOpenTo hopen)
  exact heq ▸ hopen

theorem claimFirst_eq_none_iff {p : Slot → Bool} {line : Nat} {slots : List Slot} :
    claimFirst p line slots = none ↔ ∀ slot ∈ slots, p slot = false := by
  induction slots with
  | nil => simp [claimFirst]
  | cons slot rest ih =>
      cases hp : p slot with
      | true => simp [claimFirst, hp]
      | false => simp [claimFirst, hp, ih]

/-- `claimFirst` claims the first slot that satisfies `p` and leaves the others alone. -/
theorem exists_first_of_claimFirst {p : Slot → Bool} {line : Nat} {slots : List Slot}
    {result : Diagnostic × List Slot} (hclaim : claimFirst p line slots = some result) :
    ∃ index slot, slots[index]? = some slot ∧ p slot = true ∧
      (∀ j other, slots[j]? = some other → p other = true → index ≤ j) ∧
      result = (slot.diagnostic, slots.set index (slot.claim line)) := by
  induction slots generalizing result with
  | nil => simp [claimFirst] at hclaim
  | cons head rest ih =>
      cases hp : p head with
      | true =>
          simp only [claimFirst, hp, ↓reduceIte, Option.some.injEq] at hclaim
          exact ⟨0, head, rfl, hp, fun j _ _ _ => Nat.zero_le j, hclaim.symm⟩
      | false =>
          simp only [claimFirst, hp, Bool.false_eq_true, ↓reduceIte,
            Option.map_eq_some_iff] at hclaim
          obtain ⟨later, hlater, rfl⟩ := hclaim
          obtain ⟨index, slot, hat, hslot, hfirst, rfl⟩ := ih hlater
          refine ⟨index + 1, slot, hat, hslot, ?_, rfl⟩
          intro j other hother hpother
          cases j with
          | zero =>
              simp only [List.getElem?_cons_zero, Option.some.injEq] at hother
              simp [← hother, hp] at hpother
          | succ j => exact Nat.succ_le_succ (hfirst j other hother hpother)

theorem leastDistance?_eq_none_iff {finding : Finding} {tolerance : Nat} {slots : List Slot} :
    leastDistance? finding tolerance slots = none ↔
      ∀ slot ∈ slots, slot.fits finding tolerance = false := by
  simp [leastDistance?]

theorem leastDistance?_eq_some_iff {finding : Finding} {tolerance least : Nat}
    {slots : List Slot} :
    leastDistance? finding tolerance slots = some least ↔
      (∃ slot ∈ slots, slot.fits finding tolerance = true ∧ slot.distance finding = least) ∧
        ∀ slot ∈ slots, slot.fits finding tolerance = true → least ≤ slot.distance finding := by
  rw [leastDistance?, List.min?_eq_some_iff]
  simp only [List.mem_map, List.mem_filter, and_assoc]
  exact and_congr_right fun _ =>
    ⟨fun hmin slot hmem hfits => hmin _ ⟨slot, hmem, hfits, rfl⟩,
      fun hmin _ ⟨slot, hmem, hfits, hdist⟩ => hdist ▸ hmin slot hmem hfits⟩

/-- The slot at `index` is the one that serves the finding. -/
structure Serves (finding : Finding) (tolerance : Nat) (slots : List Slot) (index : Nat)
    (slot : Slot) : Prop where
  at_index : slots[index]? = some slot
  fits : slot.fits finding tolerance = true
  /-- No slot that fits is closer. -/
  closest : ∀ (j : Nat) (other : Slot), slots[j]? = some other →
    other.fits finding tolerance = true → slot.distance finding ≤ other.distance finding
  /-- No slot that fits and is as close comes before it. -/
  first : ∀ (j : Nat) (other : Slot), slots[j]? = some other →
    other.fits finding tolerance = true → other.distance finding = slot.distance finding → index ≤ j

namespace Serves

variable {finding : Finding} {tolerance index : Nat} {slots : List Slot} {slot : Slot}

theorem isOpenTo (hserves : Serves finding tolerance slots index slot) :
    slot.isOpenTo finding.line = true :=
  (fits_iff.mp hserves.fits).1

theorem satisfiedBy (hserves : Serves finding tolerance slots index slot) :
    finding.satisfiedBy tolerance slot.diagnostic = true :=
  (fits_iff.mp hserves.fits).2

/-- At most one position serves a finding. -/
theorem index_unique (hserves : Serves finding tolerance slots index slot) {index' : Nat}
    {slot' : Slot} (hserves' : Serves finding tolerance slots index' slot') : index = index' := by
  have hle := hserves.closest index' slot' hserves'.at_index hserves'.fits
  have hge := hserves'.closest index slot hserves.at_index hserves.fits
  have hdist : slot.distance finding = slot'.distance finding := Nat.le_antisymm hle hge
  exact Nat.le_antisymm
    (hserves.first index' slot' hserves'.at_index hserves'.fits hdist.symm)
    (hserves'.first index slot hserves.at_index hserves.fits hdist)

end Serves

/-- The slots before the one that serves the finding are farther away if they fit, and those behind
it are not closer. -/
theorem serves_append_iff {finding : Finding} {tolerance : Nat} {before after : List Slot}
    {slot : Slot} :
    Serves finding tolerance (before ++ slot :: after) before.length slot ↔
      slot.fits finding tolerance = true ∧
        (∀ other ∈ before, other.fits finding tolerance = true →
          slot.distance finding < other.distance finding) ∧
        ∀ other ∈ after, other.fits finding tolerance = true →
          slot.distance finding ≤ other.distance finding := by
  constructor
  · intro hserves
    refine ⟨hserves.fits, ?_, ?_⟩
    · intro other hother hfits
      obtain ⟨j, hj, rfl⟩ := List.mem_iff_getElem.mp hother
      have hat : (before ++ slot :: after)[j]? = some before[j] := by
        rw [List.getElem?_append_left hj, List.getElem?_eq_getElem hj]
      apply Nat.lt_of_le_of_ne (hserves.closest j _ hat hfits)
      intro heq
      exact absurd hj (Nat.not_lt.mpr (hserves.first j _ hat hfits heq.symm))
    · intro other hother hfits
      have hmem : other ∈ before ++ slot :: after :=
        List.mem_append_right before (List.mem_cons_of_mem slot hother)
      obtain ⟨j, hat⟩ := List.mem_iff_getElem?.mp hmem
      exact hserves.closest j other hat hfits
  · rintro ⟨hfits, hbefore, hafter⟩
    refine ⟨by simp, hfits, ?_, ?_⟩
    · intro j other hat hother
      rcases List.mem_append.mp (List.mem_of_getElem? hat) with hmem | hmem
      · exact Nat.le_of_lt (hbefore other hmem hother)
      · rcases List.mem_cons.mp hmem with rfl | hmem
        · exact Nat.le_refl _
        · exact hafter other hmem hother
    · intro j other hat hother hdistance
      apply Nat.le_of_not_lt
      intro hj
      rw [List.getElem?_append_left hj] at hat
      have hlt := hbefore other (List.mem_of_getElem? hat) hother
      exact absurd hdistance (Nat.ne_of_gt hlt)

theorem serve?_eq_none_iff {finding : Finding} {tolerance : Nat} {slots : List Slot} :
    serve? finding tolerance slots = none ↔
      ∀ slot ∈ slots, slot.fits finding tolerance = false := by
  rw [← leastDistance?_eq_none_iff, serve?]
  cases hleast : leastDistance? finding tolerance slots with
  | none => simp
  | some least =>
      obtain ⟨⟨slot, hmem, hfits, hdist⟩, -⟩ := leastDistance?_eq_some_iff.mp hleast
      simp only [claimFirst_eq_none_iff, reduceCtorEq, iff_false]
      intro hnone
      simpa [hfits, hdist] using hnone slot hmem

/-- A finding that is served claims the slot that serves it. -/
theorem exists_serves_of_serve? {finding : Finding} {tolerance : Nat} {slots : List Slot}
    {result : Diagnostic × List Slot} (hserve : serve? finding tolerance slots = some result) :
    ∃ index slot, Serves finding tolerance slots index slot ∧
      result = (slot.diagnostic, slots.set index (slot.claim finding.line)) := by
  cases hleast : leastDistance? finding tolerance slots with
  | none => simp [serve?, hleast] at hserve
  | some least =>
      simp only [serve?, hleast] at hserve
      obtain ⟨-, hmin⟩ := leastDistance?_eq_some_iff.mp hleast
      obtain ⟨index, slot, hat, hslot, hfirst, rfl⟩ := exists_first_of_claimFirst hserve
      rw [Bool.and_eq_true, decide_eq_true_eq] at hslot
      obtain ⟨hfits, hdist⟩ := hslot
      refine ⟨index, slot, ⟨hat, hfits, ?_, ?_⟩, rfl⟩
      · intro j other hother hfitsOther
        rw [hdist]
        exact hmin other (List.mem_of_getElem? hother) hfitsOther
      · intro j other hother hfitsOther hdistOther
        apply hfirst j other hother
        simp [hfitsOther, hdistOther, hdist]

/-- What serves a finding is what the search claims for it. -/
theorem serve?_eq_some_of_serves {finding : Finding} {tolerance index : Nat}
    {slots : List Slot} {slot : Slot} (hserves : Serves finding tolerance slots index slot) :
    serve? finding tolerance slots =
      some (slot.diagnostic, slots.set index (slot.claim finding.line)) := by
  cases hserve : serve? finding tolerance slots with
  | none =>
      have hfits := serve?_eq_none_iff.mp hserve slot (List.mem_of_getElem? hserves.at_index)
      simp [hserves.fits] at hfits
  | some result =>
      obtain ⟨index', slot', hserves', rfl⟩ := exists_serves_of_serve? hserve
      obtain rfl := hserves.index_unique hserves'
      obtain rfl := Option.some.inj (hserves.at_index.symm.trans hserves'.at_index)
      rfl

end Slot

end LintCorpus
