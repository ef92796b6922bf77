import LintCorpus.Proofs.Text.Cut
import LintCorpus.Text.Basic

/-!
Blanks around a text: trimming takes them away, lower case leaves them alone, and what neither
begins nor ends with a blank occurs among them only inside the text.
-/

namespace LintCorpus.Text

variable {needle blanks cs : List Char}

/-- The text stands between blanks. -/
theorem exists_eq_append_trim (cs : List Char) : ∃ before after,
    cs = before ++ (trim cs ++ after) ∧ (∀ c ∈ before, isBlank c = true) ∧
      ∀ c ∈ after, isBlank c = true := by
  obtain ⟨after, hcs, hafter, -⟩ := trimEnd_eq_iff.mp (rfl : trimEnd (trimStart cs) = trim cs)
  refine ⟨cs.takeWhile isBlank, after, ?_, List.all_eq_true.mp List.all_takeWhile, hafter⟩
  have hstart : cs.takeWhile isBlank ++ trimStart cs = cs := List.takeWhile_append_dropWhile
  exact hstart.symm.trans (congrArg _ hcs)

theorem lowerChar_of_isBlank {c : Char} (hc : isBlank c = true) : lowerChar c = [c] := by
  have hrange : ¬ (65 ≤ c.toNat ∧ c.toNat ≤ 90) ∧ c.toNat ≠ 0x212A ∧ c.toNat ≠ 0x130 := by
    simp only [isBlank, inRanges, blankRanges, List.any_cons, List.any_nil, Bool.or_eq_true,
      Bool.and_eq_true, decide_eq_true_eq, Bool.or_false] at hc
    omega
  obtain ⟨hletter, hkelvin, hdotted⟩ := hrange
  have hlower : c.toLower = c := by
    apply dif_neg
    rintro ⟨hlow, hhigh⟩
    exact hletter ⟨UInt32.le_iff_toNat_le.mp hlow, UInt32.le_iff_toNat_le.mp hhigh⟩
  rw [lowerChar, if_neg hkelvin, if_neg hdotted, hlower]

theorem lowercase_append (front rest : List Char) :
    lowercase (front ++ rest) = lowercase front ++ lowercase rest :=
  List.flatMap_append

theorem lowercase_eq_self (hblanks : ∀ c ∈ blanks, isBlank c = true) :
    lowercase blanks = blanks := by
  induction blanks with
  | nil => rfl
  | cons c blanks ih =>
      obtain ⟨hc, hblanks⟩ := List.forall_mem_cons.mp hblanks
      rw [lowercase, List.flatMap_cons, lowerChar_of_isBlank hc, ← lowercase, ih hblanks,
        List.singleton_append]

/-- A needle that does not begin with a blank does not begin among blanks. -/
theorem infix_blanks_append_iff (hne : needle ≠ [])
    (hneedle : ∀ c ∈ needle.head?, isBlank c = false)
    (hblanks : ∀ c ∈ blanks, isBlank c = true) : needle <:+: blanks ++ cs ↔ needle <:+: cs := by
  induction blanks with
  | nil => rfl
  | cons b blanks ih =>
      obtain ⟨hb, hblanks⟩ := List.forall_mem_cons.mp hblanks
      rw [List.cons_append, List.infix_cons_iff, ih hblanks, or_iff_right]
      intro hprefix
      cases needle with
      | nil => exact hne rfl
      | cons c needle =>
          obtain ⟨rfl, -⟩ := List.cons_prefix_cons.mp hprefix
          have hc := hneedle c rfl
          simp [hb] at hc

theorem infix_append_blanks_iff (hne : needle ≠ [])
    (hneedle : ∀ c ∈ needle.getLast?, isBlank c = false)
    (hblanks : ∀ c ∈ blanks, isBlank c = true) : needle <:+: cs ++ blanks ↔ needle <:+: cs := by
  rw [← List.reverse_infix, List.reverse_append, infix_blanks_append_iff, List.reverse_infix]
  · simpa using hne
  · simpa using hneedle
  · simpa using hblanks

end LintCorpus.Text
