import LintCorpus.Glob
import LintCorpus.Text.Basic

/-!
What a pattern begins with.  Plain characters at the front of a pattern stand for themselves, so a
rule that begins with them covers only checks that do (`prefix_of_covers`), whether or not what
follows them is a pattern.
-/

namespace LintCorpus.Glob

/-- A character that stands for itself wherever it stands in a pattern. -/
def IsPlain (c : Char) : Prop :=
  c ≠ '?' ∧ c ≠ '*' ∧ c ≠ '['

instance (c : Char) : Decidable (IsPlain c) :=
  inferInstanceAs (Decidable (_ ∧ _))

theorem tokens?_cons_of_isPlain {c : Char} (hc : IsPlain c) (position : Nat)
    (previous : Option Char) (rest : List Char) :
    tokens? position previous (c :: rest) =
      (tokens? (position + 1) (some c) rest).map (.literal c :: ·) := by
  obtain ⟨hone, hstar, hbracket⟩ := hc
  rw [tokens?]
  · cases tokens? (position + 1) (some c) rest <;> rfl
  · exact hone
  · exact fun _ h _ => hstar h
  · exact fun _ h _ => hstar h
  · exact hstar
  · exact hbracket

/-- A match begins with the plain characters of the pattern. -/
theorem prefix_of_run {front rest cs : List Char} (hplain : ∀ c ∈ front, IsPlain c)
    {position : Nat} {previous : Option Char} {pattern : Pattern}
    (hpattern : tokens? position previous (front ++ rest) = .ok pattern)
    (hrun : run pattern cs = .matched) : front <+: cs := by
  induction front generalizing position previous pattern cs with
  | nil => exact List.nil_prefix
  | cons c front ih =>
      obtain ⟨hc, hfront⟩ := List.forall_mem_cons.mp hplain
      rw [List.cons_append, tokens?_cons_of_isPlain hc] at hpattern
      cases hmore : tokens? (position + 1) (some c) (front ++ rest) with
      | error malformed =>
          rw [hmore] at hpattern
          cases hpattern
      | ok more =>
          rw [hmore] at hpattern
          cases hpattern
          cases cs with
          | nil => cases hrun
          | cons d cs =>
              by_cases hd : d = c
              · simp only [run, tryOne, hd, decide_true, ↓reduceIte] at hrun
                subst hd
                exact List.prefix_cons_inj d |>.mpr (ih hfront hmore hrun)
              · simp [run, tryOne, hd] at hrun

/-- A rule that begins with plain characters covers only checks that begin with them. -/
theorem prefix_of_covers {rule check : String} {front : List Char}
    (hplain : ∀ c ∈ front, IsPlain c) (hrule : front <+: rule.toList)
    (hcovers : covers rule check = true) : front <+: check.toList := by
  obtain ⟨rest, hrest⟩ := hrule
  cases hpattern : Pattern.ofText? rule with
  | ok pattern =>
      rw [covers, hpattern] at hcovers
      rw [Pattern.ofText?, ← hrest] at hpattern
      exact prefix_of_run hplain hpattern (by simpa [Pattern.accepts] using hcovers)
  | error malformed =>
      rw [covers, hpattern] at hcovers
      have hsame : rule = check := by simpa using hcovers
      exact hsame ▸ ⟨rest, hrest⟩

end LintCorpus.Glob
