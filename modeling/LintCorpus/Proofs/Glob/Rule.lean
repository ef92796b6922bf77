import Mathlib.Data.List.Forall2
import LintCorpus.Proofs.Conformance.Assignment
import LintCorpus.Proofs.Glob.Front
import LintCorpus.Proofs.Glob.Matching

/-!
The checks that a rule is about.  A rule that is no pattern is about the check that it names, and a
pattern about those that it describes (`Concerns`).  Without sets and double stars a pattern is read
character by character, so that it describes a check when replacing its stars and question marks
gives the check (`Yields`).  Findings and ignored patterns are about checks in the same way
(`rules_concern_checks`).
-/

namespace LintCorpus.Glob

/-- What may be put in the place of a character of a rule: any text for a star, one character for a
question mark, and nothing but itself for any other character. -/
inductive Replaces : Char → List Char → Prop where
  | star (text : List Char) : Replaces '*' text
  | one (d : Char) : Replaces '?' [d]
  | self {c : Char} (hstar : c ≠ '*') (hone : c ≠ '?') : Replaces c [c]

/-- The text is the rule with something put in the place of each character. -/
def Yields (rule cs : List Char) : Prop :=
  ∃ parts, List.Forall₂ Replaces rule parts ∧ parts.flatten = cs

/-- The rule is about the check: as a pattern, or word for word when it is none. -/
inductive Concerns (rule check : String) : Prop where
  | pattern {pattern : Pattern} (hread : Pattern.ofText? rule = .ok pattern)
      (hcheck : Describes pattern check.toList) : Concerns rule check
  | word (hmalformed : ¬ IsPattern none rule.toList) (hcheck : check = rule) : Concerns rule check

theorem covers_iff_concerns {rule check : String} :
    covers rule check = true ↔ Concerns rule check := by
  cases hread : Pattern.ofText? rule with
  | ok pattern =>
      rw [covers, hread, Pattern.accepts_iff hread]
      constructor
      · exact .pattern hread
      · intro hconcerns
        cases hconcerns with
        | pattern hread' hcheck =>
            obtain rfl := Except.ok.inj (hread.symm.trans hread')
            exact hcheck
        | word hmalformed => exact absurd (Pattern.exists_ofText?_iff.mp ⟨_, hread⟩) hmalformed
  | error malformed =>
      rw [covers, hread, decide_eq_true_eq]
      have hmalformed := Pattern.exists_error_ofText?_iff.mp ⟨_, hread⟩
      constructor
      · intro hsame
        exact .word hmalformed hsame.symm
      · intro hconcerns
        cases hconcerns with
        | pattern hread' => exact absurd (Pattern.exists_ofText?_iff.mp ⟨_, hread'⟩) hmalformed
        | word _ hcheck => exact hcheck.symm

theorem concerns_iff_of_not_isPattern {rule check : String}
    (hmalformed : ¬ IsPattern none rule.toList) : Concerns rule check ↔ check = rule := by
  constructor
  · intro hconcerns
    cases hconcerns with
    | pattern hread => exact absurd (Pattern.exists_ofText?_iff.mp ⟨_, hread⟩) hmalformed
    | word _ hcheck => exact hcheck
  · exact .word hmalformed

/-- The part of a pattern that a character is by itself. -/
def Token.ofChar (c : Char) : Token :=
  if c = '*' then .anyText else if c = '?' then .anyOne else .literal c

/-- A star with another one behind it is no end of a rule without double stars. -/
theorem tokens?_eq_ok_map {position : Nat} {previous : Option Char} {rule : List Char}
    (hset : '[' ∉ rule) (hstars : ¬ ['*', '*'] <:+: rule) :
    tokens? position previous rule = .ok (rule.map Token.ofChar) := by
  have htail {c : Char} {rest : List Char} (hstars : ¬ ['*', '*'] <:+: c :: rest) :
      ¬ ['*', '*'] <:+: rest := fun hstarred =>
    hstars (hstarred.trans (List.suffix_cons c rest).isInfix)
  have hdouble (rest : List Char) : ['*', '*'] <:+: '*' :: '*' :: rest :=
    (List.prefix_append ['*', '*'] rest).isInfix
  fun_induction tokens? position previous rule with
  | case1 position previous => rfl
  | case2 _ _ _ ih | case7 _ _ _ _ _ ih =>
      rw [ih (fun h => hset (List.mem_cons_of_mem _ h)) (htail hstars)]
      rfl
  | case3 | case4 | case5 | case6 => exact absurd (hdouble _) hstars
  | case8 | case9 => exact absurd List.mem_cons_self hset
  | case10 position previous c rest hone _ _ hstar _ ih =>
      rw [ih (fun h => hset (List.mem_cons_of_mem _ h)) (htail hstars), List.map_cons,
        Token.ofChar, if_neg hstar, if_neg hone]
      rfl

section Replacing

variable {c : Char} {rule cs : List Char}

theorem yields_nil_iff : Yields [] cs ↔ cs = [] := by
  simp [Yields, eq_comm]

theorem yields_cons_iff :
    Yields (c :: rule) cs ↔
      ∃ part rest, Replaces c part ∧ Yields rule rest ∧ part ++ rest = cs := by
  simp only [Yields, List.forall₂_cons_left_iff]
  constructor
  · rintro ⟨_, ⟨part, parts, hpart, hparts, rfl⟩, rfl⟩
    exact ⟨part, parts.flatten, hpart, ⟨parts, hparts, rfl⟩, rfl⟩
  · rintro ⟨part, _, hpart, ⟨parts, hparts, rfl⟩, rfl⟩
    exact ⟨part :: parts, ⟨part, parts, hpart, hparts, rfl⟩, rfl⟩

theorem Replaces.eq_singleton {part : List Char} (hpart : Replaces c part) (hstar : c ≠ '*') :
    ∃ d, part = [d] := by
  cases hpart with
  | star => exact absurd rfl hstar
  | one d => exact ⟨d, rfl⟩
  | self => exact ⟨c, rfl⟩

theorem admits_ofChar_iff (hstar : c ≠ '*') {d : Char} :
    (Token.ofChar c).Admits d ↔ Replaces c [d] := by
  rw [Token.ofChar, if_neg hstar]
  split
  · rename_i hone
    subst hone
    exact iff_of_true trivial (.one d)
  · rename_i hone
    constructor
    · rintro rfl
      exact .self hstar hone
    · intro hpart
      cases hpart with
      | star => exact absurd rfl hstar
      | one => exact absurd rfl hone
      | self => rfl

/-- The part that a character is by itself describes what may be put in the character's place. -/
theorem describes_ofChar_iff {pattern : Pattern} :
    Describes (Token.ofChar c :: pattern) cs ↔
      ∃ part rest, Replaces c part ∧ Describes pattern rest ∧ part ++ rest = cs := by
  by_cases hstar : c = '*'
  · subst hstar
    rw [Token.ofChar, if_pos rfl, describes_anyText_iff]
    constructor
    · rintro ⟨rest, ⟨front, hcs⟩, hrest⟩
      exact ⟨front, rest, .star front, hrest, hcs⟩
    · rintro ⟨front, rest, -, hrest, hcs⟩
      exact ⟨rest, ⟨front, hcs⟩, hrest⟩
  · have htext : Token.ofChar c ≠ .anyText := by
      rw [Token.ofChar, if_neg hstar]
      split <;> simp
    have hcomponents : Token.ofChar c ≠ .anyComponents := by
      rw [Token.ofChar, if_neg hstar]
      split <;> simp
    constructor
    · intro hdescribes
      cases cs with
      | nil => exact absurd hdescribes (not_describes_cons_nil htext hcomponents)
      | cons d cs =>
          obtain ⟨hd, hcs⟩ := (describes_cons_cons_iff htext hcomponents).mp hdescribes
          exact ⟨[d], cs, (admits_ofChar_iff hstar).mp hd, hcs, rfl⟩
    · rintro ⟨part, rest, hpart, hrest, rfl⟩
      obtain ⟨d, rfl⟩ := hpart.eq_singleton hstar
      exact .one ((admits_ofChar_iff hstar).mpr hpart) hrest

theorem describes_map_ofChar_iff : Describes (rule.map Token.ofChar) cs ↔ Yields rule cs := by
  induction rule generalizing cs with
  | nil => rw [List.map_nil, describes_nil_iff, yields_nil_iff]
  | cons c rule ih => simp only [List.map_cons, describes_ofChar_iff, ih, yields_cons_iff]

theorem yields_iff_of_isPlain (hplain : ∀ c ∈ rule, IsPlain c) : Yields rule cs ↔ cs = rule := by
  induction rule generalizing cs with
  | nil => exact yields_nil_iff
  | cons c rule ih =>
      obtain ⟨⟨hone, hstar, -⟩, hplain⟩ := List.forall_mem_cons.mp hplain
      have hself {part : List Char} : Replaces c part ↔ part = [c] := by
        constructor
        · intro hpart
          cases hpart with
          | star => exact absurd rfl hstar
          | one => exact absurd rfl hone
          | self => rfl
        · rintro rfl
          exact .self hstar hone
      simp [yields_cons_iff, hself, ih hplain, eq_comm]

end Replacing

theorem concerns_iff_yields {rule check : String} (hset : '[' ∉ rule.toList)
    (hstars : ¬ ['*', '*'] <:+: rule.toList) :
    Concerns rule check ↔ Yields rule.toList check.toList := by
  have hread : Pattern.ofText? rule = .ok (rule.toList.map Token.ofChar) :=
    tokens?_eq_ok_map hset hstars
  rw [← covers_iff_concerns, covers, hread, Pattern.accepts_iff hread, describes_map_ofChar_iff]

theorem concerns_iff_of_isPlain {rule check : String} (hplain : ∀ c ∈ rule.toList, IsPlain c) :
    Concerns rule check ↔ check = rule := by
  have hset : '[' ∉ rule.toList := fun hmem => (hplain _ hmem).2.2 rfl
  have hstars : ¬ ['*', '*'] <:+: rule.toList := fun hstarred =>
    (hplain _ (hstarred.subset List.mem_cons_self)).2.1 rfl
  rw [concerns_iff_yields hset hstars, yields_iff_of_isPlain hplain, String.toList_inj]

end LintCorpus.Glob

namespace LintCorpus

theorem CheckOptions.ignores_iff_concerns {options : CheckOptions} {diagnostic : Diagnostic}
    {check : String} (hsingle : diagnostic.checks = [check]) :
    options.ignores diagnostic = true ↔
      ∃ pattern ∈ options.ignoreChecks, Glob.Concerns pattern check := by
  simp [CheckOptions.ignores_iff, CheckOptions.Ignored, hsingle, Glob.covers_iff_concerns]

/-- A finding covers the checks that its rule is about, and a diagnostic with one check is ignored
when a pattern is about that check.  What a rule is about is told by replacing its stars and
question marks, and a rule without any, or one that is no pattern, is about itself alone. -/
theorem rules_concern_checks (check : String) :
    (∀ finding : Finding, finding.coversCheck check = true ↔ Glob.Concerns finding.rule check) ∧
      (∀ (options : CheckOptions) (diagnostic : Diagnostic), diagnostic.checks = [check] →
        (options.ignores diagnostic = true ↔
          ∃ pattern ∈ options.ignoreChecks, Glob.Concerns pattern check)) ∧
      ∀ rule : String,
        ('[' ∉ rule.toList → ¬ ['*', '*'] <:+: rule.toList →
          (Glob.Concerns rule check ↔ Glob.Yields rule.toList check.toList)) ∧
        ((∀ c ∈ rule.toList, Glob.IsPlain c) → (Glob.Concerns rule check ↔ check = rule)) ∧
        (¬ Glob.IsPattern none rule.toList → (Glob.Concerns rule check ↔ check = rule)) := by
  refine ⟨?_, ?_, ?_⟩
  · intro finding
    exact Glob.covers_iff_concerns
  · intro options diagnostic hsingle
    exact CheckOptions.ignores_iff_concerns hsingle
  · intro rule
    refine ⟨?_, ?_, ?_⟩
    · intro hset hstars
      exact Glob.concerns_iff_yields hset hstars
    · intro hplain
      exact Glob.concerns_iff_of_isPlain hplain
    · intro hmalformed
      exact Glob.concerns_iff_of_not_isPattern hmalformed

namespace RuleWitness

/-- A finding with this rule. -/
def finding (rule : String) : Finding :=
  .required rule .misc 1 "x" ""

def diagnostic : Diagnostic :=
  ⟨"s.cpp", 1, 1, .warning, "", ["misc-b-ab"]⟩

/-- A text that is no pattern, and a pattern whose star passes over the first dash of the check. -/
def options : CheckOptions := ⟨0, ["misc-b-ab[", "*-a?"], false⟩

theorem yields_dashed : Glob.Yields "*-a?".toList "misc-b-ab".toList := by
  refine ⟨["misc-b".toList, ['-'], ['a'], ['b']], ?_, rfl⟩
  exact .cons (.star _) (.cons (.self (by decide) (by decide))
    (.cons (.self (by decide) (by decide)) (.cons (.one 'b') .nil)))

theorem rules_concern_checks_dashed :
    ('[' ∉ "*-a?".toList ∧ ¬ ['*', '*'] <:+: "*-a?".toList ∧
        (finding "*-a?").coversCheck "misc-b-ab" = true) ∧
      (diagnostic.checks = ["misc-b-ab"] ∧ options.ignores diagnostic = true) ∧
      (∀ c ∈ "misc-b-ab".toList, Glob.IsPlain c) ∧
      (finding "misc-b-ab").coversCheck "misc-b-ab" = true ∧
      ¬ Glob.IsPattern none "misc-b-ab[".toList ∧
        ¬ (finding "misc-b-ab[").coversCheck "misc-b-ab" = true := by
  obtain ⟨hcovers, hignores, hrules⟩ := rules_concern_checks "misc-b-ab"
  have hset : '[' ∉ "*-a?".toList := by
    decide
  have hstars : ¬ ['*', '*'] <:+: "*-a?".toList := by
    rw [← Text.occursIn_iff]
    decide
  have hplain : ∀ c ∈ "misc-b-ab".toList, Glob.IsPlain c := fun c hc =>
    have hall : ("misc-b-ab".toList.all fun c => Glob.IsPlain c) = true := by decide
    of_decide_eq_true (List.all_eq_true.mp hall c hc)
  have hmalformed : ¬ Glob.IsPattern none "misc-b-ab[".toList :=
    Glob.Pattern.exists_error_ofText?_iff.mp ⟨⟨9, .invalidRange⟩, by decide +kernel⟩
  have hconcerns : Glob.Concerns "*-a?" "misc-b-ab" := ((hrules _).1 hset hstars).mpr yields_dashed
  refine ⟨⟨hset, hstars, (hcovers _).mpr hconcerns⟩, ⟨rfl, ?_⟩, hplain, ?_, hmalformed, ?_⟩
  · exact (hignores options diagnostic rfl).mpr ⟨_, by simp [options], hconcerns⟩
  · exact (hcovers _).mpr (((hrules _).2.1 hplain).mpr rfl)
  · rw [hcovers, finding, Finding.required, (hrules _).2.2 hmalformed]
    decide

end RuleWitness

end LintCorpus
