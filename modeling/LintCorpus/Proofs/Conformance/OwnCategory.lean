import LintCorpus.Proofs.Conformance.Run
import LintCorpus.Proofs.Validation.Conditions

/-!
Rules stay within their category.  A category is told by what a name begins with, and a rule that
begins with it covers only checks that do, so a valid corpus has every finding reported by a check
of the finding's own category (`rules_keep_category`).
-/

namespace LintCorpus

/-- In a valid corpus a finding covers checks of its own category only. -/
theorem Corpus.ofCheck?_of_coversCheck {corpus : Corpus} (hvalid : corpus.isValid = true)
    {fixture : Fixture} (hfixture : fixture ∈ corpus.fixtures) {finding : Finding}
    (hfinding : finding ∈ fixture.findings) {check : String}
    (hcovers : finding.coversCheck check = true) :
    Category.ofCheck? check = some finding.category :=
  Category.ofCheck?_of_covers (ofCheck?_rule_of_isValid hvalid hfixture hfinding) hcovers

/-- What is matched has a check that the finding covers. -/
theorem Fixture.exists_covered_of_mem_matched {fixture : Fixture} {diagnostics : List Diagnostic}
    {options : CheckOptions} {entry : Match}
    (hentry : entry ∈ (fixture.check diagnostics options).matched) :
    entry.finding ∈ fixture.findings ∧
      ∃ check ∈ entry.diagnostic.checks, entry.finding.coversCheck check = true := by
  obtain ⟨hfinding, hsatisfied⟩ :=
    (fixture.run_verdicts diagnostics options).satisfiedBy_of_mem_matches hentry
  exact ⟨hfinding, (Finding.satisfiedBy_iff.mp hsatisfied).2⟩

/-- A rule with a category, pattern or not, covers only checks of that category; a name has the one
category that claims it, and no two do.  So in a valid corpus a finding covers only checks of its
own category, and every match of a report rests on such a check. -/
theorem rules_keep_category :
    (∀ rule check category, Category.ofCheck? rule = some category →
      Glob.covers rule check = true → Category.ofCheck? check = some category) ∧
    (∀ name category,
      Category.ofCheck? name = some category ↔ Category.claims category name = true) ∧
    (∀ name first second, Category.claims first name = true →
      Category.claims second name = true → first = second) ∧
    ∀ corpus : Corpus, corpus.isValid = true → ∀ fixture ∈ corpus.fixtures,
      (∀ finding ∈ fixture.findings, ∀ check, finding.coversCheck check = true →
        Category.ofCheck? check = some finding.category) ∧
      ∀ diagnostics options, ∀ entry ∈ (fixture.check diagnostics options).matched,
        ∃ check ∈ entry.diagnostic.checks, entry.finding.coversCheck check = true ∧
          Category.ofCheck? check = some entry.finding.category := by
  refine ⟨?_, ?_, ?_, ?_⟩
  · intro rule check category hrule hcovers
    exact Category.ofCheck?_of_covers hrule hcovers
  · intro name category
    exact Category.ofCheck?_eq_some_iff
  · intro name first second hfirst hsecond
    exact Category.eq_of_claims hfirst hsecond
  · intro corpus hvalid fixture hfixture
    have hkeeps : ∀ finding ∈ fixture.findings, ∀ check, finding.coversCheck check = true →
        Category.ofCheck? check = some finding.category :=
      fun finding hfinding check hcovers =>
        Corpus.ofCheck?_of_coversCheck hvalid hfixture hfinding hcovers
    refine ⟨hkeeps, fun diagnostics options entry hentry => ?_⟩
    obtain ⟨hfinding, check, hcheck, hcovers⟩ := Fixture.exists_covered_of_mem_matched hentry
    exact ⟨check, hcheck, hcovers, hkeeps _ hfinding check hcovers⟩

namespace OwnCategoryWitness

/-- A rule with a set and a star behind its category. -/
def finding : Finding :=
  .required "clang-analyzer-[!d]*.Null*" .clangAnalyzer 1 "*p" ""

def store : Fixture where
  name := "store"
  fileName := "store.cpp"
  summary := ""
  categories := [.clangAnalyzer]
  findings := [finding]
  waivers := []
  source := "*p = 42;\n"

def corpus : Corpus where
  fixtures := [store]

/-- A diagnostic under two names. -/
def diagnostic : Diagnostic :=
  ⟨"store.cpp", 1, 1, .warning, "", ["bugprone-null", "clang-analyzer-core.NullDereference"]⟩

/-- The check that the match rests on is the one of the finding's category. -/
theorem rules_keep_category_null :
    corpus.isValid = true ∧ (store.check [diagnostic] .default).matched = [⟨finding, diagnostic⟩] ∧
      (∃ check ∈ diagnostic.checks, finding.coversCheck check = true ∧
        Category.ofCheck? check = some .clangAnalyzer) ∧
      Category.ofCheck? "bugprone-null" = some .bugprone := by
  have hvalid : corpus.isValid = true := by
    decide +kernel
  have hmatched : (store.check [diagnostic] .default).matched = [⟨finding, diagnostic⟩] := by
    decide +kernel
  obtain ⟨-, hclaims, -, hcorpus⟩ := rules_keep_category
  obtain ⟨-, hmatches⟩ := hcorpus corpus hvalid store List.mem_cons_self
  refine ⟨hvalid, hmatched, ?_, (hclaims _ _).mpr (by decide +kernel)⟩
  exact hmatches [diagnostic] .default ⟨finding, diagnostic⟩ (by simp [hmatched])

end OwnCategoryWitness

end LintCorpus
