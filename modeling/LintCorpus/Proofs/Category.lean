import LintCorpus.Category
import LintCorpus.Proofs.Glob.Front
import LintCorpus.Text.Basic

/-!
The category of a check.  No category's name with a dash behind it is the beginning of another's, so
at most one category claims a check, and that is the one it belongs to (`ofCheck?_eq_some_iff`).
All that a rule covers belongs to the category of the rule (`ofCheck?_of_covers`).
-/

namespace LintCorpus.Category

/-- What a check of the category begins with. -/
def stem (category : Category) : List Char :=
  category.name.toList ++ ['-']

theorem claims_iff {category : Category} {check : String} :
    category.claims check = true ↔ category.stem <+: check.toList :=
  List.isPrefixOf_iff_prefix

theorem eq_of_stem_prefix_stem {first second : Category} (hstem : first.stem <+: second.stem) :
    first = second := by
  have hall : ∀ first ∈ all, ∀ second ∈ all, first.stem <+: second.stem → first = second := by
    decide +kernel
  exact hall first (mem_all first) second (mem_all second) hstem

/-- At most one category claims a check. -/
theorem eq_of_claims {first second : Category} {check : String}
    (hfirst : first.claims check = true) (hsecond : second.claims check = true) :
    first = second := by
  rw [claims_iff] at hfirst hsecond
  rcases List.prefix_or_prefix_of_prefix hfirst hsecond with hstem | hstem
  · exact eq_of_stem_prefix_stem hstem
  · exact (eq_of_stem_prefix_stem hstem).symm

theorem filter_claims_of_claims {category : Category} {check : String}
    (hclaims : category.claims check = true) : all.filter (·.claims check) = [category] := by
  have hsame : ∀ other ∈ all, other.claims check = decide (other = category) := by
    intro other _
    rw [Bool.eq_iff_iff, decide_eq_true_eq]
    constructor
    · intro hother
      exact eq_of_claims hother hclaims
    · rintro rfl
      exact hclaims
  rw [List.filter_congr hsame]
  cases category <;> rfl

/-- A check belongs to the category that claims it. -/
theorem ofCheck?_eq_some_iff {category : Category} {check : String} :
    ofCheck? check = some category ↔ category.claims check = true := by
  constructor
  · intro hcheck
    cases hfilter : all.filter (·.claims check) with
    | nil => simp [ofCheck?, hfilter] at hcheck
    | cons other others =>
        have hmem : other ∈ all.filter (·.claims check) := by
          rw [hfilter]
          exact List.mem_cons_self
        have hother : other.claims check = true := (List.mem_filter.mp hmem).2
        rw [ofCheck?, filter_claims_of_claims hother] at hcheck
        obtain rfl : other = category := by simpa [longer] using hcheck
        exact hother
  · intro hclaims
    rw [ofCheck?, filter_claims_of_claims hclaims]
    rfl

/-- What the checks of a category begin with stands for itself in a pattern. -/
theorem isPlain_of_mem_stem {category : Category} : ∀ c ∈ category.stem, Glob.IsPlain c := by
  have hall : category.stem.all (fun c => Glob.IsPlain c) = true := by
    cases category <;> decide
  simpa only [List.all_eq_true, decide_eq_true_eq] using hall

/-- A rule covers checks of its own category only. -/
theorem ofCheck?_of_covers {category : Category} {rule check : String}
    (hrule : ofCheck? rule = some category) (hcovers : Glob.covers rule check = true) :
    ofCheck? check = some category := by
  rw [ofCheck?_eq_some_iff, claims_iff] at hrule ⊢
  exact Glob.prefix_of_covers isPlain_of_mem_stem hrule hcovers

end LintCorpus.Category
