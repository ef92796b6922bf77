import LintCorpus.Text.Basic

/-!
Check categories: the families that check names belong to.  A check belongs to the category whose
name stands in front of its first part, `clang-analyzer-core.DivideZero` to `clang-analyzer`.
-/

namespace LintCorpus

/-- The family of a check, by the first part of its name. -/
inductive Category where
  | bugprone
  | cert
  | clangAnalyzer
  | clangDiagnostic
  | cppCoreGuidelines
  | google
  | misc
  | modernize
  | performance
  | readability
deriving DecidableEq, Repr

namespace Category

def all : List Category :=
  [bugprone, cert, clangAnalyzer, clangDiagnostic, cppCoreGuidelines, google, misc, modernize,
   performance, readability]

theorem mem_all (category : Category) : category ∈ all := by
  cases category <;> decide

/-- The name of a category, in lower case with dashes. -/
def name : Category → String
  | bugprone => "bugprone"
  | cert => "cert"
  | clangAnalyzer => "clang-analyzer"
  | clangDiagnostic => "clang-diagnostic"
  | cppCoreGuidelines => "cppcoreguidelines"
  | google => "google"
  | misc => "misc"
  | modernize => "modernize"
  | performance => "performance"
  | readability => "readability"

/-- The check name begins with the category's name and a dash. -/
def claims (category : Category) (check : String) : Bool :=
  (category.name.toList ++ ['-']).isPrefixOf check.toList

/-- The longer name of the two, the later one when they are equally long. -/
def longer : Option Category → Category → Category
  | none, candidate => candidate
  | some best, candidate =>
      if best.name.length ≤ candidate.name.length then candidate else best

/-- The category of a check name or of a pattern over check names: among the categories that claim
it, the one with the longest name. -/
def ofCheck? (check : String) : Option Category :=
  (all.filter (·.claims check)).foldl (fun best candidate => some (longer best candidate)) none

/-- The category with this name, in letters of either case. -/
def ofName? (s : String) : Option Category :=
  all.find? fun category => category.name.toList = Text.lowercase s.toList

/-- What is said of a name that no category has. -/
def unknownMessage (s : String) : String :=
  "unknown check category '" ++ s ++ "'"

/-- The position of a category in the listing. -/
def index (category : Category) : Nat :=
  all.idxOf category

end Category

end LintCorpus
