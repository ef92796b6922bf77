import LintCorpus.Category
import LintCorpus.Glob

/-!
Findings: what an analyzer is expected to report against a fixture.
-/

namespace LintCorpus

/-- How firmly a finding is expected. -/
inductive Expectation where
  /-- A stock analyzer run reports it. -/
  | required
  /-- The author's intent; no stock check is guaranteed to report it. -/
  | advisory
deriving DecidableEq, Repr

def Expectation.name : Expectation → String
  | .required => "required"
  | .advisory => "advisory"

def Expectation.ofName? : String → Option Expectation
  | "required" => some .required
  | "advisory" => some .advisory
  | _ => none

/-- One diagnostic that is expected on a line of a fixture. -/
structure Finding where
  /-- A check name, or a pattern over check names. -/
  rule : String
  /-- The category that the rule belongs to. -/
  category : Category
  /-- The line, counted from one. -/
  line : Nat
  /-- A text that occurs on the line. -/
  anchor : String
  /-- The defect in words. -/
  description : String
  expectation : Expectation
deriving DecidableEq, Repr

/-- A finding that a stock analyzer run reports. -/
def Finding.required (rule : String) (category : Category) (line : Nat)
    (anchor description : String) : Finding :=
  { rule, category, line, anchor, description, expectation := .required }

/-- A finding that records the author's intent alone. -/
def Finding.advisory (rule : String) (category : Category) (line : Nat)
    (anchor description : String) : Finding :=
  { rule, category, line, anchor, description, expectation := .advisory }

def Finding.isRequired (finding : Finding) : Bool :=
  finding.expectation = .required

def Finding.coversCheck (finding : Finding) (check : String) : Bool :=
  Glob.covers finding.rule check

end LintCorpus
