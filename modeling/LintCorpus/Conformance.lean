import LintCorpus.Diagnostic.Basic
import LintCorpus.Fixture.Basic
import LintCorpus.Number

/-!
Conformance: which findings of a fixture an analyzer reported.

The findings are served in order.  Each takes the closest diagnostic that lies within the tolerance,
has a check that the finding's rule covers, and is not yet claimed by a finding on another line; of
equally close ones it takes the first.  Diagnostics that nothing claims are unexpected, notes and
ignored ones excepted.
-/

namespace LintCorpus

/-- How diagnostics are compared with findings. -/
structure CheckOptions where
  /-- How many lines a diagnostic may lie away from a finding. -/
  lineTolerance : Nat
  /-- Patterns over check names whose diagnostics are never unexpected. -/
  ignoreChecks : List String
  /-- Unexpected diagnostics are a failure. -/
  strict : Bool
deriving DecidableEq, Repr

/-- The options that nothing was said about. -/
def CheckOptions.default : CheckOptions := ⟨0, [], false⟩

/-- Every check of the diagnostic is covered by an ignored pattern, and there is one at least. -/
def CheckOptions.ignores (options : CheckOptions) (diagnostic : Diagnostic) : Bool :=
  !diagnostic.checks.isEmpty &&
    diagnostic.checks.all fun check =>
      options.ignoreChecks.any fun pattern => Glob.covers pattern check

/-- How many lines lie between two lines. -/
def lineDistance (a b : Nat) : Nat :=
  (a - b) + (b - a)

/-- The diagnostic lies within the tolerance of the finding, and one of its checks is covered by the
finding's rule. -/
def Finding.satisfiedBy (finding : Finding) (tolerance : Nat) (diagnostic : Diagnostic) : Bool :=
  lineDistance finding.line diagnostic.line ≤ tolerance &&
    diagnostic.checks.any finding.coversCheck

/-- A diagnostic, with the line of the first finding that claimed it. -/
structure Slot where
  diagnostic : Diagnostic
  claimedBy : Option Nat
deriving DecidableEq, Repr

namespace Slot

/-- A diagnostic that nothing has claimed. -/
def unclaimed (diagnostic : Diagnostic) : Slot := ⟨diagnostic, none⟩

/-- No finding on a line other than `line` has claimed the diagnostic. -/
def isOpenTo (slot : Slot) (line : Nat) : Bool :=
  slot.claimedBy.all (· = line)

/-- The diagnostic may serve the finding. -/
def fits (finding : Finding) (tolerance : Nat) (slot : Slot) : Bool :=
  slot.isOpenTo finding.line && finding.satisfiedBy tolerance slot.diagnostic

/-- How far the diagnostic lies from the finding. -/
def distance (finding : Finding) (slot : Slot) : Nat :=
  lineDistance finding.line slot.diagnostic.line

/-- The diagnostic, claimed for the line unless it was claimed before. -/
def claim (line : Nat) (slot : Slot) : Slot :=
  { slot with claimedBy := some (slot.claimedBy.getD line) }

/-- Claims the first diagnostic that satisfies `p`. -/
def claimFirst (p : Slot → Bool) (line : Nat) : List Slot → Option (Diagnostic × List Slot)
  | [] => none
  | slot :: rest =>
      if p slot then some (slot.diagnostic, slot.claim line :: rest)
      else (claimFirst p line rest).map fun r => (r.1, slot :: r.2)

/-- The least distance among the diagnostics that may serve the finding. -/
def leastDistance? (finding : Finding) (tolerance : Nat) (slots : List Slot) : Option Nat :=
  ((slots.filter (fits finding tolerance)).map (distance finding)).min?

/-- Serves one finding: the first of the closest diagnostics that may serve it is claimed. -/
def serve? (finding : Finding) (tolerance : Nat) (slots : List Slot) :
    Option (Diagnostic × List Slot) :=
  match leastDistance? finding tolerance slots with
  | none => none
  | some least =>
      claimFirst (fun slot => slot.fits finding tolerance && slot.distance finding = least)
        finding.line slots

end Slot

/-- A finding, with the diagnostic that serves it if one does. -/
structure Verdict where
  finding : Finding
  diagnostic? : Option Diagnostic
deriving DecidableEq, Repr

/-- Serves the findings in order: their verdicts, and the diagnostics with their claims. -/
def serveAll (tolerance : Nat) : List Slot → List Finding → List Verdict × List Slot
  | slots, [] => ([], slots)
  | slots, finding :: rest =>
      match Slot.serve? finding tolerance slots with
      | some (diagnostic, slots) =>
          let served := serveAll tolerance slots rest
          (⟨finding, some diagnostic⟩ :: served.1, served.2)
      | none =>
          let served := serveAll tolerance slots rest
          (⟨finding, none⟩ :: served.1, served.2)

/-- A finding and the diagnostic reported for it. -/
structure Match where
  finding : Finding
  diagnostic : Diagnostic
deriving DecidableEq, Repr

def Verdict.match? (verdict : Verdict) : Option Match :=
  verdict.diagnostic?.map fun diagnostic => ⟨verdict.finding, diagnostic⟩

/-- The finding of a verdict without a diagnostic, if its expectation is the given one. -/
def Verdict.missing? (expectation : Expectation) (verdict : Verdict) : Option Finding :=
  if verdict.diagnostic?.isNone && verdict.finding.expectation = expectation then
    some verdict.finding
  else none

/-- What a check of one fixture found. -/
structure Report where
  fixture : String
  /-- No required finding is missing and, in strict mode, nothing is unexpected. -/
  ok : Bool
  matched : List Match
  /-- Required findings that were not reported. -/
  missing : List Finding
  /-- Advisory findings that were not reported. -/
  missingAdvisory : List Finding
  /-- Diagnostics that no finding accounts for. -/
  unexpected : List Diagnostic
deriving DecidableEq, Repr

/-- The diagnostics about the fixture's file. -/
def Fixture.relevant (fixture : Fixture) (diagnostics : List Diagnostic) : List Diagnostic :=
  diagnostics.filter (·.fileName = fixture.fileName)

def CheckOptions.unexpected? (options : CheckOptions) (slot : Slot) : Option Diagnostic :=
  if slot.claimedBy.isNone && slot.diagnostic.severity ≠ .note &&
      !options.ignores slot.diagnostic then
    some slot.diagnostic
  else none

/-- Compares diagnostics with the findings of a fixture. -/
def Fixture.check (fixture : Fixture) (diagnostics : List Diagnostic) (options : CheckOptions) :
    Report :=
  let slots := (fixture.relevant diagnostics).map Slot.unclaimed
  let served := serveAll options.lineTolerance slots fixture.findings
  let missing := served.1.filterMap (Verdict.missing? .required)
  let unexpected := served.2.filterMap options.unexpected?
  { fixture := fixture.name
    ok := missing.isEmpty && !(options.strict && !unexpected.isEmpty)
    matched := served.1.filterMap Verdict.match?
    missing := missing
    missingAdvisory := served.1.filterMap (Verdict.missing? .advisory)
    unexpected := unexpected }

/-- The share of the required findings that were reported; all of them when there are none. -/
def Report.requiredCoverage (report : Report) : Ratio :=
  let part := (report.matched.filter (·.finding.isRequired)).length
  let whole := part + report.missing.length
  if whole = 0 then ⟨1, 1⟩ else ⟨part, whole⟩

end LintCorpus
