import LintCorpus.CommandLine.Emphasis
import LintCorpus.Export
import LintCorpus.Number
import LintCorpus.Overview

/-!
What the commands print for a reader: lines of text, with styles where the output has any.
-/

namespace LintCorpus

def lineColumn (line : Nat) : String :=
  Text.padLeft 4 (toString line)

/-- A section: an empty line, a heading and the lines of its entries; nothing when there are
none. -/
def sectionLines {α : Type} (heading : String) (entry : α → List String) (entries : List α) :
    List String :=
  if entries.isEmpty then [] else "" :: heading :: entries.flatMap entry

namespace Palette

def verdict (palette : Palette) (passed : Bool) (summary : String) : String :=
  (if passed then palette.paint (.boldColored .green) "PASSED"
    else palette.paint (.boldColored .red) "FAILED") ++ " " ++ palette.paint .dimmed summary

/-- A line of a listing, whose names fill a column. -/
def listingLine (palette : Palette) (width : Nat) (row : FixtureRow) : String :=
  palette.paint (.boldColored .cyan) (Text.padRight width row.name) ++ "  " ++
    Text.padLeft 2 (toString row.findings) ++ " findings (" ++ toString row.required ++
    " required)  " ++ palette.paint .dimmed row.summary

def listing (palette : Palette) (rows : List FixtureRow) : List String :=
  if rows.isEmpty then [palette.paint (.colored .yellow) "No fixtures match"]
  else
    let width := (rows.map fun row => Text.byteLength row.name.toList).foldl max 0
    rows.map (palette.listingLine width) ++ ["", toString rows.length ++ " fixture(s)"]

def expectation (palette : Palette) : Expectation → String
  | .required => palette.paint (.colored .green) "required"
  | .advisory => palette.paint (.colored .yellow) "advisory"

def finding (palette : Palette) (finding : Finding) : List String :=
  ["  " ++ lineColumn finding.line ++ "  " ++ palette.expectation finding.expectation ++ "  " ++
      palette.paint (.colored .cyan) finding.rule,
    "        " ++ palette.paint .dimmed finding.description]

def waiver (palette : Palette) (waiver : Waiver) : List String :=
  ["  " ++ lineColumn waiver.line ++ "  " ++ palette.paint .dimmed waiver.reason]

/-- The lines of a source from a number on, with a mark on those where a finding is expected. -/
def sourceFrom (palette : Palette) (flagged : List Nat) (number : Nat) :
    List (List Char) → List String
  | [] => []
  | line :: more =>
      let mark := if number ∈ flagged then palette.paint (.boldColored .red) ">" else " "
      (mark ++ " " ++ lineColumn number ++ " | " ++ String.ofList line) ::
        sourceFrom palette flagged (number + 1) more

def detail (palette : Palette) (fixture : Fixture) (withSource : Bool) : List String :=
  let heading := palette.paint .bold
  [palette.paint (.boldColored .cyan) fixture.name ++ " " ++
      palette.paint .dimmed ("(" ++ fixture.fileName ++ ")"),
    fixture.summary,
    heading "Categories:" ++ " " ++ ", ".intercalate (fixture.categories.map (·.name)),
    heading "BLAKE3:" ++ " " ++ palette.paint .dimmed fixture.contentHash,
    "",
    heading "Expected findings:"] ++
  fixture.findings.flatMap palette.finding ++
  sectionLines (heading "Waived comments:") palette.waiver fixture.waivers ++
  if withSource then
    "" :: heading "Source:" ::
      palette.sourceFrom (fixture.findings.map (·.line)) 1 fixture.lines
  else []

def audit (palette : Palette) (audit : Audit) : List String :=
  [palette.paint (.boldColored .cyan) "Verifying:" ++ " " ++ toString audit.fixtures ++
    " fixture(s), " ++ toString audit.findings ++ " finding(s)"] ++
  sectionLines (palette.paint (.boldColored .red) "Errors:")
    (fun violation => ["  " ++ palette.paint (.colored .red) "x" ++ " " ++ violation.text])
    audit.violations ++
  sectionLines (palette.paint (.boldColored .yellow) "Warnings:")
    (fun remark => ["  " ++ palette.paint (.colored .yellow) "!" ++ " " ++ remark.text])
    audit.remarks ++
  ["", palette.paint .bold "Digest:" ++ " " ++ audit.digest,
    palette.verdict audit.passed (toString audit.violations.length ++ " error(s), " ++
      toString audit.remarks.length ++ " warning(s)")]

/-- The files that an export wrote, and how an analyzer is run on them. -/
def exported (palette : Palette) (corpus : Corpus) (compilation : Compilation)
    (summary : ExportSummary) : List String :=
  [palette.paint (.boldColored .green) "Exported" ++ " " ++ toString corpus.size ++
    " fixture(s) to " ++ summary.directory] ++
  summary.files.map (fun file => "  " ++ palette.paint (.colored .green) "+" ++ " " ++ file) ++
  ["",
    palette.paint .bold "Compiler:" ++ " " ++ compilation.compiler ++ " -std=" ++
      compilation.standard ++ " " ++ " ".intercalate compilation.extraArgs,
    palette.paint .bold "Digest:" ++ " " ++ palette.paint .dimmed summary.digest,
    "",
    "Run: clang-tidy -p " ++ summary.directory ++ " " ++
      FilePath.join summary.directory "<fixture>.cpp"]

def reported (palette : Palette) (m : Match) : List String :=
  let place := toString m.diagnostic.line ++ ":" ++ toString m.diagnostic.column
  ["  " ++ palette.paint (.colored .green) "+" ++ " " ++ lineColumn m.finding.line ++ "  " ++
    m.finding.rule ++ "  " ++ palette.paint .dimmed ("(reported at " ++ place ++ ")")]

/-- A required finding that was not reported. -/
def missing (palette : Palette) (finding : Finding) : List String :=
  ["  " ++ palette.paint (.colored .red) "x" ++ " " ++ lineColumn finding.line ++ "  " ++
      finding.rule,
    "         " ++ palette.paint .dimmed finding.description]

def missingAdvisory (palette : Palette) (finding : Finding) : List String :=
  ["  " ++ palette.paint (.colored .yellow) "!" ++ " " ++ lineColumn finding.line ++ "  " ++
    finding.rule]

/-- A diagnostic that no finding accounts for. -/
def unexpected (palette : Palette) (diagnostic : Diagnostic) : List String :=
  ["  " ++ palette.paint (.colored .blue) "?" ++ " " ++ lineColumn diagnostic.line ++ "  " ++
    ",".intercalate diagnostic.checks ++ "  " ++ palette.paint .dimmed diagnostic.message]

end Palette

/-- The coverage of the required findings as a binary number. -/
def Report.coverage (report : Report) : Binary64 :=
  .nearest report.requiredCoverage

/-- The coverage in percent, without decimal places. -/
def Report.coveragePercent (report : Report) : String :=
  (report.coverage.mul (.nearest ⟨100, 1⟩)).toRatio.fixed 0

/-- The lengths of the report's lists, and the coverage. -/
def Report.summary (report : Report) : String :=
  toString report.matched.length ++ " matched, " ++
    toString report.missing.length ++ " missing, " ++
    toString report.missingAdvisory.length ++ " advisory not reported, " ++
    toString report.unexpected.length ++ " unexpected (" ++ report.coveragePercent ++
    "% required coverage)"

/-- The report of a check of the diagnostics in a file.  Unexpected diagnostics stand out more where
they are a failure. -/
def Palette.check (palette : Palette) (path : String) (strict : Bool) (report : Report) :
    List String :=
  [palette.paint (.boldColored .cyan) "Checking:" ++ " " ++ report.fixture ++
      " against " ++ path] ++
  sectionLines (palette.paint (.boldColored .green) "Matched:") palette.reported report.matched ++
  sectionLines (palette.paint (.boldColored .red) "Missing:") palette.missing report.missing ++
  sectionLines (palette.paint (.boldColored .yellow) "Not reported (advisory):")
    palette.missingAdvisory report.missingAdvisory ++
  sectionLines (palette.paint (.boldColored (if strict then .red else .blue)) "Unexpected:")
    palette.unexpected report.unexpected ++
  ["", palette.verdict report.ok report.summary]

end LintCorpus
