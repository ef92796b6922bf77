import LintCorpus.Conformance
import LintCorpus.Json.Value

/-!
The JSON form of fixtures, findings, diagnostics and reports.  Fields stand in the order in which
the structures list them, under names in snake case, and names of categories, expectations and
severities are texts.
-/

namespace LintCorpus

def Json.list {α : Type} (item : α → Json) (items : List α) : Json :=
  .arr (items.map item)

/-- A list of texts as an array. -/
def Json.strings (items : List String) : Json :=
  .list .str items

def Category.toJson (category : Category) : Json :=
  .str category.name

def Finding.toJson (finding : Finding) : Json :=
  .obj [
    ("rule", .str finding.rule),
    ("category", finding.category.toJson),
    ("line", .nat finding.line),
    ("anchor", .str finding.anchor),
    ("description", .str finding.description),
    ("expectation", .str finding.expectation.name)]

def Waiver.toJson (waiver : Waiver) : Json :=
  .obj [("line", .nat waiver.line), ("reason", .str waiver.reason)]

/-- The JSON form of a fixture, which leaves the source out. -/
def Fixture.toJson (fixture : Fixture) : Json :=
  .obj [
    ("name", .str fixture.name),
    ("file_name", .str fixture.fileName),
    ("summary", .str fixture.summary),
    ("categories", .list Category.toJson fixture.categories),
    ("findings", .list Finding.toJson fixture.findings),
    ("waivers", .list Waiver.toJson fixture.waivers)]

def Diagnostic.toJson (diagnostic : Diagnostic) : Json :=
  .obj [
    ("file", .str diagnostic.file),
    ("line", .nat diagnostic.line),
    ("column", .nat diagnostic.column),
    ("severity", .str diagnostic.severity.name),
    ("message", .str diagnostic.message),
    ("checks", .strings diagnostic.checks)]

def Match.toJson (m : Match) : Json :=
  .obj [("finding", m.finding.toJson), ("diagnostic", m.diagnostic.toJson)]

/-- The JSON form of a report, with the lengths of its lists as a summary. -/
def Report.toJson (report : Report) : Json :=
  .obj [
    ("fixture", .str report.fixture),
    ("ok", .bool report.ok),
    ("matched", .list Match.toJson report.matched),
    ("missing", .list Finding.toJson report.missing),
    ("missing_advisory", .list Finding.toJson report.missingAdvisory),
    ("unexpected", .list Diagnostic.toJson report.unexpected),
    ("summary", .obj [
      ("matched_count", .nat report.matched.length),
      ("missing_count", .nat report.missing.length),
      ("missing_advisory_count", .nat report.missingAdvisory.length),
      ("unexpected_count", .nat report.unexpected.length)])]

end LintCorpus
