import LintCorpus.Json.Encode
import LintCorpus.Validation

/-!
What the command line shows of a corpus: a listing of its fixtures, the details of one fixture, and
an audit of all of them.
-/

namespace LintCorpus

/-- One line of a listing. -/
structure FixtureRow where
  name : String
  file : String
  summary : String
  categories : List Category
  findings : Nat
  /-- How many of them have to be reported. -/
  required : Nat
deriving DecidableEq, Repr

def Fixture.row (fixture : Fixture) : FixtureRow where
  name := fixture.name
  file := fixture.fileName
  summary := fixture.summary
  categories := fixture.categories
  findings := fixture.findings.length
  required := fixture.requiredFindings.length

/-- The JSON form of a line. -/
def FixtureRow.toJson (row : FixtureRow) : Json :=
  .obj [
    ("name", .str row.name),
    ("file", .str row.file),
    ("summary", .str row.summary),
    ("categories", .list Category.toJson row.categories),
    ("findings", .nat row.findings),
    ("required", .nat row.required)]

def Corpus.rows (corpus : Corpus) (category? : Option Category) : List FixtureRow :=
  match category? with
  | some category => (corpus.byCategory category).map Fixture.row
  | none => corpus.fixtures.map Fixture.row

def listingJson (rows : List FixtureRow) : Json :=
  .obj [("count", .nat rows.length), ("fixtures", .list FixtureRow.toJson rows)]

def Fixture.detailJson (fixture : Fixture) (withSource : Bool) : Json :=
  .obj ([
    ("name", .str fixture.name),
    ("file", .str fixture.fileName),
    ("summary", .str fixture.summary),
    ("hash", .str fixture.contentHash),
    ("categories", .list Category.toJson fixture.categories),
    ("findings", .list Finding.toJson fixture.findings),
    ("waivers", .list Waiver.toJson fixture.waivers)] ++
    if withSource then [("source", .str fixture.source)] else [])

/-- The violations and remarks of a corpus, with its size and its digest. -/
structure Audit where
  fixtures : Nat
  findings : Nat
  digest : String
  violations : List Violation
  remarks : List Remark
deriving DecidableEq, Repr

def Corpus.audit (corpus : Corpus) : Audit where
  fixtures := corpus.size
  findings := corpus.findingCount
  digest := corpus.digest
  violations := corpus.violations
  remarks := corpus.remarks

/-- Nothing makes the corpus invalid. -/
def Audit.passed (audit : Audit) : Bool :=
  audit.violations.isEmpty

def auditEntryJson (code message path : String) : Json :=
  .obj [("code", .str code), ("message", .str message), ("path", .str path)]

def Audit.toJson (audit : Audit) : Json :=
  let violation (v : Violation) := auditEntryJson v.code.name v.message v.path
  let remark (r : Remark) := auditEntryJson r.code.name r.message r.path
  .obj [
    ("success", .bool audit.passed),
    ("fixtures", .nat audit.fixtures),
    ("findings", .nat audit.findings),
    ("digest", .str audit.digest),
    ("result", .obj [
      ("errors", .list violation audit.violations),
      ("warnings", .list remark audit.remarks)])]

end LintCorpus
