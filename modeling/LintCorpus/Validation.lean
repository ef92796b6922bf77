import LintCorpus.Corpus
import LintCorpus.Fixture.DefectComment

/-!
Validation: every statement that a corpus makes about its sources is checked against them.

`Corpus.violations` lists what makes a corpus invalid and `Corpus.remarks` what is only worth a
look, both in the order of the fixtures and, within one, of its parts.
-/

namespace LintCorpus

inductive ViolationCode where
  /-- Two fixtures share a name. -/
  | duplicateName
  /-- Two fixtures share a file name. -/
  | duplicateFileName
  /-- A file name is not the fixture's name with `.cpp` behind it. -/
  | fileNameMismatch
  /-- A source is empty. -/
  | emptySource
  /-- A finding's line is zero or behind the end of the source. -/
  | lineOutOfRange
  /-- An anchor is empty or does not occur on its line. -/
  | anchorMissing
  /-- A finding's category is not declared. -/
  | undeclaredCategory
  /-- A declared category has no finding. -/
  | uncoveredCategory
  /-- A rule belongs to another category than its finding says. -/
  | ruleCategoryMismatch
  /-- A rule is no pattern. -/
  | invalidRulePattern
  /-- The findings are not ordered by line. -/
  | findingsOutOfOrder
  /-- A waiver's line has no defect comment, or one that a finding covers. -/
  | staleWaiver
deriving DecidableEq, Repr

namespace ViolationCode

/-- Every code, by its number. -/
def all : List ViolationCode :=
  [duplicateName, duplicateFileName, fileNameMismatch, emptySource, lineOutOfRange, anchorMissing,
   undeclaredCategory, uncoveredCategory, ruleCategoryMismatch, invalidRulePattern,
   findingsOutOfOrder, staleWaiver]

/-- The code as it is written in a report. -/
def code : ViolationCode → String
  | duplicateName => "V001"
  | duplicateFileName => "V002"
  | fileNameMismatch => "V003"
  | emptySource => "V004"
  | lineOutOfRange => "V005"
  | anchorMissing => "V006"
  | undeclaredCategory => "V007"
  | uncoveredCategory => "V008"
  | ruleCategoryMismatch => "V009"
  | invalidRulePattern => "V010"
  | findingsOutOfOrder => "V011"
  | staleWaiver => "V012"

def name : ViolationCode → String
  | duplicateName => "DuplicateName"
  | duplicateFileName => "DuplicateFileName"
  | fileNameMismatch => "FileNameMismatch"
  | emptySource => "EmptySource"
  | lineOutOfRange => "LineOutOfRange"
  | anchorMissing => "AnchorMissing"
  | undeclaredCategory => "UndeclaredCategory"
  | uncoveredCategory => "UncoveredCategory"
  | ruleCategoryMismatch => "RuleCategoryMismatch"
  | invalidRulePattern => "InvalidRulePattern"
  | findingsOutOfOrder => "FindingsOutOfOrder"
  | staleWaiver => "StaleWaiver"

end ViolationCode

inductive RemarkCode where
  /-- A fixture has findings, and none of them is required. -/
  | noRequiredFindings
  /-- A rule is listed twice on one line. -/
  | duplicateFinding
  /-- A comment names a defect that no finding records. -/
  | unrecordedComment
deriving DecidableEq, Repr

namespace RemarkCode

/-- The code as it is written in a report. -/
def code : RemarkCode → String
  | noRequiredFindings => "W001"
  | duplicateFinding => "W002"
  | unrecordedComment => "W003"

def name : RemarkCode → String
  | noRequiredFindings => "NoRequiredFindings"
  | duplicateFinding => "DuplicateFinding"
  | unrecordedComment => "UnrecordedAnnotation"

end RemarkCode

/-- What is wrong with one finding of a fixture. -/
inductive FindingFault where
  | outOfOrder (line previous : Nat)
  | lineOutOfRange (line lineCount : Nat) (fileName : String)
  | anchorMissing (anchor : String) (line : Nat) (text : List Char)
  | undeclaredCategory (category : Category)
  | ruleCategoryMismatch (rule : String) (derived : Option Category) (stated : Category)
  | invalidRulePattern (rule : String) (malformed : Glob.Malformed)
deriving DecidableEq, Repr

namespace FindingFault

def code : FindingFault → ViolationCode
  | outOfOrder .. => .findingsOutOfOrder
  | lineOutOfRange .. => .lineOutOfRange
  | anchorMissing .. => .anchorMissing
  | undeclaredCategory .. => .undeclaredCategory
  | ruleCategoryMismatch .. => .ruleCategoryMismatch
  | invalidRulePattern .. => .invalidRulePattern

def message : FindingFault → String
  | outOfOrder line previous =>
      "line " ++ toString line ++ " follows line " ++ toString previous ++
        "; findings must be ordered by line"
  | lineOutOfRange line lineCount fileName =>
      "line " ++ toString line ++ " is outside 1..=" ++ toString lineCount ++ " of " ++ fileName
  | anchorMissing anchor line text =>
      "anchor '" ++ anchor ++ "' does not occur on line " ++ toString line ++ ": '" ++
        String.ofList (Text.trim text) ++ "'"
  | undeclaredCategory category =>
      "finding category '" ++ category.name ++ "' is not declared by the fixture"
  | ruleCategoryMismatch rule derived stated =>
      let owner :=
        match derived with
        | some category => "'" ++ category.name ++ "'"
        | none => "no known category"
      "rule '" ++ rule ++ "' belongs to " ++ owner ++
        ", but the finding says '" ++ stated.name ++ "'"
  | invalidRulePattern rule malformed =>
      "rule '" ++ rule ++ "' is not a valid pattern: " ++ malformed.message

end FindingFault

/-- What makes a corpus invalid, with the name of the fixture where it was found. -/
inductive Violation where
  | duplicateName (fixture : String)
  | duplicateFileName (fixture fileName : String)
  | fileNameMismatch (fixture fileName : String)
  | emptySource (fixture : String)
  | finding (fixture : String) (index : Nat) (fault : FindingFault)
  | uncoveredCategory (fixture : String) (category : Category)
  | idleWaiver (fixture : String) (index line : Nat)
  | coveredWaiver (fixture : String) (index line : Nat)
deriving DecidableEq, Repr

/-- The place of an entry in one of a fixture's lists. -/
def entryPath (fixture list : String) (index : Nat) : String :=
  fixture ++ "." ++ list ++ "[" ++ toString index ++ "]"

def expectedFileName (name : String) : String :=
  name ++ ".cpp"

namespace Violation

def code : Violation → ViolationCode
  | duplicateName .. => .duplicateName
  | duplicateFileName .. => .duplicateFileName
  | fileNameMismatch .. => .fileNameMismatch
  | emptySource .. => .emptySource
  | finding _ _ fault => fault.code
  | uncoveredCategory .. => .uncoveredCategory
  | idleWaiver .. => .staleWaiver
  | coveredWaiver .. => .staleWaiver

def message : Violation → String
  | duplicateName fixture => "fixture name '" ++ fixture ++ "' is used more than once"
  | duplicateFileName _ fileName => "file name '" ++ fileName ++ "' is used more than once"
  | fileNameMismatch fixture fileName =>
      "file name must be '" ++ expectedFileName fixture ++ "', got '" ++ fileName ++ "'"
  | emptySource _ => "fixture source is empty"
  | finding _ _ fault => fault.message
  | uncoveredCategory _ category =>
      "declared category '" ++ category.name ++ "' has no expected finding"
  | idleWaiver _ _ line => "line " ++ toString line ++ " has no defect comment to waive"
  | coveredWaiver _ _ line =>
      "comment on line " ++ toString line ++ " is already covered by a finding"

/-- The place of the violation in the corpus. -/
def path : Violation → String
  | duplicateName fixture => fixture
  | duplicateFileName fixture _ => fixture ++ ".file_name"
  | fileNameMismatch fixture _ => fixture ++ ".file_name"
  | emptySource fixture => fixture ++ ".source"
  | finding fixture index _ => entryPath fixture "findings" index
  | uncoveredCategory fixture _ => fixture ++ ".categories"
  | idleWaiver fixture index _ => entryPath fixture "waivers" index
  | coveredWaiver fixture index _ => entryPath fixture "waivers" index

end Violation

/-- What is worth a look in a corpus, with the name of the fixture where it was found. -/
inductive Remark where
  | noRequiredFindings (fixture : String)
  | duplicateFinding (fixture : String) (index : Nat) (rule : String) (line : Nat)
  | unrecordedComment (fixture : String) (comment : DefectComment)
deriving DecidableEq, Repr

namespace Remark

def code : Remark → RemarkCode
  | noRequiredFindings .. => .noRequiredFindings
  | duplicateFinding .. => .duplicateFinding
  | unrecordedComment .. => .unrecordedComment

def message : Remark → String
  | noRequiredFindings _ => "every finding is advisory"
  | duplicateFinding _ _ rule line =>
      "rule '" ++ rule ++ "' is listed twice on line " ++ toString line
  | unrecordedComment _ comment =>
      "'" ++ String.ofList comment.text ++ "' names a defect but no finding lies on lines " ++
        toString comment.scope.first ++ "..=" ++ toString comment.scope.last

/-- The place of the remark in the corpus. -/
def path : Remark → String
  | noRequiredFindings fixture => fixture ++ ".findings"
  | duplicateFinding fixture index _ _ => entryPath fixture "findings" index
  | unrecordedComment fixture comment => fixture ++ ".source:" ++ toString comment.line

end Remark

/-- An entry of a report, on one line. -/
def reportLine (code message path : String) : String :=
  code ++ ": " ++ message ++ " (at " ++ path ++ ")"

def Violation.text (violation : Violation) : String :=
  reportLine violation.code.code violation.message violation.path

def Remark.text (remark : Remark) : String :=
  reportLine remark.code.code remark.message remark.path

namespace Fixture

/-- The fault of a finding's line: behind its predecessor's, outside the source, or without the
anchor. -/
def placeFaults (fixture : Fixture) (previous : Nat) (finding : Finding) : List FindingFault :=
  (if finding.line < previous then [.outOfOrder finding.line previous] else []) ++
    match fixture.line? finding.line with
    | none => [.lineOutOfRange finding.line fixture.lineCount fixture.fileName]
    | some text =>
        if finding.anchor.isEmpty || !Text.occursIn finding.anchor.toList text then
          [.anchorMissing finding.anchor finding.line text]
        else []

/-- The faults of a finding's rule and category. -/
def ruleFaults (fixture : Fixture) (finding : Finding) : List FindingFault :=
  let derived := Category.ofCheck? finding.rule
  (if fixture.declares finding.category then [] else [.undeclaredCategory finding.category]) ++
    (if derived = some finding.category then []
      else [.ruleCategoryMismatch finding.rule derived finding.category]) ++
    match Glob.Pattern.ofText? finding.rule with
    | .ok _ => []
    | .error malformed => [.invalidRulePattern finding.rule malformed]

/-- The violations of the findings from `index` on, behind a finding on the line `previous`. -/
def findingViolations (fixture : Fixture) (index previous : Nat) : List Finding → List Violation
  | [] => []
  | finding :: rest =>
      (fixture.placeFaults previous finding ++ fixture.ruleFaults finding).map
          (.finding fixture.name index) ++
        findingViolations fixture (index + 1) finding.line rest

/-- The violations of the declared categories. -/
def categoryViolations (fixture : Fixture) : List Violation :=
  (fixture.categories.filter fun category => (fixture.findingsIn category).isEmpty).map
    (.uncoveredCategory fixture.name)

/-- The violation of a waiver, which stands at `index`. -/
def waiverViolation? (fixture : Fixture) (index : Nat) (waiver : Waiver) : Option Violation :=
  match fixture.defectComments.find? (·.line = waiver.line) with
  | none => some (.idleWaiver fixture.name index waiver.line)
  | some comment =>
      if fixture.recordsComment comment then
        some (.coveredWaiver fixture.name index waiver.line)
      else none

/-- The violations of the waivers from `index` on. -/
def waiverViolations (fixture : Fixture) (index : Nat) : List Waiver → List Violation
  | [] => []
  | waiver :: rest =>
      (fixture.waiverViolation? index waiver).toList ++ waiverViolations fixture (index + 1) rest

/-- All that makes the fixture by itself invalid. -/
def violations (fixture : Fixture) : List Violation :=
  (if fixture.fileName = expectedFileName fixture.name then []
    else [.fileNameMismatch fixture.name fixture.fileName]) ++
  (if fixture.source.isEmpty then [.emptySource fixture.name] else []) ++
  fixture.findingViolations 0 0 fixture.findings ++
  fixture.categoryViolations ++
  fixture.waiverViolations 0 fixture.waivers

/-- The findings from `index` on that repeat a rule on a line, where `earlier` holds the findings
before them. -/
def duplicateRemarks (fixture : Fixture) (index : Nat) (earlier : List Finding) :
    List Finding → List Remark
  | [] => []
  | finding :: rest =>
      let listed := earlier.any fun other =>
        other.rule = finding.rule && other.line = finding.line
      (if listed then [.duplicateFinding fixture.name index finding.rule finding.line] else []) ++
        duplicateRemarks fixture (index + 1) (finding :: earlier) rest

/-- All that is worth a look in the fixture. -/
def remarks (fixture : Fixture) : List Remark :=
  fixture.duplicateRemarks 0 [] fixture.findings ++
  fixture.unrecordedComments.map (.unrecordedComment fixture.name) ++
  (if !fixture.findings.isEmpty && fixture.requiredFindings.isEmpty then
    [.noRequiredFindings fixture.name] else [])

/-- The violations that come of the fixtures listed before this one. -/
def clashes (earlier : List Fixture) (fixture : Fixture) : List Violation :=
  (if earlier.any (·.name = fixture.name) then [.duplicateName fixture.name] else []) ++
  (if earlier.any (·.fileName = fixture.fileName) then
    [.duplicateFileName fixture.name fixture.fileName] else [])

end Fixture

namespace Corpus

/-- The violations of the fixtures that follow those in `earlier`. -/
def violationsFrom (earlier : List Fixture) : List Fixture → List Violation
  | [] => []
  | fixture :: rest =>
      fixture.clashes earlier ++ fixture.violations ++ violationsFrom (fixture :: earlier) rest

/-- All that makes the corpus invalid. -/
def violations (corpus : Corpus) : List Violation :=
  violationsFrom [] corpus.fixtures

/-- All that is worth a look in the corpus. -/
def remarks (corpus : Corpus) : List Remark :=
  corpus.fixtures.flatMap (·.remarks)

def isValid (corpus : Corpus) : Bool :=
  corpus.violations.isEmpty

/-- A violation of this kind was found. -/
def hasViolation (corpus : Corpus) (code : ViolationCode) : Bool :=
  corpus.violations.any (·.code = code)

end Corpus

end LintCorpus
