import LintCorpus.FileTree
import LintCorpus.Fixture.Position
import LintCorpus.Main
import LintCorpus.Proofs.Conformance.Assignment
import LintCorpus.Proofs.Conformance.Closest
import LintCorpus.Proofs.Conformance.ClosestFirst
import LintCorpus.Proofs.Conformance.ConsoleOutput
import LintCorpus.Proofs.Conformance.Deletion
import LintCorpus.Proofs.Conformance.Ignoring
import LintCorpus.Proofs.Conformance.MoreDiagnostics
import LintCorpus.Proofs.Conformance.OwnCategory
import LintCorpus.Proofs.Conformance.Partition
import LintCorpus.Proofs.Conformance.Promotion
import LintCorpus.Proofs.Conformance.Tolerance
import LintCorpus.Proofs.Conformance.Unexpected
import LintCorpus.Proofs.Conformance.Unplaced
import LintCorpus.Proofs.Console.Line
import LintCorpus.Proofs.Console.LineEnd
import LintCorpus.Proofs.Console.Print
import LintCorpus.Proofs.Corpus.Digest
import LintCorpus.Proofs.Corpus.Lookup
import LintCorpus.Proofs.Export
import LintCorpus.Proofs.Export.ReadBack
import LintCorpus.Proofs.ExportFixes.Agreement
import LintCorpus.Proofs.Fixture.Offset
import LintCorpus.Proofs.Fixture.Scope
import LintCorpus.Proofs.Glob.Rule
import LintCorpus.Proofs.Settings.Reading
import LintCorpus.Proofs.Validation.Waivers
