import LintCorpus.Diagnostic.Reader
import LintCorpus.Proofs.Conformance.ClosestFirst
import LintCorpus.Proofs.Fixture.Offset
import LintCorpus.Proofs.Validation.Conditions

/-!
Diagnostics without a place.  An exported diagnostic whose offset leads to no place of the corpus is
given line zero, and the line distance takes this for a line above the first one.  A finding as
close to the top as the tolerance reaches is satisfied by such a diagnostic, and no other finding is
(`Fixture.check_unplaced`).
-/

namespace LintCorpus

/-- The exported diagnostic leads to no place: it has no offset, its file is not in the corpus, or
the offset lies behind the end of the source. -/
def ExportedDiagnostic.Unplaced (exported : ExportedDiagnostic) (corpus : Corpus) : Prop :=
  ∀ offset, exported.content.fileOffset = some offset →
    ∀ fixture, corpus.byFileName? (fileNameOf exported.file) = some fixture →
      fixture.bytes.length < offset

/-- The exported diagnostic, without its offset. -/
def ExportedDiagnostic.withoutOffset (exported : ExportedDiagnostic) : ExportedDiagnostic :=
  { exported with nested := some { exported.content with fileOffset := none } }

/-- In a source with fewer bytes than the largest word counts, every line number fits into a word,
so none is told as zero. -/
theorem Fixture.line_pos_of_positionOf? {fixture : Fixture} {offset : Nat} {place : Position}
    (hsource : fixture.bytes.length < Text.maxPosition)
    (hplace : fixture.positionOf? offset = some place) : 0 < place.line := by
  have hoffset : offset ≤ fixture.bytes.length := (Option.ite_none_right_eq_some.mp hplace).1
  have hfits : ¬ fixture.WrapsAt offset :=
    not_wrapsAt_of_lt (Nat.lt_of_le_of_lt hoffset hsource)
  exact (locates_of_not_wrapsAt (Nat.le_of_lt hsource) hplace hfits).line_pos

/-- In a valid corpus every finding is on a line of its source. -/
theorem Corpus.line_pos_of_isValid {corpus : Corpus} (hvalid : corpus.isValid = true)
    {fixture : Fixture} (hfixture : fixture ∈ corpus.fixtures) {finding : Finding}
    (hfinding : finding ∈ fixture.findings) : 0 < finding.line := by
  by_contra hline
  exact not_breaks_of_isValid hvalid (.fixture hfixture
    (.finding hfinding (.line (Or.inl (Nat.eq_zero_of_not_pos hline)))))

theorem lineDistance_zero (line : Nat) : lineDistance line 0 = line := by
  simp [lineDistance]

namespace ExportedDiagnostic

variable {exported : ExportedDiagnostic} {corpus : Corpus}

theorem unplaced_iff : exported.Unplaced corpus ↔
    exported.content.fileOffset.bind (corpus.positionIn? exported.file) = none := by
  simp only [Unplaced, Option.bind_eq_none_iff, Corpus.positionIn?, Fixture.positionOf?_eq_none_iff]

theorem unplaced_withoutOffset : exported.withoutOffset.Unplaced corpus := by
  intro offset hoffset
  contradiction

/-- A place that is not known is told as line zero. -/
theorem resolve_line_of_unplaced (hunplaced : exported.Unplaced corpus) :
    (exported.resolve corpus).line = 0 := by
  simp [resolve, unplaced_iff.mp hunplaced]

/-- Where every line number fits into a word, line zero stands for the places that are not known and
for no others. -/
theorem resolve_line_eq_zero_iff
    (hsource : ∀ fixture, corpus.byFileName? (fileNameOf exported.file) = some fixture →
      fixture.bytes.length < Text.maxPosition) :
    (exported.resolve corpus).line = 0 ↔ exported.Unplaced corpus := by
  refine ⟨fun hline => ?_, resolve_line_of_unplaced⟩
  rw [unplaced_iff]
  cases hplace : exported.content.fileOffset.bind (corpus.positionIn? exported.file) with
  | none => rfl
  | some place =>
      obtain ⟨offset, -, hposition⟩ := Option.bind_eq_some_iff.mp hplace
      obtain ⟨fixture, hfixture, hat⟩ := Option.bind_eq_some_iff.mp hposition
      have hpos := Fixture.line_pos_of_positionOf? (hsource fixture hfixture) hat
      have hzero : place.line = 0 := by
        simpa [resolve, hplace] using hline
      exact absurd hzero (Nat.ne_of_gt hpos)

end ExportedDiagnostic

namespace Fixture

variable {fixture : Fixture} {diagnostics : List Diagnostic} {options : CheckOptions}

/-- What a finding is matched with is a diagnostic about the fixture's file that satisfies it. -/
theorem satisfiedBy_of_mem_matched {entry : Match}
    (hentry : entry ∈ (fixture.check diagnostics options).matched) :
    entry.finding ∈ fixture.findings ∧ entry.diagnostic ∈ fixture.relevant diagnostics ∧
      entry.finding.satisfiedBy options.lineTolerance entry.diagnostic = true := by
  obtain ⟨choice, hchooses⟩ := fixture.exists_chooses diagnostics options
  rw [hchooses.restsOn.matched, List.mem_filterMap] at hentry
  obtain ⟨k, -, hentry⟩ := hentry
  obtain ⟨i, hi, rfl⟩ := Option.map_eq_some_iff.mp hentry
  exact ⟨List.get_mem _ _, List.get_mem _ _, hchooses.closestFirst.satisfied k i hi⟩

/-- When a diagnostic about the fixture's file satisfies a finding, something is matched: only
another match keeps the diagnostic from the finding. -/
theorem matched_ne_nil {diagnostic : Diagnostic} {finding : Finding}
    (hdiagnostic : diagnostic ∈ fixture.relevant diagnostics)
    (hfinding : finding ∈ fixture.findings)
    (hsatisfied : finding.satisfiedBy options.lineTolerance diagnostic = true) :
    (fixture.check diagnostics options).matched ≠ [] := by
  obtain ⟨choice, hchooses⟩ := fixture.exists_chooses diagnostics options
  obtain ⟨k, rfl⟩ := List.mem_iff_get.mp hfinding
  obtain ⟨i, rfl⟩ := List.mem_iff_get.mp hdiagnostic
  intro hmatched
  rw [hchooses.restsOn.matched, List.filterMap_eq_nil_iff] at hmatched
  have hnone : ∀ j, choice j = none := fun j =>
    Option.map_eq_none_iff.mp (hmatched j (List.mem_finRange j))
  obtain ⟨j, -, hj, -⟩ := hchooses.closestFirst.maximal k (hnone k) i hsatisfied
  rw [hnone j] at hj
  contradiction

/-- Line zero satisfies the findings that the tolerance reaches from above. -/
theorem satisfiedBy_resolve_iff {finding : Finding} {tolerance : Nat}
    {exported : ExportedDiagnostic} {corpus : Corpus} (hline : (exported.resolve corpus).line = 0) :
    finding.satisfiedBy tolerance (exported.resolve corpus) = true ↔
      finding.line ≤ tolerance ∧ finding.coversCheck exported.name = true := by
  rw [Finding.satisfiedBy_iff, hline, lineDistance_zero]
  simp [ExportedDiagnostic.resolve]

section Unplaced

variable {corpus : Corpus} {exported : ExportedDiagnostic}

/-- Alone, a diagnostic without a place is matched as soon as a finding that it serves is within the
tolerance of line zero. -/
theorem exists_matched_of_unplaced {finding : Finding} (hfinding : finding ∈ fixture.findings)
    (hunplaced : exported.Unplaced corpus) (hfile : fileNameOf exported.file = fixture.fileName)
    (hcovers : finding.coversCheck exported.name = true)
    (hreach : finding.line ≤ options.lineTolerance) :
    ∃ entry ∈ (fixture.check [exported.resolve corpus] options).matched,
      entry.diagnostic.line = 0 := by
  have hrelevant : exported.resolve corpus ∈ fixture.relevant [exported.resolve corpus] :=
    List.mem_filter.mpr ⟨List.mem_singleton_self _, decide_eq_true hfile⟩
  have hline := ExportedDiagnostic.resolve_line_of_unplaced hunplaced
  have hsatisfied := (satisfiedBy_resolve_iff hline).mpr ⟨hreach, hcovers⟩
  obtain ⟨entry, hentry⟩ := List.exists_mem_of_ne_nil _
    (matched_ne_nil hrelevant hfinding hsatisfied)
  have hsame := List.mem_singleton.mp
    (List.mem_of_mem_filter (satisfiedBy_of_mem_matched hentry).2.1)
  exact ⟨entry, hentry, hsame ▸ hline⟩

/-- What is matched on line zero is matched without its offset as well, and its finding is within
the tolerance of line zero. -/
theorem exists_unplaced_of_matched {batch : List ExportedDiagnostic} {entry : Match}
    (hentry : entry ∈ (fixture.check (batch.map (·.resolve corpus)) options).matched)
    (hline : entry.diagnostic.line = 0) :
    ∃ exported : ExportedDiagnostic, exported.Unplaced corpus ∧
      fileNameOf exported.file = fixture.fileName ∧
      entry.finding.coversCheck exported.name = true ∧
      entry.finding.line ≤ options.lineTolerance := by
  obtain ⟨-, hrelevant, hsatisfied⟩ := satisfiedBy_of_mem_matched hentry
  obtain ⟨hmem, hfile⟩ := List.mem_filter.mp hrelevant
  obtain ⟨exported, -, hresolve⟩ := List.mem_map.mp hmem
  rw [← hresolve] at hline hfile hsatisfied
  obtain ⟨hreach, hcovers⟩ := (satisfiedBy_resolve_iff hline).mp hsatisfied
  exact ⟨exported.withoutOffset, ExportedDiagnostic.unplaced_withoutOffset,
    of_decide_eq_true hfile, hcovers, hreach⟩

end Unplaced

/-- What the reader gives line zero has no place, unless the source is so long that a line number
does not fit into 32 bits, and the check matches it only with findings within the tolerance of line
zero.  In a valid corpus there are none at tolerance zero.  At any tolerance nothing without a place
is ever matched exactly when every finding that some such diagnostic about the fixture's file could
serve is further down. -/
theorem check_unplaced {corpus : Corpus} (hvalid : corpus.isValid = true)
    (hfixture : fixture ∈ corpus.fixtures) (options : CheckOptions) :
    (∀ exported : ExportedDiagnostic,
      (∀ fixture, corpus.byFileName? (fileNameOf exported.file) = some fixture →
        fixture.bytes.length < Text.maxPosition) →
      ((exported.resolve corpus).line = 0 ↔ exported.Unplaced corpus)) ∧
    (∀ text diagnostics, corpus.readExportFixes text = .ok diagnostics →
      ∀ entry ∈ (fixture.check diagnostics options).matched, entry.diagnostic.line = 0 →
        0 < entry.finding.line ∧ entry.finding.line ≤ options.lineTolerance) ∧
    ((∀ exported : List ExportedDiagnostic,
        ∀ entry ∈ (fixture.check (exported.map (·.resolve corpus)) options).matched,
          entry.diagnostic.line ≠ 0) ↔
      ∀ finding ∈ fixture.findings, ∀ exported : ExportedDiagnostic, exported.Unplaced corpus →
        fileNameOf exported.file = fixture.fileName → finding.coversCheck exported.name = true →
          options.lineTolerance < finding.line) := by
  refine ⟨fun _ hsource => ExportedDiagnostic.resolve_line_eq_zero_iff hsource, ?_, ?_, ?_⟩
  · intro text diagnostics _ entry hentry hline
    obtain ⟨hfinding, -, hsatisfied⟩ := satisfiedBy_of_mem_matched hentry
    have hdistance := (Finding.satisfiedBy_iff.mp hsatisfied).1
    rw [hline, lineDistance_zero] at hdistance
    exact ⟨Corpus.line_pos_of_isValid hvalid hfixture hfinding, hdistance⟩
  · intro hplaced finding hfinding exported hunplaced hfile hcovers
    by_contra hreach
    obtain ⟨entry, hentry, hline⟩ := exists_matched_of_unplaced hfinding hunplaced hfile hcovers
      (Nat.not_lt.mp hreach)
    exact hplaced [exported] entry hentry hline
  · intro hfar batch entry hentry hline
    obtain ⟨hfinding, -⟩ := satisfiedBy_of_mem_matched hentry
    obtain ⟨exported, hunplaced, hfile, hcovers, hreach⟩ := exists_unplaced_of_matched hentry hline
    exact Nat.not_lt.mpr hreach (hfar _ hfinding exported hunplaced hfile hcovers)

end Fixture

namespace UnplacedWitness

/-- A fixture with a finding on its first line. -/
def top : Fixture where
  name := "top"
  fileName := "top.cpp"
  summary := ""
  categories := [.misc]
  findings := [.required "misc-unused-using-decls" .misc 1 "using" ""]
  waivers := []
  source := "using std::cout;\n"

def corpus : Corpus where
  fixtures := [top]

/-- Exported fixes without an offset. -/
def text : String :=
  "Diagnostics:\n" ++
  "- DiagnosticName: misc-unused-using-decls\n" ++
  "  DiagnosticMessage:\n" ++
  "    Message: unused\n" ++
  "    FilePath: top.cpp\n" ++
  "  Level: Warning\n"

def exported : ExportedDiagnostic :=
  ⟨"misc-unused-using-decls", some "Warning", some ⟨some "unused", some "top.cpp", none⟩, .empty⟩

def diagnostic : Diagnostic :=
  ⟨"top.cpp", 0, 0, .warning, "unused", ["misc-unused-using-decls"]⟩

def options (lineTolerance : Nat) : CheckOptions := ⟨lineTolerance, [], false⟩

theorem readExportFixes_text : corpus.readExportFixes text = .ok [diagnostic] := by
  decide +kernel

theorem byFileName?_exported : corpus.byFileName? (fileNameOf exported.file) = some top := by
  decide +kernel

/-- The tolerance of one line lets the diagnostic serve the finding, exact lines do not. -/
theorem check_unplaced_top :
    corpus.isValid = true ∧ top ∈ corpus.fixtures ∧ exported.Unplaced corpus ∧
      (∀ entry ∈ (top.check [diagnostic] (options 0)).matched, entry.diagnostic.line ≠ 0) ∧
      ∃ exported : List ExportedDiagnostic,
        ∃ entry ∈ (top.check (exported.map (·.resolve corpus)) (options 1)).matched,
          entry.diagnostic.line = 0 := by
  have hvalid : corpus.isValid = true := by
    decide +kernel
  have hfixture : top ∈ corpus.fixtures := List.mem_cons_self
  obtain ⟨hline, hexact, -⟩ := Fixture.check_unplaced hvalid hfixture (options 0)
  obtain ⟨-, -, hnever⟩ := Fixture.check_unplaced hvalid hfixture (options 1)
  have hsource : ∀ fixture, corpus.byFileName? (fileNameOf exported.file) = some fixture →
      fixture.bytes.length < Text.maxPosition := by
    intro fixture hfound
    obtain rfl := Option.some.inj (byFileName?_exported.symm.trans hfound)
    decide +kernel
  have hunplaced : exported.Unplaced corpus := (hline exported hsource).mp rfl
  refine ⟨hvalid, hfixture, hunplaced, ?_, ?_⟩
  · intro entry hentry hzero
    obtain ⟨hpos, hle⟩ := hexact text _ readExportFixes_text entry hentry hzero
    exact Nat.not_lt.mpr hle hpos
  · by_contra hnone
    push Not at hnone
    have hfar := hnever.mp hnone _ List.mem_cons_self exported hunplaced (by decide)
      (by decide +kernel)
    exact absurd hfar (by decide)

/-- The finding on the first line is matched with a diagnostic whose place is not known. -/
theorem not_check_unplaced :
    ¬ ∀ (corpus : Corpus) (fixture : Fixture) (text : String) (diagnostics : List Diagnostic)
        (options : CheckOptions), corpus.isValid = true → fixture ∈ corpus.fixtures →
      corpus.readExportFixes text = .ok diagnostics →
        ∀ entry ∈ (fixture.check diagnostics options).matched, entry.diagnostic.line ≠ 0 := by
  intro hall
  have hplaced := hall corpus top text _ (options 1) (by decide +kernel) List.mem_cons_self
    readExportFixes_text
  revert hplaced
  decide +kernel

end UnplacedWitness

end LintCorpus
