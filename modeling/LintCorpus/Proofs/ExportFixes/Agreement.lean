import LintCorpus.Proofs.Conformance.ConsoleOutput
import LintCorpus.Proofs.Console.Print
import LintCorpus.Proofs.ExportFixes.Exported

/-!
The two formats agree.  What an analyzer exports about a fixture and what it prints about it are
read as the same diagnostics (`readers_agree`): the one reader turns byte offsets into lines and
columns, the other one finds them in the printed line.
-/

namespace LintCorpus.ExportFixes

open Yaml

variable {corpus : Corpus} {fixture : Fixture} {notice : Notice} {notices : List Notice}
  {place : Position} {places : List Position}

/-- The diagnostic of a notice, when its offset is at this place. -/
def Notice.diagnostic (notice : Notice) (place : Position) : Diagnostic where
  file := notice.path
  line := place.line
  column := place.column
  severity := notice.severity
  message := notice.message
  checks := [notice.check]

/-- The console line of a notice, when its offset is at this place. -/
def Notice.consoleLine (notice : Notice) (place : Position) : String :=
  notice.path ++ ":" ++ toString place.line ++ ":" ++ toString place.column ++ ": " ++
    notice.severity.name ++ ": " ++ notice.message ++ " [" ++ notice.check ++ "]"

/-- A notice about the fixture's file that can be printed as a line. -/
structure Fits (notice : Notice) (fixture : Fixture) : Prop where
  path_name : IsFileName notice.path fixture.fileName
  path_ne : notice.path ≠ ""
  path_line : '\n' ∉ notice.path.toList
  /-- No place and level stand in the path behind its first character. -/
  path_uncut : ∀ front site, ¬ Console.CutsAt notice.path.toList front site
  offset_le : notice.offset ≤ (Text.bytesOf fixture.source.toList).length
  message_line : '\n' ∉ notice.message.toList
  check_ne : notice.check ≠ ""
  check_chars : ∀ c ∈ notice.check.toList, Console.IsCheckChar c

theorem Fits.of_printable (hplace : fixture.positionOf? notice.offset = some place)
    (hname : fileNameOf notice.path = fixture.fileName)
    (hprintable : Console.Printable (notice.diagnostic place)) : Fits notice fixture where
  path_name := fileNameOf_eq_iff.mp hname
  path_ne := hprintable.file_ne
  path_line := hprintable.file_line
  path_uncut := hprintable.file_uncut
  offset_le := (Option.ite_none_right_eq_some.mp hplace).1
  message_line := hprintable.message_line
  check_ne := hprintable.check_ne _ (List.mem_singleton_self _)
  check_chars := hprintable.check_chars _ (List.mem_singleton_self _)

/-- The notices have these places in the fixture. -/
def At (fixture : Fixture) : List Notice → List Position → Prop :=
  List.Forall₂ fun notice place => fixture.positionOf? notice.offset = some place

theorem exists_positionOf? (hfits : Fits notice fixture) :
    ∃ place, fixture.positionOf? notice.offset = some place := by
  exact ⟨_, if_pos hfits.offset_le⟩

theorem exists_at (hfits : ∀ notice ∈ notices, Fits notice fixture) :
    ∃ places, At fixture notices places := by
  induction notices with
  | nil => exact ⟨[], .nil⟩
  | cons notice notices ih =>
      obtain ⟨hfirst, hrest⟩ := List.forall_mem_cons.mp hfits
      obtain ⟨place, hplace⟩ := exists_positionOf? hfirst
      obtain ⟨places, hplaces⟩ := ih hrest
      exact ⟨place :: places, .cons hplace hplaces⟩

/-- The name of a severity, in letters of either case, is a level of that severity. -/
theorem ofLevel_of_lowercase {level : List Char} {severity : Severity}
    (hlevel : Text.lowercaseAscii level = severity.name.toList) :
    Severity.ofLevel level = severity := by
  rw [Severity.ofLevel, hlevel]
  cases severity <;> decide

theorem Tells.resolve {exported : ExportedDiagnostic} (htells : Tells exported notice)
    (hfixture : corpus.byFileName? fixture.fileName = some fixture)
    (hname : IsFileName notice.path fixture.fileName)
    (hplace : fixture.positionOf? notice.offset = some place) :
    exported.resolve corpus = notice.diagnostic place := by
  obtain ⟨hcheck, ⟨level, hlevel, hlower⟩, hcontent⟩ := htells
  have hfile : exported.file = notice.path := by
    rw [ExportedDiagnostic.file, hcontent]
    rfl
  have hposition : corpus.positionIn? notice.path notice.offset = some place := by
    rw [Corpus.positionIn?, fileNameOf_eq_iff.mpr hname, hfixture, Option.bind_some, hplace]
  simp [ExportedDiagnostic.resolve, hcheck, hfile, hcontent, Notice.content, hposition, hlevel,
    ofLevel_of_lowercase hlower, Notice.diagnostic]

theorem map_resolve {exported : List ExportedDiagnostic}
    (htells : List.Forall₂ Tells exported notices)
    (hfixture : corpus.byFileName? fixture.fileName = some fixture)
    (hfits : ∀ notice ∈ notices, Fits notice fixture) (hplaces : At fixture notices places) :
    exported.map (·.resolve corpus) = List.zipWith Notice.diagnostic notices places := by
  induction htells generalizing places with
  | nil =>
      cases hplaces
      rfl
  | cons hfirst _ ih =>
      obtain _ | ⟨hplace, hplaces⟩ := hplaces
      obtain ⟨hfit, hfits⟩ := List.forall_mem_cons.mp hfits
      rw [List.map_cons, List.zipWith_cons_cons, ih hfits hplaces,
        hfirst.resolve hfixture hfit.path_name hplace]

theorem print_diagnostic : Console.print (notice.diagnostic place) = notice.consoleLine place := by
  simp [Console.print, Console.printChecks, Notice.diagnostic, Notice.consoleLine,
    String.append_assoc]

theorem Fits.printable (hfits : Fits notice fixture)
    (hplace : fixture.positionOf? notice.offset = some place) :
    Console.Printable (notice.diagnostic place) where
  file_ne := hfits.path_ne
  file_line := hfits.path_line
  file_uncut := hfits.path_uncut
  line_le := (Fixture.positionOf?_le hplace).1
  column_le := (Fixture.positionOf?_le hplace).2
  message_line := hfits.message_line
  check_ne := by simpa [Notice.diagnostic] using hfits.check_ne
  check_chars := by simpa [Notice.diagnostic] using hfits.check_chars
  message_end := by simp [Notice.diagnostic]
  message_list := by simp [Notice.diagnostic]

theorem printable_of_at (hfits : ∀ notice ∈ notices, Fits notice fixture)
    (hplaces : At fixture notices places) :
    ∀ diagnostic ∈ List.zipWith Notice.diagnostic notices places, Console.Printable diagnostic := by
  induction hplaces with
  | nil => simp
  | cons hplace _ ih =>
      obtain ⟨hfit, hfits⟩ := List.forall_mem_cons.mp hfits
      rw [List.zipWith_cons_cons, List.forall_mem_cons]
      exact ⟨hfit.printable hplace, ih hfits⟩

theorem map_print_zipWith :
    (List.zipWith Notice.diagnostic notices places).map Console.print =
      List.zipWith Notice.consoleLine notices places := by
  simp [List.map_zipWith, print_diagnostic]

/-- A text whose lines are printed diagnostics reads as the diagnostics. -/
theorem read_of_lines {diagnostics : List Diagnostic} {output : String}
    (hprintable : ∀ diagnostic ∈ diagnostics, Console.Printable diagnostic)
    (hlines : Text.lines output.toList = (diagnostics.map Console.print).map String.toList) :
    Console.read output = diagnostics := by
  rw [Console.read, hlines, Console.filterMap_diagnostic?_print hprintable]

/-- A document of notices about a fixture reads as the same diagnostics as their console lines, and
the fixture's report is the same for both. -/
theorem readers_agree {text : String}
    (hfixture : corpus.byFileName? fixture.fileName = some fixture)
    (hsource : (Text.bytesOf fixture.source.toList).length ≤ Text.maxPosition)
    (hdoc : Holds (Document.ofText text.toList) notices)
    (hfits : ∀ notice ∈ notices, Fits notice fixture) :
    ∃ places, At fixture notices places ∧
      let diagnostics := List.zipWith Notice.diagnostic notices places
      let lines := List.zipWith Notice.consoleLine notices places
      corpus.readExportFixes text = .ok diagnostics ∧
        Console.read (Text.unlines lines) = diagnostics ∧
        Console.read ("\n".intercalate lines) = diagnostics ∧
        ∀ options, (corpus.readExportFixes text).map (fixture.check · options) =
          .ok (fixture.check (Console.read (Text.unlines lines)) options) := by
  obtain ⟨places, hplaces⟩ := exists_at hfits
  have hwide : Text.maxPosition ≤ Text.maxOffset := by decide
  have hoffsets : ∀ notice ∈ notices, notice.offset ≤ Text.maxOffset := fun notice hnotice =>
    ((hfits notice hnotice).offset_le.trans hsource).trans hwide
  obtain ⟨exported, hread, htells⟩ := read_of_holds hdoc hoffsets
  have hexported : corpus.readExportFixes text =
      .ok (List.zipWith Notice.diagnostic notices places) := by
    rw [Corpus.readExportFixes, hread, ← map_resolve htells hfixture hfits hplaces]
    rfl
  have hprintable := printable_of_at hfits hplaces
  have hlines : ∀ l ∈ (List.zipWith Notice.diagnostic notices places).map Console.print,
      Text.IsLine l.toList := by
    intro l hl
    obtain ⟨diagnostic, hdiagnostic, rfl⟩ := List.mem_map.mp hl
    exact Console.isLine_print (hprintable diagnostic hdiagnostic)
  have hunlines := read_of_lines hprintable (Text.lines_unlines hlines)
  have hjoined := read_of_lines hprintable (Text.lines_intercalate hlines)
  rw [map_print_zipWith] at hunlines hjoined
  refine ⟨places, hplaces, hexported, hunlines, hjoined, fun options => ?_⟩
  rw [hexported, hunlines]
  rfl

namespace AgreementWitness

/-- A fixture with a character of two bytes. -/
def sample : Fixture where
  name := "s"
  fileName := "s.cpp"
  summary := ""
  categories := []
  findings := []
  waivers := []
  source := "// ä\nint x;"

/-- A place on the second line. -/
def onSecondLine : Notice :=
  ⟨"w/s.cpp", 9, "misc-x", .warning, "a: b"⟩

/-- The place behind the source. -/
def atEnd : Notice :=
  ⟨"s.cpp", 12, "misc-y", .note, "c [d]"⟩

/-- One notice in each layout. -/
def text : String :=
  "Diagnostics:\n" ++
  "- Level: WARNING\n" ++
  "  DiagnosticMessage:\n" ++
  "    FileOffset: 9\n" ++
  "    Message: 'a: b'\n" ++
  "    FilePath: w/s.cpp\n" ++
  "  DiagnosticName: misc-x\n" ++
  "- DiagnosticName: misc-y\n" ++
  "  FilePath: s.cpp\n" ++
  "  FileOffset: 0xC\n" ++
  "  Message: c [d]\n" ++
  "  Level: note\n"

def bare (index line column : Nat) : Properties :=
  .bare ⟨index, line, column⟩

def plain (index line column : Nat) (s : String) : Node :=
  .scalar (bare index line column) s .plain

def nestedMessage : Node :=
  .mapping (bare 55 3 4) [
    (plain 55 3 4 "FileOffset", plain 67 3 16 "9"),
    (plain 73 4 4 "Message", .scalar (bare 82 4 13) "a: b" .singleQuoted),
    (plain 93 5 4 "FilePath", plain 103 5 14 "w/s.cpp")] true

def nested : Node :=
  .mapping (bare 15 1 2) [
    (plain 15 1 2 "Level", plain 22 1 9 "WARNING"),
    (plain 32 2 2 "DiagnosticMessage", nestedMessage),
    (plain 113 6 2 "DiagnosticName", plain 129 6 18 "misc-x")] true

def flat : Node :=
  .mapping (bare 138 7 2) [
    (plain 138 7 2 "DiagnosticName", plain 154 7 18 "misc-y"),
    (plain 163 8 2 "FilePath", plain 173 8 12 "s.cpp"),
    (plain 181 9 2 "FileOffset", plain 193 9 14 "0xC"),
    (plain 199 10 2 "Message", plain 208 10 11 "c [d]"),
    (plain 216 11 2 "Level", plain 223 11 9 "note")] true

def document : Document where
  root := some (.mapping (bare 0 0 0)
    [(plain 0 0 0 "Diagnostics", .sequence (bare 13 1 0) [nested, flat] true)] true)
  fault := none
  hasMore := false

set_option maxRecDepth 10000 in
theorem ofText_text : Document.ofText text.toList = document := by
  decide +kernel

theorem isKey_plain (index line column : Nat) (s : String) :
    IsKey (plain index line column s) s := by
  exact ⟨_, _, rfl⟩

theorem isText_plain {index line column : Nat} {s : String} (hvalue : Value.ofPlain s = .text s) :
    IsText (plain index line column s) s := by
  exact ⟨_, _, rfl, rfl, congrArg Except.ok hvalue⟩

theorem isNumber_plain {index line column n : Nat} {s : String}
    (hvalue : Value.ofPlain s = .nat n) : IsNumber (plain index line column s) n := by
  exact ⟨_, _, rfl, rfl, congrArg Except.ok hvalue⟩

theorem messageForm_nestedMessage :
    MappingForm (MessageEntry onSecondLine) MessageKey.all nestedMessage := by
  refine ⟨_, _, rfl, [some .offset, some .message, some .path], ?_, by decide⟩
  refine .cons (.field (isKey_plain ..) ?_) (.cons (.field (isKey_plain ..) ?_)
    (.cons (.field (isKey_plain ..) ?_) .nil))
  · exact isNumber_plain (by decide +kernel)
  · exact ⟨_, _, rfl, rfl, rfl⟩
  · exact isText_plain (by decide +kernel)

theorem diagnosticForm_nested : DiagnosticForm onSecondLine nested := by
  refine .inl ⟨_, _, rfl, [some .level, some .nested, some .check], ?_, by decide⟩
  refine .cons (.field (isKey_plain ..) ?_) (.cons (.field (isKey_plain ..) ?_)
    (.cons (.field (isKey_plain ..) ?_) .nil))
  · exact ⟨_, isText_plain (by decide +kernel), by decide +kernel⟩
  · exact messageForm_nestedMessage
  · exact isText_plain (by decide +kernel)

theorem diagnosticForm_flat : DiagnosticForm atEnd flat := by
  refine .inr ⟨_, _, rfl, [some .check, some (.inline .path), some (.inline .offset),
    some (.inline .message), some .level], ?_, by decide⟩
  refine .cons (.field (isKey_plain ..) ?_) (.cons (.field (isKey_plain ..) ?_)
    (.cons (.field (isKey_plain ..) ?_) (.cons (.field (isKey_plain ..) ?_)
      (.cons (.field (isKey_plain ..) ?_) .nil))))
  · exact isText_plain (by decide +kernel)
  · exact isText_plain (by decide +kernel)
  · exact isNumber_plain (by decide +kernel)
  · exact isText_plain (by decide +kernel)
  · exact ⟨_, isText_plain (by decide +kernel), by decide +kernel⟩

theorem holds_document : Holds document [onSecondLine, atEnd] where
  fault := rfl
  single := rfl
  root := by
    refine ⟨_, rfl, _, _, rfl, [some ()], .cons (.field (isKey_plain ..) ?_) .nil, by decide⟩
    exact ⟨_, _, rfl, .cons diagnosticForm_nested (.cons diagnosticForm_flat .nil)⟩

theorem positionOf?_onSecondLine : sample.positionOf? onSecondLine.offset = some ⟨2, 4⟩ := by
  decide +kernel

theorem positionOf?_atEnd : sample.positionOf? atEnd.offset = some ⟨2, 7⟩ := by
  decide +kernel

theorem fits_sample : ∀ notice ∈ [onSecondLine, atEnd], Fits notice sample := by
  simp only [List.forall_mem_cons, List.not_mem_nil, false_imp_iff, implies_true, and_true]
  constructor
  · exact .of_printable positionOf?_onSecondLine (by decide +kernel) (by decide +kernel)
  · exact .of_printable positionOf?_atEnd (by decide +kernel) (by decide +kernel)

theorem readers_agree_sample :
    (⟨[sample]⟩ : Corpus).readExportFixes text =
        .ok [onSecondLine.diagnostic ⟨2, 4⟩, atEnd.diagnostic ⟨2, 7⟩] ∧
      Console.read "w/s.cpp:2:4: warning: a: b [misc-x]\ns.cpp:2:7: note: c [d] [misc-y]\n" =
        [onSecondLine.diagnostic ⟨2, 4⟩, atEnd.diagnostic ⟨2, 7⟩] := by
  have hfixture : (⟨[sample]⟩ : Corpus).byFileName? sample.fileName = some sample := by
    decide +kernel
  obtain ⟨places, hplaces, hexported, hprinted, -⟩ := readers_agree hfixture (by decide +kernel)
    (ofText_text ▸ holds_document) fits_sample
  obtain _ | ⟨hfirst, _ | ⟨hsecond, ⟨⟩⟩⟩ := hplaces
  obtain rfl := Option.some.inj (positionOf?_onSecondLine.symm.trans hfirst)
  obtain rfl := Option.some.inj (positionOf?_atEnd.symm.trans hsecond)
  exact ⟨hexported, hprinted⟩

end AgreementWitness

end LintCorpus.ExportFixes
