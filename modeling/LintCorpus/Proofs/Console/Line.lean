import Mathlib.Logic.ExistsUnique
import LintCorpus.Proofs.Console.Grammar
import LintCorpus.Proofs.Text.Lines

/-!
What a single line reads as, without the reader.  Of all ways to take a line apart as
`file:line:column: level: body` (`Split`) the one with the shortest file counts; there is exactly
one such way if there is any.  The line holds a diagnostic just when the two positions of that split
are numbers in ASCII digits that fit a word of 32 bits, and the split says what the diagnostic is
(`read_line`).
-/

namespace LintCorpus.Console

/-- A line taken apart. -/
structure Split where
  file : List Char
  line : List Char
  column : List Char
  level : String
  body : List Char

namespace Split

/-- The line, put together. -/
def text (split : Split) : List Char :=
  split.file ++ ':' :: (split.line ++ ':' :: (split.column ++ ':' :: ' ' ::
    (split.level.toList ++ ':' :: ' ' :: split.body)))

/-- The line can be taken apart like this. -/
structure Of (cs : List Char) (split : Split) : Prop where
  text : split.text = cs
  file : split.file ≠ []
  line : IsDigitRun split.line
  column : IsDigitRun split.column
  level : split.level ∈ ["fatal error", "error", "warning", "note", "remark"]

/-- No other way to take the line apart has a shorter file. -/
structure ShortestOf (cs : List Char) (split : Split) : Prop where
  of : split.Of cs
  shortest : ∀ other, Of cs other → split.file.length ≤ other.file.length

/-- Both positions are written in ASCII digits and fit a word of 32 bits. -/
structure InRange (split : Split) : Prop where
  line : ∃ n ≤ 4294967295, Text.Writes split.line n
  column : ∃ n ≤ 4294967295, Text.Writes split.column n

/-- The severity that the level stands for. -/
def severity (split : Split) : Severity :=
  if split.level = "error" ∨ split.level = "fatal error" then .error
  else if split.level = "warning" then .warning
  else .note

end Split

/-- The text without the blanks at its end. -/
def Stripped (cs stripped : List Char) : Prop :=
  ∃ blanks, cs = stripped ++ blanks ∧ (∀ c ∈ blanks, Text.isBlank c = true) ∧
    ∀ c ∈ stripped.getLast?, Text.isBlank c = false

/-- The checks are the non-empty parts of the list between its commas. -/
def ListsChecks (list : List Char) (checks : List String) : Prop :=
  ∃ parts, parts ≠ [] ∧ (∀ part ∈ parts, ',' ∉ part) ∧ [','].intercalate parts = list ∧
    checks = (parts.filter (· ≠ [])).map String.ofList

/-- The message and the checks that a body stands for. -/
inductive Carries (body : List Char) : List Char → List String → Prop where
  /-- The stripped body is the message with a bracketed list behind it. -/
  | listed {stripped message list : List Char} {checks : List String}
      (hstripped : Stripped body stripped) (hlist : EndsInList stripped message list)
      (hchecks : ListsChecks list checks) : Carries body message checks
  | plain {stripped : List Char} (hstripped : Stripped body stripped)
      (hnone : ∀ message list, ¬ EndsInList stripped message list) : Carries body stripped []

/-- The split says what the diagnostic is. -/
structure Split.Describes (split : Split) (diagnostic : Diagnostic) : Prop where
  file : diagnostic.file.toList = split.file
  line : Text.Writes split.line diagnostic.line
  line_le : diagnostic.line ≤ 4294967295
  column : Text.Writes split.column diagnostic.column
  column_le : diagnostic.column ≤ 4294967295
  severity : diagnostic.severity = split.severity
  carries : Carries split.body diagnostic.message.toList diagnostic.checks

theorem stripped_iff {cs stripped : List Char} :
    Stripped cs stripped ↔ Text.trimEnd cs = stripped :=
  Text.trimEnd_eq_iff.symm

theorem listsChecks_iff {list : List Char} {checks : List String} :
    ListsChecks list checks ↔ checks = checksOf list := by
  rw [checksOf]
  constructor
  · rintro ⟨parts, hne, hparts, hlist, rfl⟩
    rw [Text.splitOn_eq_iff.mpr ⟨hne, hparts, hlist⟩]
  · rintro rfl
    obtain ⟨hne, hparts, hlist⟩ := Text.splitOn_eq_iff.mp (rfl : list.splitOn ',' = _)
    exact ⟨_, hne, hparts, hlist, rfl⟩

theorem carries_iff {body message : List Char} {checks : List String} :
    Carries body message checks ↔ BodyForm body message checks := by
  constructor
  · rintro (⟨hstripped, hlist, hchecks⟩ | ⟨hstripped, hnone⟩)
    · obtain rfl := stripped_iff.mp hstripped
      obtain rfl := listsChecks_iff.mp hchecks
      exact BodyForm.listed hlist
    · obtain rfl := stripped_iff.mp hstripped
      exact BodyForm.plain hnone
  · rintro (hlist | hnone)
    · exact Carries.listed (stripped_iff.mpr rfl) hlist (listsChecks_iff.mpr rfl)
    · exact Carries.plain (stripped_iff.mpr rfl) hnone

namespace Split

/-- What stands behind the file part. -/
def site (split : Split) : Site :=
  ⟨split.line, split.column, split.severity, split.body⟩

theorem mem_levels_iff {split : Split} {severity : Severity} :
    (split.level, severity) ∈ levels ↔
      split.level ∈ ["fatal error", "error", "warning", "note", "remark"] ∧
        severity = split.severity := by
  simp only [levels, List.mem_cons, Prod.mk.injEq, List.not_mem_nil, or_false]
  constructor
  · rintro (⟨hlevel, rfl⟩ | ⟨hlevel, rfl⟩ | ⟨hlevel, rfl⟩ | ⟨hlevel, rfl⟩ | ⟨hlevel, rfl⟩)
    all_goals simp [Split.severity, hlevel]
  · rintro ⟨hlevel | hlevel | hlevel | hlevel | hlevel, rfl⟩
    all_goals simp [Split.severity, hlevel]

theorem cutsAt_iff {cs file : List Char} {site : Site} :
    CutsAt cs file site ↔ ∃ split, Of cs split ∧ split.file = file ∧ split.site = site := by
  constructor
  · rintro ⟨hfile, rest, rfl, hsite⟩
    obtain @⟨line, column, body, level, severity, hline, hcolumn, hlevel⟩ := hsite
    obtain ⟨hname, rfl⟩ := (@mem_levels_iff ⟨file, line, column, level, body⟩ severity).mp hlevel
    exact ⟨⟨file, line, column, level, body⟩, ⟨rfl, hfile, hline, hcolumn, hname⟩, rfl, rfl⟩
  · rintro ⟨split, ⟨rfl, hfile, hline, hcolumn, hlevel⟩, rfl, rfl⟩
    exact ⟨hfile, _, rfl, SiteForm.intro hline hcolumn (mem_levels_iff.mpr ⟨hlevel, rfl⟩)⟩

theorem shortestCut_iff {cs file : List Char} {site : Site} :
    ShortestCut cs file site ↔
      ∃ split, ShortestOf cs split ∧ split.file = file ∧ split.site = site := by
  constructor
  · rintro ⟨hcuts, hshortest⟩
    obtain ⟨split, hof, rfl, rfl⟩ := cutsAt_iff.mp hcuts
    refine ⟨split, ⟨hof, ?_⟩, rfl, rfl⟩
    intro other hother
    exact hshortest other.file other.site (cutsAt_iff.mpr ⟨other, hother, rfl, rfl⟩)
  · rintro ⟨split, ⟨hof, hshortest⟩, rfl, rfl⟩
    refine ⟨cutsAt_iff.mpr ⟨split, hof, rfl, rfl⟩, ?_⟩
    intro file' site' hcuts
    obtain ⟨other, hother, rfl, rfl⟩ := cutsAt_iff.mp hcuts
    exact hshortest other hother

/-- A line that can be taken apart can be so with a shortest file. -/
theorem exists_shortestOf {cs : List Char} {split : Split} (hof : Of cs split) :
    ∃ shortest, ShortestOf cs shortest := by
  cases hsplit : split? cs with
  | none => exact absurd (cutsAt_iff.mpr ⟨split, hof, rfl, rfl⟩) (split?_eq_none_iff.mp hsplit _ _)
  | some cut =>
      obtain ⟨shortest, hshortest, -⟩ := shortestCut_iff.mp (split?_eq_some_iff.mp hsplit)
      exact ⟨shortest, hshortest⟩

/-- There is at most one way with a shortest file. -/
theorem ShortestOf.unique {cs : List Char} {first second : Split} (hfirst : ShortestOf cs first)
    (hsecond : ShortestOf cs second) : first = second := by
  have hcut := split?_eq_some_iff.mpr (shortestCut_iff.mpr ⟨first, hfirst, rfl, rfl⟩)
  rw [split?_eq_some_iff.mpr (shortestCut_iff.mpr ⟨second, hsecond, rfl, rfl⟩)] at hcut
  have htext := hfirst.of.text.trans hsecond.of.text.symm
  rcases first with ⟨file, line, column, level, body⟩
  rcases second with ⟨file', line', column', level', body'⟩
  simp only [site, Option.some.injEq, Prod.mk.injEq, Site.mk.injEq] at hcut
  obtain ⟨rfl, rfl, rfl, -, rfl⟩ := hcut
  have hlevel : level = level' := String.toList_inj.mp (by simpa [text] using htext)
  rw [hlevel]

/-- Positions in range are all that a split needs to describe a diagnostic. -/
theorem inRange_iff {split : Split} : split.InRange ↔ ∃ diagnostic, split.Describes diagnostic := by
  constructor
  · rintro ⟨⟨line, hlineLe, hline⟩, ⟨column, hcolumnLe, hcolumn⟩⟩
    obtain ⟨message, checks, hbody⟩ : ∃ message checks, Carries split.body message checks :=
      ⟨_, _, carries_iff.mpr (messageAndChecks_eq_iff.mp rfl)⟩
    refine ⟨⟨String.ofList split.file, line, column, split.severity, String.ofList message, checks⟩,
      String.toList_ofList, hline, hlineLe, hcolumn, hcolumnLe, rfl, ?_⟩
    rwa [String.toList_ofList]
  · rintro ⟨diagnostic, hdescribes⟩
    exact ⟨⟨_, hdescribes.line_le, hdescribes.line⟩, ⟨_, hdescribes.column_le, hdescribes.column⟩⟩

end Split

theorem reads_iff {cs : List Char} {diagnostic : Diagnostic} :
    Reads cs diagnostic ↔ ∃ split, Split.ShortestOf cs split ∧ split.Describes diagnostic := by
  constructor
  · rintro ⟨site, hcut, hline, hlineLe, hcolumn, hcolumnLe, hseverity, hbody⟩
    obtain ⟨split, hshortest, hfile, rfl⟩ := Split.shortestCut_iff.mp hcut
    exact ⟨split, hshortest, hfile.symm, hline, hlineLe, hcolumn, hcolumnLe, hseverity,
      carries_iff.mpr hbody⟩
  · rintro ⟨split, hshortest, hfile, hline, hlineLe, hcolumn, hcolumnLe, hseverity, hcarries⟩
    exact ⟨split.site, Split.shortestCut_iff.mpr ⟨split, hshortest, hfile.symm, rfl⟩, hline,
      hlineLe, hcolumn, hcolumnLe, hseverity, carries_iff.mp hcarries⟩

/-- A text without line feeds is read as one line. -/
theorem read_of_no_newline {line : String} (hline : '\n' ∉ line.toList) :
    read line = (diagnostic? line.toList).toList := by
  by_cases hempty : line.toList = []
  · rw [read, hempty]
    rfl
  · rw [read, Text.lines_eq_singleton hempty hline]
    cases hread : diagnostic? line.toList <;> simp [hread]

/-- A line holds a diagnostic just when it can be taken apart and, in the one way with the shortest
file, the positions are in range.  That split describes the diagnostic. -/
theorem read_line (line : String) (hline : '\n' ∉ line.toList) :
    ((∃ split, Split.Of line.toList split) → ∃! split, Split.ShortestOf line.toList split) ∧
      ((∃ diagnostic, read line = [diagnostic]) ↔
        ∃ split, Split.ShortestOf line.toList split ∧ split.InRange) ∧
      (read line = [] ↔ ¬ ∃ split, Split.ShortestOf line.toList split ∧ split.InRange) ∧
      ∀ diagnostic, read line = [diagnostic] ↔
        ∃ split, Split.ShortestOf line.toList split ∧ split.Describes diagnostic := by
  have hread : ∀ diagnostic, read line = [diagnostic] ↔
      ∃ split, Split.ShortestOf line.toList split ∧ split.Describes diagnostic := by
    intro diagnostic
    rw [read_of_no_newline hline, ← reads_iff, ← diagnostic?_eq_some_iff,
      Option.toList_eq_singleton_iff]
  have haccepts : (∃ diagnostic, read line = [diagnostic]) ↔
      ∃ split, Split.ShortestOf line.toList split ∧ split.InRange := by
    simp only [hread, Split.inRange_iff]
    constructor
    · rintro ⟨diagnostic, split, hshortest, hdescribes⟩
      exact ⟨split, hshortest, diagnostic, hdescribes⟩
    · rintro ⟨split, hshortest, diagnostic, hdescribes⟩
      exact ⟨diagnostic, split, hshortest, hdescribes⟩
  refine ⟨?_, haccepts, ?_, hread⟩
  · rintro ⟨split, hof⟩
    obtain ⟨shortest, hshortest⟩ := Split.exists_shortestOf hof
    exact ⟨shortest, hshortest, fun other hother => hother.unique hshortest⟩
  · rw [← haccepts, read_of_no_newline hline]
    cases diagnostic? line.toList <;> simp

namespace LineWitness

/-- A message with a second place in it, an empty part in the list, and blanks behind the list. -/
def line : String :=
  "a.cpp:1:02: note: b.cpp:3:4: error: bad [x] [y,,z] \r"

/-- The file reaches to the first place, and the last list names the checks. -/
def diagnostic : Diagnostic :=
  ⟨"a.cpp", 1, 2, .note, "b.cpp:3:4: error: bad [x]", ["y", "z"]⟩

theorem read_line_nested :
    '\n' ∉ line.toList ∧ read line = [diagnostic] ∧
      ∃ split, Split.ShortestOf line.toList split ∧ split.Describes diagnostic := by
  have hline : '\n' ∉ line.toList := by
    decide +kernel
  have hread : read line = [diagnostic] := by
    decide +kernel
  obtain ⟨-, -, -, hreads⟩ := read_line line hline
  exact ⟨hline, hread, (hreads diagnostic).mp hread⟩

/-- The place of the shortest split is out of range, so a later one does not count. -/
example : read "a.cpp:4294967296:1: note: b.cpp:3:4: error: bad" = [] := by
  decide +kernel

end LineWitness

end LintCorpus.Console
