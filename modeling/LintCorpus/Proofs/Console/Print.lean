import LintCorpus.Proofs.Console.Grammar
import LintCorpus.Proofs.Text.Lines

/-!
Printed diagnostics.  `print` writes a diagnostic as a console line, and what is printed reads back
(`read_print`).  A line can be cut behind a shorter file only if a place and a level stand within
the file itself (`SiteForm.of_append`), so it is enough that the file has none.
-/

namespace LintCorpus.Console

/-- The list of checks behind a message. -/
def printChecks (checks : List String) : String :=
  match checks with
  | [] => ""
  | _ :: _ => " [" ++ ",".intercalate checks ++ "]"

/-- The console line of a diagnostic. -/
def print (diagnostic : Diagnostic) : String :=
  diagnostic.file ++ ":" ++ toString diagnostic.line ++ ":" ++ toString diagnostic.column ++ ": " ++
    diagnostic.severity.name ++ ": " ++ diagnostic.message ++ printChecks diagnostic.checks

/-- A letter or digit of ASCII, `_`, `.` or `-`. -/
def IsCheckChar (c : Char) : Prop :=
  c.isAlphanum = true ∨ c = '_' ∨ c = '.' ∨ c = '-'

/-- A diagnostic whose console line reads back. -/
structure Printable (diagnostic : Diagnostic) : Prop where
  file_ne : diagnostic.file ≠ ""
  file_line : '\n' ∉ diagnostic.file.toList
  /-- No place and level stand in the file behind its first character. -/
  file_uncut : ∀ front site, ¬ CutsAt diagnostic.file.toList front site
  line_le : diagnostic.line ≤ Text.maxPosition
  column_le : diagnostic.column ≤ Text.maxPosition
  message_line : '\n' ∉ diagnostic.message.toList
  check_ne : ∀ check ∈ diagnostic.checks, check ≠ ""
  check_chars : ∀ check ∈ diagnostic.checks, ∀ c ∈ check.toList, IsCheckChar c
  /-- Without checks, the message does not end with a blank. -/
  message_end : diagnostic.checks = [] →
    ∀ c ∈ diagnostic.message.toList.getLast?, Text.isBlank c = false
  /-- Without checks, the message does not end with what reads as a list of them. -/
  message_list : diagnostic.checks = [] →
    ∀ message list, ¬ EndsInList diagnostic.message.toList message list

instance (c : Char) : Decidable (IsCheckChar c) :=
  inferInstanceAs (Decidable (c.isAlphanum = true ∨ c = '_' ∨ c = '.' ∨ c = '-'))

theorem bracketed?_eq_none_iff {cs : List Char} :
    bracketed? cs = none ↔ ∀ message list, ¬ EndsInList cs message list := by
  simp only [Option.eq_none_iff_forall_ne_some, Prod.forall, ne_eq, bracketed?_eq_some_iff]

/-- The reader's own searches, for a cut and for a list, tell whether a diagnostic is printable. -/
theorem printable_iff {diagnostic : Diagnostic} :
    Printable diagnostic ↔
      (diagnostic.file ≠ "" ∧ '\n' ∉ diagnostic.file.toList ∧
        split? diagnostic.file.toList = none) ∧
      (diagnostic.line ≤ Text.maxPosition ∧ diagnostic.column ≤ Text.maxPosition) ∧
      '\n' ∉ diagnostic.message.toList ∧
      (∀ check ∈ diagnostic.checks, check ≠ "" ∧ check.toList.all (IsCheckChar ·) = true) ∧
      (diagnostic.checks = [] →
        diagnostic.message.toList.getLast?.all (!Text.isBlank ·) = true ∧
          bracketed? diagnostic.message.toList = none) := by
  simp only [split?_eq_none_iff, bracketed?_eq_none_iff, List.all_eq_true, decide_eq_true_eq,
    Option.all_eq_true, Bool.not_eq_true']
  constructor
  · rintro ⟨hfile, hfileLine, huncut, hline, hcolumn, hmessage, hne, hchars, hend, hlist⟩
    exact ⟨⟨hfile, hfileLine, huncut⟩, ⟨hline, hcolumn⟩, hmessage,
      fun check hcheck => ⟨hne check hcheck, hchars check hcheck⟩,
      fun hnone => ⟨hend hnone, hlist hnone⟩⟩
  · rintro ⟨⟨hfile, hfileLine, huncut⟩, ⟨hline, hcolumn⟩, hmessage, hchecks, hplain⟩
    exact ⟨hfile, hfileLine, huncut, hline, hcolumn, hmessage,
      fun check hcheck => (hchecks check hcheck).1, fun check hcheck => (hchecks check hcheck).2,
      fun hnone => (hplain hnone).1, fun hnone => (hplain hnone).2⟩

instance (diagnostic : Diagnostic) : Decidable (Printable diagnostic) :=
  decidable_of_iff _ printable_iff.symm

theorem exists_cons_of_append_colon {front back rest : List Char} {c : Char}
    (hsplit : front ++ ':' :: back = c :: rest) (hc : ':' ≠ c) :
    ∃ more, front = c :: more ∧ more ++ ':' :: back = rest := by
  cases front with
  | nil => exact absurd (List.cons.inj hsplit).1 hc
  | cons d front =>
      obtain ⟨rfl, hrest⟩ := List.cons.inj hsplit
      exact ⟨front, rfl, hrest⟩

namespace IsDigitRun

variable {run : List Char}

theorem colon_not_mem (hrun : IsDigitRun run) : ':' ∉ run := by
  intro hmem
  have hdigit := hrun.2 ':' hmem
  rw [not_isDecimalDigit_colon] at hdigit
  contradiction

theorem append_ne_blank_cons (hrun : IsDigitRun run) (rest more : List Char) :
    run ++ rest ≠ ' ' :: more := by
  obtain ⟨hne, hdigits⟩ := hrun
  intro heq
  cases run with
  | nil => exact hne rfl
  | cons c run =>
      obtain ⟨rfl, -⟩ := List.cons.inj heq
      have hblank : Text.isDecimalDigit ' ' = true := hdigits ' ' List.mem_cons_self
      revert hblank
      decide

end IsDigitRun

theorem colon_not_mem_level {level : String} {severity : Severity}
    (hlevel : (level, severity) ∈ levels) : ':' ∉ level.toList := by
  have hall : ∀ entry ∈ levels, ':' ∉ entry.1.toList := by
    decide
  exact hall _ hlevel

/-- A site that begins before a printed place does not reach into it. -/
theorem SiteForm.of_append {front line column tail : List Char} {site : Site}
    (hfront : front ≠ []) (hline : IsDigitRun line) (hcolumn : IsDigitRun column)
    (hform : SiteForm (front ++ ':' :: (line ++ ':' :: (column ++ tail))) site) :
    ∃ site', SiteForm front site' := by
  generalize hcs : front ++ ':' :: (line ++ ':' :: (column ++ tail)) = cs at hform
  obtain ⟨hfirst, hsecond, hlevel⟩ := hform
  cases front with
  | nil => exact absurd rfl hfront
  | cons c front =>
      obtain ⟨rfl, htail⟩ := List.cons.inj hcs
      clear hcs
      -- The colon of the place is followed by a digit, so it can only be the first of the site.
      rcases Text.split_at_mark hfirst.colon_not_mem htail with ⟨-, hplace⟩ | ⟨_, rfl, hbehindLine⟩
      · rcases Text.split_at_mark hsecond.colon_not_mem hplace with ⟨-, hblank⟩ | ⟨more, rfl, -⟩
        · exact absurd hblank (hcolumn.append_ne_blank_cons _ _)
        · exact absurd (List.mem_append_right _ List.mem_cons_self) hline.colon_not_mem
      rcases Text.split_at_mark hsecond.colon_not_mem hbehindLine with
        ⟨-, hblank⟩ | ⟨_, rfl, hbehindColumn⟩
      · exact absurd hblank (hline.append_ne_blank_cons _ _)
      obtain ⟨_, rfl, hfromLevel⟩ := exists_cons_of_append_colon hbehindColumn (by decide)
      rcases Text.split_at_mark (colon_not_mem_level hlevel) hfromLevel with
        ⟨-, hblank⟩ | ⟨_, rfl, hbehindLevel⟩
      · exact absurd hblank (hline.append_ne_blank_cons _ _)
      obtain ⟨_, rfl, -⟩ := exists_cons_of_append_colon hbehindLevel (by decide)
      exact ⟨_, SiteForm.intro hfirst hsecond hlevel⟩

theorem IsCheckChar.isListChar {c : Char} (hc : IsCheckChar c) : isListChar c = true := by
  rcases hc with hc | rfl | rfl | rfl
  · simp [Console.isListChar, hc]
  all_goals decide

theorem IsCheckChar.ne_comma {c : Char} (hc : IsCheckChar c) : c ≠ ',' := by
  rintro rfl
  revert hc
  simp only [IsCheckChar]
  decide

theorem toList_intercalate_comma (check : String) (checks : List String) :
    (",".intercalate (check :: checks)).toList =
      [','].intercalate ((check :: checks).map String.toList) :=
  String.toList_intercalate

theorem checksOf_intercalate {check : String} {checks : List String}
    (hne : ∀ other ∈ check :: checks, other ≠ "")
    (hcomma : ∀ other ∈ check :: checks, ',' ∉ other.toList) :
    checksOf (",".intercalate (check :: checks)).toList = check :: checks := by
  have hparts : (",".intercalate (check :: checks)).toList.splitOn ',' =
      (check :: checks).map String.toList := by
    rw [toList_intercalate_comma]
    apply List.splitOn_intercalate
    · intro part hpart
      obtain ⟨other, hother, rfl⟩ := List.mem_map.mp hpart
      exact hcomma other hother
    · exact List.cons_ne_nil _ _
  have hkept : ((check :: checks).map String.toList).filter (· ≠ []) =
      (check :: checks).map String.toList := by
    rw [List.filter_eq_self]
    intro part hpart
    obtain ⟨other, hother, rfl⟩ := List.mem_map.mp hpart
    simpa using hne other hother
  rw [checksOf, hparts, hkept, List.map_map]
  simp

theorem isListChar_of_mem_intercalate {check : String} {checks : List String}
    (hchars : ∀ other ∈ check :: checks, ∀ c ∈ other.toList, IsCheckChar c) :
    ∀ c ∈ (",".intercalate (check :: checks)).toList, isListChar c = true := by
  obtain ⟨hfirst, hrest⟩ := List.forall_mem_cons.mp hchars
  intro c hc
  rw [toList_intercalate_comma, List.map_cons, Text.intercalate_cons, List.mem_append,
    List.mem_flatMap] at hc
  rcases hc with hc | ⟨part, hpart, hc⟩
  · exact (hfirst c hc).isListChar
  · obtain ⟨other, hother, rfl⟩ := List.mem_map.mp hpart
    rcases List.mem_cons.mp hc with rfl | hc
    · decide
    · exact (hrest other hother c hc).isListChar

theorem trimEnd_eq_self {cs : List Char} (hend : ∀ c ∈ cs.getLast?, Text.isBlank c = false) :
    Text.trimEnd cs = cs :=
  Text.trimEnd_eq_iff.mpr ⟨[], (List.append_nil cs).symm, by simp, hend⟩

theorem toList_printChecks_cons (check : String) (checks : List String) :
    (printChecks (check :: checks)).toList =
      ' ' :: '[' :: ((",".intercalate (check :: checks)).toList ++ [']']) := by
  have hopen : " [".toList = [' ', '['] := rfl
  have hclose : "]".toList = [']'] := rfl
  simp [printChecks, hopen, hclose]

/-- What is printed behind the level does not end with a blank. -/
theorem not_isBlank_getLast?_body {diagnostic : Diagnostic} (hprintable : Printable diagnostic) :
    ∀ c ∈ (diagnostic.message ++ printChecks diagnostic.checks).toList.getLast?,
      Text.isBlank c = false := by
  cases hchecks : diagnostic.checks with
  | nil => simpa [printChecks] using hprintable.message_end hchecks
  | cons check checks =>
      intro c hc
      rw [String.toList_append, toList_printChecks_cons, ← List.cons_append, ← List.cons_append,
        ← List.append_assoc, List.getLast?_concat, Option.mem_some_iff] at hc
      subst hc
      decide

/-- A printed message and its checks read back. -/
theorem bodyForm_print {diagnostic : Diagnostic} (hprintable : Printable diagnostic) :
    BodyForm (diagnostic.message ++ printChecks diagnostic.checks).toList
      diagnostic.message.toList diagnostic.checks := by
  have htrim := trimEnd_eq_self (not_isBlank_getLast?_body hprintable)
  cases hchecks : diagnostic.checks with
  | nil =>
      have hbody : (diagnostic.message ++ printChecks []).toList = diagnostic.message.toList := by
        simp [printChecks]
      rw [hchecks, hbody] at htrim
      have hform : BodyForm diagnostic.message.toList
          (Text.trimEnd diagnostic.message.toList) [] :=
        BodyForm.plain (htrim.symm ▸ hprintable.message_list hchecks)
      rw [htrim] at hform
      rwa [hbody]
  | cons check checks =>
      have hne := hchecks ▸ hprintable.check_ne
      have hchars := hchecks ▸ hprintable.check_chars
      have hcomma : ∀ other ∈ check :: checks, ',' ∉ other.toList :=
        fun other hother hc => (hchars other hother ',' hc).ne_comma rfl
      have hread := checksOf_intercalate hne hcomma
      have hlist : EndsInList
          (Text.trimEnd (diagnostic.message ++ printChecks (check :: checks)).toList)
          diagnostic.message.toList (",".intercalate (check :: checks)).toList := by
        rw [← hchecks, htrim, hchecks, String.toList_append, toList_printChecks_cons]
        refine ⟨rfl, ?_, isListChar_of_mem_intercalate hchars⟩
        intro hnil
        rw [hnil] at hread
        contradiction
      have hform := BodyForm.listed hlist
      rwa [hread] at hform

/-- The parts of a printed line behind the file. -/
def siteOf (diagnostic : Diagnostic) : Site where
  line := (toString diagnostic.line).toList
  column := (toString diagnostic.column).toList
  severity := diagnostic.severity
  body := (diagnostic.message ++ printChecks diagnostic.checks).toList

theorem toList_print (diagnostic : Diagnostic) :
    (print diagnostic).toList = diagnostic.file.toList ++
      ':' :: ((siteOf diagnostic).line ++ ':' :: ((siteOf diagnostic).column ++
        ':' :: ' ' :: (diagnostic.severity.name.toList ++
          ':' :: ' ' :: (siteOf diagnostic).body))) := by
  have hcolon : ":".toList = [':'] := rfl
  have hgap : ": ".toList = [':', ' '] := rfl
  simp [print, siteOf, hcolon, hgap]

theorem isDigitRun_toString (n : Nat) : IsDigitRun (toString n).toList := by
  obtain ⟨hne, hdigits, -⟩ := Text.writes_toString n
  exact ⟨hne, fun c hc => Text.isDecimalDigit_of_isDigit (hdigits c hc)⟩

theorem name_mem_levels (severity : Severity) : (severity.name, severity) ∈ levels := by
  cases severity <;> decide

/-- A printed line is cut behind its file. -/
theorem shortestCut_print {diagnostic : Diagnostic} (hprintable : Printable diagnostic) :
    ShortestCut (print diagnostic).toList diagnostic.file.toList (siteOf diagnostic) := by
  have hline : IsDigitRun (siteOf diagnostic).line := isDigitRun_toString diagnostic.line
  have hcolumn : IsDigitRun (siteOf diagnostic).column := isDigitRun_toString diagnostic.column
  refine ⟨⟨?_, _, toList_print diagnostic, ?_⟩, ?_⟩
  · intro hnil
    exact hprintable.file_ne (String.toList_eq_nil_iff.mp hnil)
  · exact SiteForm.intro hline hcolumn (name_mem_levels diagnostic.severity)
  · rintro front site ⟨hfront, rest, hcs, hform⟩
    apply Nat.le_of_not_lt
    intro hshort
    rw [toList_print] at hcs
    rcases List.append_eq_append_iff.mp hcs with ⟨more, hmore, -⟩ | ⟨more, hfile, rfl⟩
    · rw [hmore, List.length_append] at hshort
      omega
    · have hmore : more ≠ [] := by
        rintro rfl
        rw [hfile, List.append_nil] at hshort
        exact Nat.lt_irrefl _ hshort
      obtain ⟨site', hform'⟩ := hform.of_append hmore hline hcolumn
      exact hprintable.file_uncut front site' ⟨hfront, more, hfile, hform'⟩

/-- A printed line reads as its diagnostic. -/
theorem diagnostic?_print {diagnostic : Diagnostic} (hprintable : Printable diagnostic) :
    diagnostic? (print diagnostic).toList = some diagnostic := by
  rw [diagnostic?_eq_some_iff]
  exact ⟨siteOf diagnostic, shortestCut_print hprintable, Text.writes_toString diagnostic.line,
    hprintable.line_le, Text.writes_toString diagnostic.column, hprintable.column_le, rfl,
    bodyForm_print hprintable⟩

theorem IsDigitRun.newline_not_mem {run : List Char} (hrun : IsDigitRun run) : '\n' ∉ run := by
  intro hmem
  have hdigit := hrun.2 '\n' hmem
  revert hdigit
  decide

theorem newline_not_mem_printChecks {checks : List String}
    (hchars : ∀ check ∈ checks, ∀ c ∈ check.toList, IsCheckChar c) :
    '\n' ∉ (printChecks checks).toList := by
  cases checks with
  | nil => simp [printChecks]
  | cons check checks =>
      have hjoined : '\n' ∉ (",".intercalate (check :: checks)).toList := by
        intro hmem
        have hlist := isListChar_of_mem_intercalate hchars '\n' hmem
        revert hlist
        decide
      rw [toList_printChecks_cons, List.mem_cons, List.mem_cons, List.mem_append]
      simpa only [List.mem_singleton, not_or] using ⟨by decide, by decide, hjoined, by decide⟩

/-- What is printed is a single line. -/
theorem isLine_print {diagnostic : Diagnostic} (hprintable : Printable diagnostic) :
    Text.IsLine (print diagnostic).toList := by
  have hline : '\n' ∉ (siteOf diagnostic).line :=
    (isDigitRun_toString diagnostic.line).newline_not_mem
  have hcolumn : '\n' ∉ (siteOf diagnostic).column :=
    (isDigitRun_toString diagnostic.column).newline_not_mem
  have hlevel : '\n' ∉ diagnostic.severity.name.toList := by
    cases diagnostic.severity <;> decide
  have hbody : '\n' ∉ (siteOf diagnostic).body := by
    simp [siteOf, hprintable.message_line, newline_not_mem_printChecks hprintable.check_chars]
  rw [toList_print]
  refine ⟨by simp, by simp [hprintable.file_line, hline, hcolumn, hlevel, hbody], ?_⟩
  have hlast : ∀ c ∈ (siteOf diagnostic).body.getLast?, Text.isBlank c = false :=
    not_isBlank_getLast?_body hprintable
  simp only [List.getLast?_append, List.getLast?_cons, Option.some_or, Option.getD_some, ne_eq,
    Option.some.injEq]
  cases hget : (siteOf diagnostic).body.getLast? with
  | none => decide
  | some c =>
      rintro rfl
      have hblank := hlast '\r' hget
      revert hblank
      decide

theorem filterMap_diagnostic?_print {diagnostics : List Diagnostic}
    (hprintable : ∀ diagnostic ∈ diagnostics, Printable diagnostic) :
    ((diagnostics.map print).map String.toList).filterMap diagnostic? = diagnostics := by
  induction diagnostics with
  | nil => rfl
  | cons diagnostic diagnostics ih =>
      obtain ⟨hfirst, hrest⟩ := List.forall_mem_cons.mp hprintable
      rw [List.map_cons, List.map_cons, List.filterMap_cons_some (diagnostic?_print hfirst),
        ih hrest]

/-- What is printed reads back, whether or not a line feed ends the last line. -/
theorem read_print {diagnostics : List Diagnostic}
    (hprintable : ∀ diagnostic ∈ diagnostics, Printable diagnostic) :
    read (Text.unlines (diagnostics.map print)) = diagnostics ∧
      read ("\n".intercalate (diagnostics.map print)) = diagnostics := by
  have hlines : ∀ l ∈ diagnostics.map print, Text.IsLine l.toList := by
    intro l hl
    obtain ⟨diagnostic, hdiagnostic, rfl⟩ := List.mem_map.mp hl
    exact isLine_print (hprintable diagnostic hdiagnostic)
  have hread := filterMap_diagnostic?_print hprintable
  constructor
  · rw [read, Text.lines_unlines hlines, hread]
  · rw [read, Text.lines_intercalate hlines, hread]

namespace PrintWitness

/-- A drive and an unfinished place in the path, and a message that looks like a line itself. -/
def nested : Diagnostic :=
  ⟨"C:\\work\\a:1:2: error.cpp:3", 4294967295, 0, .error,
    "in b.cpp:7:8: warning: inner [misc-x]  ", ["misc-y", "cert-err58-cpp"]⟩

/-- A message that is a bracketed text without a blank before it. -/
def unlisted : Diagnostic :=
  ⟨":1:2: note: größe.cpp", 12, 4, .note, "[misc-x]", []⟩

/-- No message at all. -/
def silent : Diagnostic :=
  ⟨"a.cpp", 0, 0, .warning, "", []⟩

theorem read_print_nested :
    (∀ diagnostic ∈ [nested, unlisted, silent], Printable diagnostic) ∧
      read (Text.unlines ([nested, unlisted, silent].map print)) = [nested, unlisted, silent] ∧
      read ("\n".intercalate ([nested, unlisted, silent].map print)) =
        [nested, unlisted, silent] := by
  have hprintable : ∀ diagnostic ∈ [nested, unlisted, silent], Printable diagnostic := by
    decide +kernel
  exact ⟨hprintable, read_print hprintable⟩

end PrintWitness

end LintCorpus.Console
