import LintCorpus.Diagnostic.Console
import LintCorpus.Proofs.Text.Cut

/-!
The grammar of a console line, said without the reader.  A line is cut into
`file:line:column: level: body` in every possible way, and the cut with the shortest file counts
(`ShortestCut`).  The body is a message with a bracketed list of checks behind it or a message alone
(`BodyForm`).  `diagnostic?_eq_some_iff` says that the reader accepts exactly this.
-/

namespace LintCorpus.Console

/-- A non-empty run of decimal digits. -/
def IsDigitRun (cs : List Char) : Prop :=
  cs ≠ [] ∧ ∀ c ∈ cs, Text.isDecimalDigit c = true

/-- The text that stands behind the file part. -/
inductive SiteForm : List Char → Site → Prop where
  | intro {line column body : List Char} {level : String} {severity : Severity}
      (hline : IsDigitRun line) (hcolumn : IsDigitRun column)
      (hlevel : (level, severity) ∈ levels) :
      SiteForm
        (':' :: (line ++ ':' :: (column ++ ':' :: ' ' :: (level.toList ++ ':' :: ' ' :: body))))
        ⟨line, column, severity, body⟩

/-- `file` is a non-empty beginning of the line, and a site follows it. -/
def CutsAt (cs file : List Char) (site : Site) : Prop :=
  file ≠ [] ∧ ∃ rest, cs = file ++ rest ∧ SiteForm rest site

/-- The cut of the line with the shortest file part. -/
structure ShortestCut (cs file : List Char) (site : Site) : Prop where
  cuts : CutsAt cs file site
  shortest : ∀ file' site', CutsAt cs file' site' → file.length ≤ file'.length

/-- A text that ends with a blank and a bracketed list of checks. -/
def EndsInList (cs message list : List Char) : Prop :=
  cs = message ++ ' ' :: '[' :: (list ++ [']']) ∧ list ≠ [] ∧ ∀ c ∈ list, isListChar c = true

/-- The message of a body and its checks. -/
inductive BodyForm (body : List Char) : List Char → List String → Prop where
  | listed {message list : List Char} (hlist : EndsInList (Text.trimEnd body) message list) :
      BodyForm body message (checksOf list)
  | plain (hnone : ∀ message list, ¬ EndsInList (Text.trimEnd body) message list) :
      BodyForm body (Text.trimEnd body) []

/-- The line reads as the diagnostic, which has the parts of this site. -/
structure ReadsAt (cs : List Char) (site : Site) (diagnostic : Diagnostic) : Prop where
  cut : ShortestCut cs diagnostic.file.toList site
  line : Text.Writes site.line diagnostic.line
  line_le : diagnostic.line ≤ Text.maxPosition
  column : Text.Writes site.column diagnostic.column
  column_le : diagnostic.column ≤ Text.maxPosition
  severity : diagnostic.severity = site.severity
  body : BodyForm site.body diagnostic.message.toList diagnostic.checks

/-- The line reads as the diagnostic. -/
def Reads (cs : List Char) (diagnostic : Diagnostic) : Prop :=
  ∃ site, ReadsAt cs site diagnostic

theorem digits?_eq_some_iff {cs front rest : List Char} :
    digits? cs = some (front, rest) ↔
      cs = front ++ rest ∧ IsDigitRun front ∧ ∀ c ∈ rest.head?, Text.isDecimalDigit c = false := by
  have hcut := @Text.cut_eq_iff Char Text.isDecimalDigit cs front rest
  by_cases hempty : cs.takeWhile Text.isDecimalDigit = []
  · simp only [digits?, hempty, List.isEmpty_nil, ↓reduceIte, reduceCtorEq, false_iff]
    rintro ⟨hcs, ⟨hne, hrun⟩, hrest⟩
    exact hne (hempty ▸ (hcut.mpr ⟨hcs, hrun, hrest⟩).1.symm)
  · have hdigits : digits? cs =
        some (cs.takeWhile Text.isDecimalDigit, cs.dropWhile Text.isDecimalDigit) := by
      simp [digits?, hempty]
    rw [hdigits, Option.some.injEq, Prod.mk.injEq, hcut]
    constructor
    · rintro ⟨hcs, hrun, hrest⟩
      exact ⟨hcs, ⟨(hcut.mpr ⟨hcs, hrun, hrest⟩).1 ▸ hempty, hrun⟩, hrest⟩
    · rintro ⟨hcs, hrun, hrest⟩
      exact ⟨hcs, hrun.2, hrest⟩

theorem level?_eq_some_iff {cs body : List Char} {severity : Severity} :
    level? cs = some (severity, body) ↔
      ∃ level, (level, severity) ∈ levels ∧ cs = level.toList ++ ':' :: ' ' :: body := by
  constructor
  · intro hlevel
    obtain ⟨entry, hentry, hafter⟩ := List.exists_of_findSome?_eq_some hlevel
    obtain ⟨rest, hrest, heq⟩ := Option.map_eq_some_iff.mp hafter
    obtain ⟨rfl, rfl⟩ := Prod.mk.inj heq
    refine ⟨entry.1, hentry, ?_⟩
    rw [← List.isPrefixOf?_eq_some_iff_append_eq.mp hrest, List.append_assoc]
    rfl
  · rintro ⟨level, hlevel, rfl⟩
    simp only [levels, List.mem_cons, Prod.mk.injEq, List.not_mem_nil, or_false] at hlevel
    rcases hlevel with ⟨rfl, rfl⟩ | ⟨rfl, rfl⟩ | ⟨rfl, rfl⟩ | ⟨rfl, rfl⟩ | ⟨rfl, rfl⟩ <;> rfl

theorem not_isDecimalDigit_colon : Text.isDecimalDigit ':' = false := by
  decide

theorem site?_eq_some_iff {cs : List Char} {site : Site} :
    site? cs = some site ↔ SiteForm cs site := by
  constructor
  · intro hsite
    simp only [site?, Option.bind_eq_bind, Option.bind_eq_some_iff, Prod.exists,
      List.isPrefixOf?_eq_some_iff_append_eq, digits?_eq_some_iff, level?_eq_some_iff,
      Option.pure_def, Option.some.injEq] at hsite
    obtain ⟨_, rfl, line, _, ⟨rfl, hline, -⟩, _, rfl, column, _, ⟨rfl, hcolumn, -⟩, _, rfl,
      severity, body, ⟨level, hlevel, rfl⟩, rfl⟩ := hsite
    exact SiteForm.intro hline hcolumn hlevel
  · rintro ⟨hline, hcolumn, hlevel⟩
    have hcolon : ∀ (rest : List Char), ∀ c ∈ (':' :: rest).head?, Text.isDecimalDigit c = false :=
      fun rest c hc => Option.mem_some_iff.mp hc ▸ not_isDecimalDigit_colon
    simp only [site?, Option.bind_eq_bind, Option.bind_eq_some_iff, Prod.exists,
      List.isPrefixOf?_eq_some_iff_append_eq, digits?_eq_some_iff, level?_eq_some_iff,
      Option.pure_def, Option.some.injEq]
    exact ⟨_, rfl, _, _, ⟨rfl, hline, hcolon _⟩, _, rfl, _, _, ⟨rfl, hcolumn, hcolon _⟩, _, rfl,
      _, _, ⟨_, hlevel, rfl⟩, rfl⟩

theorem cutsAt_cons_iff {c : Char} {cs file : List Char} {site : Site} :
    CutsAt (c :: cs) file site ↔
      file = [c] ∧ SiteForm cs site ∨ ∃ front, file = c :: front ∧ CutsAt cs front site := by
  constructor
  · rintro ⟨hne, rest, hcs, hsite⟩
    cases file with
    | nil => exact absurd rfl hne
    | cons d front =>
        obtain ⟨rfl, rfl⟩ := List.cons.inj hcs
        cases front with
        | nil => exact Or.inl ⟨rfl, hsite⟩
        | cons e front => exact Or.inr ⟨e :: front, rfl, by simp, rest, rfl, hsite⟩
  · rintro (⟨rfl, hsite⟩ | ⟨front, rfl, -, rest, rfl, hsite⟩)
    · exact ⟨by simp, cs, rfl, hsite⟩
    · exact ⟨by simp, rest, rfl, hsite⟩

theorem split?_eq_none_iff {cs : List Char} :
    split? cs = none ↔ ∀ file site, ¬ CutsAt cs file site := by
  induction cs with
  | nil =>
      simp only [split?, true_iff]
      rintro file site ⟨hne, rest, hcs, -⟩
      exact hne (List.append_eq_nil_iff.mp hcs.symm).1
  | cons c cs ih =>
      simp only [cutsAt_cons_iff]
      cases hsite : site? cs with
      | some site =>
          simp only [split?, hsite, reduceCtorEq, false_iff]
          exact fun hnone => hnone [c] site (Or.inl ⟨rfl, site?_eq_some_iff.mp hsite⟩)
      | none =>
          simp only [split?, hsite, Option.map_eq_none_iff, ih]
          constructor
          · rintro hnone file site (⟨-, hform⟩ | ⟨front, -, hcuts⟩)
            · simp [site?_eq_some_iff.mpr hform] at hsite
            · exact hnone front site hcuts
          · intro hnone front site hcuts
            exact hnone (c :: front) site (Or.inr ⟨front, rfl, hcuts⟩)

/-- The cut behind the first character is the shortest there can be. -/
theorem shortestCut_cons_iff_of_site {c : Char} {cs file : List Char} {found site : Site}
    (hfound : SiteForm cs found) :
    ShortestCut (c :: cs) file site ↔ file = [c] ∧ SiteForm cs site := by
  constructor
  · rintro ⟨hcuts, hshortest⟩
    have hle := hshortest [c] found (cutsAt_cons_iff.mpr (Or.inl ⟨rfl, hfound⟩))
    rcases cutsAt_cons_iff.mp hcuts with hhead | ⟨front, rfl, hfront⟩
    · exact hhead
    · have hpos := List.length_pos_iff.mpr hfront.1
      simp only [List.length_cons, List.length_nil] at hle
      omega
  · rintro ⟨rfl, hsite⟩
    refine ⟨cutsAt_cons_iff.mpr (Or.inl ⟨rfl, hsite⟩), ?_⟩
    intro file' site' hcuts
    exact List.length_pos_iff.mpr hcuts.1

theorem shortestCut_cons_iff_of_no_site {c : Char} {cs file : List Char} {site : Site}
    (hno : ∀ other, ¬ SiteForm cs other) :
    ShortestCut (c :: cs) file site ↔ ∃ front, ShortestCut cs front site ∧ c :: front = file := by
  have hcons : ∀ file' site', CutsAt (c :: cs) file' site' ↔
      ∃ front, file' = c :: front ∧ CutsAt cs front site' := by
    intro file' site'
    rw [cutsAt_cons_iff, or_iff_right fun hhead => hno site' hhead.2]
  constructor
  · rintro ⟨hcuts, hshortest⟩
    obtain ⟨front, rfl, hfront⟩ := (hcons _ _).mp hcuts
    refine ⟨front, ⟨hfront, ?_⟩, rfl⟩
    intro front' site' hfront'
    exact Nat.le_of_succ_le_succ (hshortest (c :: front') site' ((hcons _ _).mpr ⟨_, rfl, hfront'⟩))
  · rintro ⟨front, ⟨hcuts, hshortest⟩, rfl⟩
    refine ⟨(hcons _ _).mpr ⟨front, rfl, hcuts⟩, ?_⟩
    intro file' site' hcuts'
    obtain ⟨front', rfl, hfront'⟩ := (hcons _ _).mp hcuts'
    exact Nat.succ_le_succ (hshortest front' site' hfront')

theorem split?_eq_some_iff {cs file : List Char} {site : Site} :
    split? cs = some (file, site) ↔ ShortestCut cs file site := by
  induction cs generalizing file with
  | nil =>
      simp only [split?, reduceCtorEq, false_iff]
      rintro ⟨⟨hne, rest, hcs, -⟩, -⟩
      exact hne (List.append_eq_nil_iff.mp hcs.symm).1
  | cons c cs ih =>
      cases hsite : site? cs with
      | some found =>
          rw [shortestCut_cons_iff_of_site (site?_eq_some_iff.mp hsite), ← site?_eq_some_iff, hsite]
          simp only [split?, hsite, Option.some.injEq, Prod.mk.injEq, eq_comm]
      | none =>
          have hno : ∀ other, ¬ SiteForm cs other := by
            intro other hform
            rw [site?_eq_some_iff.mpr hform] at hsite
            contradiction
          rw [shortestCut_cons_iff_of_no_site hno]
          simp only [split?, hsite, Option.map_eq_some_iff, Prod.exists, Prod.mk.injEq]
          constructor
          · rintro ⟨front, _, hsplit, rfl, rfl⟩
            exact ⟨front, ih.mp hsplit, rfl⟩
          · rintro ⟨front, hcut, rfl⟩
            exact ⟨front, site, ih.mpr hcut, rfl, rfl⟩

theorem bracketed?_eq_some_iff {cs message list : List Char} :
    bracketed? cs = some (message, list) ↔ EndsInList cs message list := by
  constructor
  · intro hbracketed
    unfold bracketed? at hbracketed
    split at hbracketed
    · rename_i back hback
      split at hbracketed
      · rename_i front hfront
        obtain ⟨hcs, hlist, -⟩ := Text.cut_eq_iff.mp ⟨rfl, hfront⟩
        simp only [List.isEmpty_iff, Option.ite_none_left_eq_some, Option.some.injEq,
          Prod.mk.injEq] at hbracketed
        generalize back.takeWhile isListChar = run at hcs hlist hbracketed
        obtain ⟨hne, rfl, rfl⟩ := hbracketed
        refine ⟨?_, by simpa using hne, fun c hc => hlist c (List.mem_reverse.mp hc)⟩
        rw [List.reverse_eq_iff.mp hback, hcs]
        simp
      · contradiction
    · contradiction
  · rintro ⟨rfl, hne, hlist⟩
    have hreverse : (message ++ ' ' :: '[' :: (list ++ [']'])).reverse =
        ']' :: (list.reverse ++ '[' :: ' ' :: message.reverse) := by
      simp
    have hbracket : ∀ c ∈ ('[' :: ' ' :: message.reverse).head?, isListChar c = false :=
      fun c hc => Option.mem_some_iff.mp hc ▸ (by decide : isListChar '[' = false)
    have hcut := Text.cut_eq_iff.mpr
      ⟨rfl, fun c hc => hlist c (List.mem_reverse.mp hc), hbracket⟩
    simp only [bracketed?, hreverse, hcut]
    simp [hne]

theorem messageAndChecks_eq_iff {body message : List Char} {checks : List String} :
    messageAndChecks body = (message, checks) ↔ BodyForm body message checks := by
  cases hbracketed : bracketed? (Text.trimEnd body) with
  | some found =>
      rcases found with ⟨message', list'⟩
      simp only [messageAndChecks, hbracketed, Prod.mk.injEq]
      constructor
      · rintro ⟨rfl, rfl⟩
        exact BodyForm.listed (bracketed?_eq_some_iff.mp hbracketed)
      · rintro (hlist | hnone)
        · rw [bracketed?_eq_some_iff.mpr hlist] at hbracketed
          obtain ⟨rfl, rfl⟩ := Prod.mk.inj (Option.some.inj hbracketed)
          exact ⟨rfl, rfl⟩
        · exact absurd (bracketed?_eq_some_iff.mp hbracketed) (hnone message' list')
  | none =>
      simp only [messageAndChecks, hbracketed, Prod.mk.injEq]
      constructor
      · rintro ⟨rfl, rfl⟩
        apply BodyForm.plain
        intro message' list' hlist
        simp [bracketed?_eq_some_iff.mpr hlist] at hbracketed
      · rintro (hlist | hnone)
        · simp [bracketed?_eq_some_iff.mpr hlist] at hbracketed
        · exact ⟨rfl, rfl⟩

/-- The reader accepts the lines of the grammar, with the diagnostics they stand for. -/
theorem diagnostic?_eq_some_iff {cs : List Char} {diagnostic : Diagnostic} :
    diagnostic? cs = some diagnostic ↔ Reads cs diagnostic := by
  constructor
  · intro hread
    simp only [diagnostic?, Option.bind_eq_bind, Option.bind_eq_some_iff, Prod.exists,
      split?_eq_some_iff, Text.boundedNumeral?_eq_some_iff, Option.pure_def,
      Option.some.injEq] at hread
    obtain ⟨file, site, hcut, line, ⟨hline, hlineLe⟩, column, ⟨hcolumn, hcolumnLe⟩, rfl⟩ := hread
    refine ⟨site, ?_, hline, hlineLe, hcolumn, hcolumnLe, rfl, ?_⟩
    · rwa [String.toList_ofList]
    · rw [String.toList_ofList]
      exact messageAndChecks_eq_iff.mp rfl
  · rintro ⟨site, hcut, hline, hlineLe, hcolumn, hcolumnLe, hseverity, hbody⟩
    simp only [diagnostic?, Option.bind_eq_bind, Option.bind_eq_some_iff, Prod.exists,
      split?_eq_some_iff, Text.boundedNumeral?_eq_some_iff, Option.pure_def, Option.some.injEq]
    refine ⟨_, site, hcut, _, ⟨hline, hlineLe⟩, _, ⟨hcolumn, hcolumnLe⟩, ?_⟩
    rw [messageAndChecks_eq_iff.mpr hbody, ← hseverity]
    simp

/-- The diagnostics of an output are those that its lines read as. -/
theorem mem_read_iff {output : String} {diagnostic : Diagnostic} :
    diagnostic ∈ read output ↔ ∃ line ∈ Text.lines output.toList, Reads line diagnostic := by
  simp only [read, List.mem_filterMap, diagnostic?_eq_some_iff]

end LintCorpus.Console
