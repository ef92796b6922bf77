import Mathlib.Data.List.Basic
import LintCorpus.Proofs.Console.Line

/-!
Console output is read line by line, whatever ends the lines (`read_linewise`).

A carriage return that is left at the end of a line never matters: the place and the level are read
in front of it, as the text before a body ends with a blank, and the body is stripped of it
(`diagnostic?_append_return`).
-/

namespace LintCorpus.Console

/-- The site with a carriage return behind its body. -/
def Site.withReturn (site : Site) : Site :=
  { site with body := site.body ++ ['\r'] }

/-- A site that ends with a carriage return has it in its body. -/
theorem siteForm_append_return_iff {cs : List Char} {site : Site} :
    SiteForm (cs ++ ['\r']) site ↔ ∃ shorter, SiteForm cs shorter ∧ shorter.withReturn = site := by
  constructor
  · intro hsite
    generalize hcs : cs ++ ['\r'] = text at hsite
    obtain @⟨line, column, body, level, severity, hline, hcolumn, hlevel⟩ := hsite
    -- The blank before the body is not the last character.
    rcases List.eq_nil_or_concat' body with rfl | ⟨front, last, rfl⟩
    · have hblank : cs ++ ['\r'] = (':' :: (line ++ ':' :: (column ++ ':' :: ' ' ::
          (level.toList ++ [':'])))) ++ [' '] := by
        simpa using hcs
      have hlast := (List.append_inj' hblank rfl).2
      contradiction
    · have hbody : cs ++ ['\r'] = (':' :: (line ++ ':' :: (column ++ ':' :: ' ' ::
          (level.toList ++ ':' :: ' ' :: front)))) ++ [last] := by
        simpa using hcs
      obtain ⟨rfl, hlast⟩ := List.append_inj' hbody rfl
      obtain rfl := List.singleton_inj.mp hlast
      exact ⟨_, .intro hline hcolumn hlevel, rfl⟩
  · rintro ⟨_, ⟨hline, hcolumn, hlevel⟩, rfl⟩
    simpa [Site.withReturn] using SiteForm.intro hline hcolumn hlevel

theorem site?_append_return (cs : List Char) :
    site? (cs ++ ['\r']) = (site? cs).map Site.withReturn := by
  ext site
  rw [site?_eq_some_iff, siteForm_append_return_iff, Option.map_eq_some_iff]
  simp only [site?_eq_some_iff]

theorem split?_append_return (cs : List Char) :
    split? (cs ++ ['\r']) = (split? cs).map fun cut => (cut.1, cut.2.withReturn) := by
  induction cs with
  | nil => rfl
  | cons c cs ih =>
      rw [List.cons_append, split?, split?, site?_append_return, ih]
      cases site? cs <;> simp [Function.comp_def]

theorem trimEnd_append_return (cs : List Char) :
    Text.trimEnd (cs ++ ['\r']) = Text.trimEnd cs := by
  rw [Text.trimEnd, List.reverse_append, List.reverse_singleton, List.singleton_append,
    List.dropWhile_cons_of_pos (by decide), Text.trimEnd]

theorem messageAndChecks_append_return (body : List Char) :
    messageAndChecks (body ++ ['\r']) = messageAndChecks body := by
  rw [messageAndChecks, trimEnd_append_return, messageAndChecks]

/-- A line reads the same with a carriage return behind it. -/
theorem diagnostic?_append_return (cs : List Char) :
    diagnostic? (cs ++ ['\r']) = diagnostic? cs := by
  rw [diagnostic?, diagnostic?, split?_append_return]
  cases split? cs with
  | none => rfl
  | some cut => simp [Site.withReturn, messageAndChecks_append_return]

theorem diagnostic?_dropReturn (cs : List Char) :
    diagnostic? (Text.dropReturn cs) = diagnostic? cs := by
  rcases Text.eq_dropReturn_or cs with hsame | hreturn
  · rw [← hsame]
  · rw [hreturn, diagnostic?_append_return, ← hreturn]

/-- The diagnostics on the lines of a text. -/
def diagnosticsOn (cs : List Char) : List Diagnostic :=
  (Text.lines cs).filterMap diagnostic?

theorem read_eq (output : String) : read output = diagnosticsOn output.toList := rfl

theorem diagnosticsOn_of_no_newline {cs : List Char} (hcs : '\n' ∉ cs) :
    diagnosticsOn cs = (diagnostic? cs).toList := by
  have hline : '\n' ∉ (String.ofList cs).toList := by rwa [String.toList_ofList]
  have hread := read_of_no_newline hline
  rwa [read_eq, String.toList_ofList] at hread

theorem diagnosticsOn_line {first : List Char} (hfirst : '\n' ∉ first) (rest : List Char) :
    diagnosticsOn (first ++ '\n' :: rest) = (diagnostic? first).toList ++ diagnosticsOn rest := by
  rw [diagnosticsOn, Text.lines_append_newline hfirst, ← diagnostic?_dropReturn first]
  cases hread : diagnostic? (Text.dropReturn first) <;> simp [hread, diagnosticsOn]

theorem diagnosticsOn_append_newline (cs rest : List Char) :
    diagnosticsOn (cs ++ '\n' :: rest) = diagnosticsOn cs ++ diagnosticsOn rest := by
  induction cs using Text.induction_on_lines with
  | last last hlast => rw [diagnosticsOn_line hlast, diagnosticsOn_of_no_newline hlast]
  | line first more hfirst ih =>
      rw [List.append_assoc, List.cons_append, diagnosticsOn_line hfirst, ih,
        diagnosticsOn_line hfirst, List.append_assoc]

theorem diagnosticsOn_append_return (cs : List Char) :
    diagnosticsOn (cs ++ ['\r']) = diagnosticsOn cs := by
  induction cs using Text.induction_on_lines with
  | last last hlast =>
      have hreturn : '\n' ∉ last ++ ['\r'] := by simpa using hlast
      rw [diagnosticsOn_of_no_newline hreturn, diagnostic?_append_return,
        diagnosticsOn_of_no_newline hlast]
  | line first more hfirst ih =>
      rw [List.append_assoc, List.cons_append, diagnosticsOn_line hfirst, ih,
        diagnosticsOn_line hfirst]

/-- What ends a line. -/
inductive LineEnd where
  | feed
  | returnFeed
deriving DecidableEq, Repr

def LineEnd.text : LineEnd → String
  | feed => "\n"
  | returnFeed => "\r\n"

/-- The lines, each with its end behind it, and a text behind them all. -/
def terminated (ls : List (String × LineEnd)) (last : String) : String :=
  ls.foldr (fun line rest => line.1 ++ line.2.text ++ rest) last

/-- A line feed with a carriage return before it, and every other character by itself. -/
def returned (c : Char) : List Char :=
  if c = '\n' then ['\r', '\n'] else [c]

/-- The text with a carriage return before every line feed. -/
def withReturns (text : String) : String :=
  String.ofList (text.toList.flatMap returned)

theorem flatMap_returned {cs : List Char} (hcs : '\n' ∉ cs) : cs.flatMap returned = cs := by
  have hsame : ∀ c ∈ cs, returned c = [c] := by
    intro c hc
    apply if_neg
    rintro rfl
    exact hcs hc
  rw [List.flatMap_congr hsame, List.flatMap_singleton']

theorem read_append_newline (first rest : String) :
    read (first ++ "\n" ++ rest) = read first ++ read rest := by
  rw [read_eq, read_eq, read_eq, ← diagnosticsOn_append_newline]
  simp [Text.toList_newline]

/-- What stands before the end of a line and what stands behind it are read apart. -/
theorem read_append_lineEnd (first rest : String) (lineEnd : LineEnd) :
    read (first ++ lineEnd.text ++ rest) = read first ++ read rest := by
  cases lineEnd with
  | feed => exact read_append_newline first rest
  | returnFeed =>
      have hreturn : read (first ++ "\r") = read first := by
        rw [read_eq, read_eq, ← diagnosticsOn_append_return first.toList]
        simp
      have hsplit : first ++ LineEnd.returnFeed.text ++ rest = first ++ "\r" ++ "\n" ++ rest := by
        simp [LineEnd.text, String.append_assoc]
      rw [hsplit, read_append_newline, hreturn]

theorem diagnosticsOn_flatMap_returned (cs : List Char) :
    diagnosticsOn (cs.flatMap returned) = diagnosticsOn cs := by
  induction cs using Text.induction_on_lines with
  | last last hlast => rw [flatMap_returned hlast]
  | line first rest hfirst ih =>
      have hreturned : (first ++ '\n' :: rest).flatMap returned =
          (first ++ ['\r']) ++ '\n' :: rest.flatMap returned := by
        rw [List.flatMap_append, flatMap_returned hfirst, List.flatMap_cons, List.append_assoc]
        rfl
      rw [hreturned, diagnosticsOn_append_newline, diagnosticsOn_append_return, ih,
        diagnosticsOn_append_newline]

/-- The output is read line by line: what is read of lines put together, with any line ends between
them, is what is read of each.  So a line feed cuts an output in two, and carriage returns before
the line feeds change nothing. -/
theorem read_linewise :
    (∀ ls last, read (terminated ls last) = (ls.flatMap fun line => read line.1) ++ read last) ∧
      (∀ ls, read (terminated ls "") = ls.flatMap fun line => read line.1) ∧
      (∀ first rest, read (first ++ "\n" ++ rest) = read first ++ read rest) ∧
      ∀ text, read (withReturns text) = read text := by
  have hlines : ∀ ls last,
      read (terminated ls last) = (ls.flatMap fun line => read line.1) ++ read last := by
    intro ls last
    induction ls with
    | nil => rfl
    | cons line ls ih =>
        rw [List.flatMap_cons, List.append_assoc, ← ih]
        exact read_append_lineEnd line.1 (terminated ls last) line.2
  refine ⟨hlines, fun ls => ?_, read_append_newline, fun text => ?_⟩
  · rw [hlines, show read "" = [] from rfl, List.append_nil]
  · rw [read_eq, withReturns, String.toList_ofList, diagnosticsOn_flatMap_returned]
    rfl

/-- Of two carriage returns before a line feed one belongs to the line, like the one at the end. -/
example : read "a.cpp:1:2: error: x [y]\r\r\n\nb.cpp:3:4: note: z\r" =
    [⟨"a.cpp", 1, 2, .error, "x", ["y"]⟩, ⟨"b.cpp", 3, 4, .note, "z", []⟩] := by
  decide +kernel

end LintCorpus.Console
