import LintCorpus.Text.Basic

/-!
Lines that were put together come apart again: `lines_unlines` for lines that all end with a line
feed, and `lines_intercalate` for lines with line feeds between them.  Of any text a property can be
shown line by line (`induction_on_lines`).  A text has no more lines than characters
(`length_lines_le`).
-/

namespace LintCorpus.Text

/-- The line without the carriage return at its end, if it has one. -/
def dropReturn : List Char → List Char
  | [] => []
  | ['\r'] => []
  | c :: cs => c :: dropReturn cs

theorem dropReturn_cons_cons (c d : Char) (cs : List Char) :
    dropReturn (c :: d :: cs) = c :: dropReturn (d :: cs) := by
  rw [dropReturn]
  simp

theorem dropReturn_eq_self {cs : List Char} (hreturn : cs.getLast? ≠ some '\r') :
    dropReturn cs = cs := by
  induction cs with
  | nil => rfl
  | cons c cs ih =>
      cases cs with
      | nil =>
          rw [dropReturn]
          · rfl
          · rintro rfl
            exact absurd rfl hreturn
      | cons d cs =>
          rw [List.getLast?_cons_cons] at hreturn
          rw [dropReturn_cons_cons, ih hreturn]

/-- Only one carriage return is dropped. -/
theorem eq_dropReturn_or (cs : List Char) :
    cs = dropReturn cs ∨ cs = dropReturn cs ++ ['\r'] := by
  fun_induction dropReturn cs with
  | case1 => exact Or.inl rfl
  | case2 => exact Or.inr rfl
  | case3 c cs _ ih => exact ih.imp (congrArg (c :: ·)) (congrArg (c :: ·))

/-- A character that does not end a line belongs to the first one. -/
theorem lines_cons {c : Char} {cs line : List Char} {more : List (List Char)} (hc : c ≠ '\n')
    (hreturn : c = '\r' → cs.head? ≠ some '\n') (hlines : lines cs = line :: more) :
    lines (c :: cs) = (c :: line) :: more := by
  rw [lines, hlines]
  · exact hc
  · rintro rest rfl rfl
    exact hreturn rfl rfl

/-- The first line reaches to the first line feed. -/
theorem lines_append_newline {cs : List Char} (hcs : '\n' ∉ cs) (rest : List Char) :
    lines (cs ++ '\n' :: rest) = dropReturn cs :: lines rest := by
  induction cs with
  | nil => rfl
  | cons c cs ih =>
      obtain ⟨hc, hcs⟩ := not_or.mp (mt List.mem_cons.mpr hcs)
      cases cs with
      | nil =>
          by_cases hreturn : c = '\r'
          · subst hreturn
            rfl
          · rw [dropReturn_eq_self (by simpa using hreturn)]
            exact lines_cons (Ne.symm hc) (fun h => absurd h hreturn) rfl
      | cons d cs =>
          rw [dropReturn_cons_cons]
          apply lines_cons (Ne.symm hc) _ (ih hcs)
          intro _ hhead
          rw [List.cons_append, List.head?_cons, Option.some.injEq] at hhead
          exact hcs (hhead ▸ List.mem_cons_self)

/-- A text without line feeds is a single line. -/
theorem lines_eq_singleton {cs : List Char} (hne : cs ≠ []) (hcs : '\n' ∉ cs) :
    lines cs = [cs] := by
  induction cs with
  | nil => exact absurd rfl hne
  | cons c cs ih =>
      obtain ⟨hc, hcs⟩ := not_or.mp (mt List.mem_cons.mpr hcs)
      cases cs with
      | nil =>
          rw [lines]
          · rfl
          · exact Ne.symm hc
          · simp
      | cons d cs =>
          apply lines_cons (Ne.symm hc) _ (ih (List.cons_ne_nil d cs) hcs)
          intro _ hhead
          rw [List.head?_cons, Option.some.injEq] at hhead
          exact hcs (hhead ▸ List.mem_cons_self)

/-- Every text is made of lines that end with a line feed and of what follows the last of them. -/
@[elab_as_elim]
theorem induction_on_lines {motive : List Char → Prop} (cs : List Char)
    (last : ∀ last, '\n' ∉ last → motive last)
    (line : ∀ first rest, '\n' ∉ first → motive rest → motive (first ++ '\n' :: rest)) :
    motive cs := by
  -- `front` is what has been read of the first line.
  have hall : ∀ cs front : List Char, '\n' ∉ front → motive (front ++ cs) := by
    intro cs
    induction cs with
    | nil =>
        intro front hfront
        rw [List.append_nil]
        exact last front hfront
    | cons c cs ih =>
        intro front hfront
        by_cases hc : c = '\n'
        · subst hc
          exact line front cs hfront (ih [] List.not_mem_nil)
        · rw [List.append_cons]
          apply ih
          simp [hfront, Ne.symm hc]
  exact hall cs [] List.not_mem_nil

/-- A text that can stand on a line and is read back from it. -/
structure IsLine (cs : List Char) : Prop where
  ne_nil : cs ≠ []
  no_newline : '\n' ∉ cs
  no_return : cs.getLast? ≠ some '\r'

theorem IsLine.lines_append {cs : List Char} (hline : IsLine cs) (rest : List Char) :
    lines (cs ++ '\n' :: rest) = cs :: lines rest := by
  rw [lines_append_newline hline.no_newline, dropReturn_eq_self hline.no_return]

theorem toList_newline : "\n".toList = ['\n'] := rfl

theorem lines_unlines {ls : List String} (hlines : ∀ l ∈ ls, IsLine l.toList) :
    lines (unlines ls).toList = ls.map String.toList := by
  induction ls with
  | nil => rfl
  | cons l ls ih =>
      obtain ⟨hline, hlines⟩ := List.forall_mem_cons.mp hlines
      have hcons : (unlines (l :: ls)).toList = l.toList ++ '\n' :: (unlines ls).toList := by
        simp [unlines, toList_newline]
      rw [hcons, hline.lines_append, ih hlines, List.map_cons]

theorem lines_intercalate {ls : List String} (hlines : ∀ l ∈ ls, IsLine l.toList) :
    lines ("\n".intercalate ls).toList = ls.map String.toList := by
  induction ls with
  | nil => rfl
  | cons l ls ih =>
      obtain ⟨hline, hlines⟩ := List.forall_mem_cons.mp hlines
      cases ls with
      | nil => exact lines_eq_singleton hline.ne_nil hline.no_newline
      | cons next ls =>
          have hcons : ("\n".intercalate (l :: next :: ls)).toList =
              l.toList ++ '\n' :: ("\n".intercalate (next :: ls)).toList := by
            simp [String.intercalate_cons_cons, toList_newline]
          rw [hcons, hline.lines_append, ih hlines]
          rfl

/-- Every line takes up a character at least, its terminator if nothing else. -/
theorem length_lines_le (cs : List Char) : (lines cs).length ≤ cs.length := by
  fun_induction lines cs with
  | case1 => exact Nat.le_refl 0
  | case2 rest ih => exact Nat.succ_le_succ ih
  | case3 rest ih => exact Nat.succ_le_succ (Nat.le_succ_of_le ih)
  | case4 c rest _ _ hlines ih => exact Nat.succ_le_succ (Nat.zero_le _)
  | case5 c rest _ _ line more hlines ih =>
      rw [hlines] at ih
      exact Nat.le_succ_of_le ih

/-- The lines before a line take up a character each, and the line its own. -/
theorem add_length_le_of_getElem?_lines {cs line : List Char} {i : Nat}
    (hline : (lines cs)[i]? = some line) : i + line.length ≤ cs.length := by
  fun_induction lines cs generalizing i line with
  | case1 => contradiction
  | case2 rest ih =>
      cases i with
      | zero =>
          obtain rfl := Option.some.inj hline
          exact Nat.zero_le _
      | succ i =>
          have hle := ih hline
          rw [List.length_cons]
          omega
  | case3 rest ih =>
      cases i with
      | zero =>
          obtain rfl := Option.some.inj hline
          exact Nat.zero_le _
      | succ i =>
          have hle := ih hline
          rw [List.length_cons, List.length_cons]
          omega
  | case4 c rest _ _ hlines ih =>
      obtain ⟨rfl, rfl⟩ : i = 0 ∧ [c] = line := by simpa [List.getElem?_singleton] using hline
      exact Nat.succ_le_succ (Nat.zero_le _)
  | case5 c rest _ _ first more hlines ih =>
      rw [hlines] at ih
      cases i with
      | zero =>
          obtain rfl := Option.some.inj hline
          have hle := @ih first 0 rfl
          rw [List.length_cons, List.length_cons]
          omega
      | succ i =>
          have hle := @ih line (i + 1) hline
          rw [List.length_cons]
          omega

end LintCorpus.Text
