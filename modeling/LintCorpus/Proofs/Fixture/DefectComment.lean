import LintCorpus.Fixture.DefectComment
import LintCorpus.Proofs.Text.Blank
import LintCorpus.Text.Basic

/-!
Defect comments by line.  A line carries one when what follows its first two slashes holds a marker
(`Fixture.mem_defectComments_iff`).  They are listed in the order of their lines, at most one for
each, so a search by line finds the comment of that line if there is one
(`Fixture.find?_defectComments_eq_some_iff`).
-/

namespace LintCorpus

/-- Where a key tells the entries apart, a search by key finds the entry that has it. -/
theorem find?_eq_some_iff_of_key {α κ : Type} [DecidableEq κ] {key : α → κ} {entries : List α}
    (hkey : ∀ first ∈ entries, ∀ second ∈ entries, key first = key second → first = second)
    {value : κ} {entry : α} :
    entries.find? (key · = value) = some entry ↔ entry ∈ entries ∧ key entry = value := by
  constructor
  · intro hfind
    exact ⟨List.mem_of_find?_eq_some hfind, by simpa using List.find?_some hfind⟩
  · rintro ⟨hmem, rfl⟩
    cases hfind : entries.find? (key · = key entry) with
    | none => simpa using List.find?_eq_none.mp hfind entry hmem
    | some found =>
        have hsame : key found = key entry := by simpa using List.find?_some hfind
        rw [hkey found (List.mem_of_find?_eq_some hfind) entry hmem hsame]

/-- No marker begins or ends with a blank. -/
theorem not_isBlank_of_mem_defectMarkers : ∀ marker ∈ defectMarkers, marker.toList ≠ [] ∧
    marker.toList.head?.all (!Text.isBlank ·) = true ∧
    marker.toList.getLast?.all (!Text.isBlank ·) = true := by
  decide

theorem namesDefect_trim_iff {comment : List Char} : namesDefect (Text.trim comment) = true ↔
    ∃ marker ∈ defectMarkers, marker.toList <:+: Text.lowercase comment := by
  simp only [namesDefect, List.any_eq_true, Text.occursIn_iff]
  refine exists_congr fun marker => and_congr_right fun hmarker => ?_
  obtain ⟨hne, hhead, hlast⟩ := not_isBlank_of_mem_defectMarkers marker hmarker
  obtain ⟨before, after, hcomment, hbefore, hafter⟩ := Text.exists_eq_append_trim comment
  have hlower : Text.lowercase comment =
      before ++ (Text.lowercase (Text.trim comment) ++ after) := by
    refine (congrArg Text.lowercase hcomment).trans ?_
    rw [Text.lowercase_append, Text.lowercase_append, Text.lowercase_eq_self hbefore,
      Text.lowercase_eq_self hafter]
  rw [hlower, Text.infix_blanks_append_iff hne _ hbefore, Text.infix_append_blanks_iff hne _ hafter]
  · simpa [Option.all_eq_true] using hlast
  · simpa [Option.all_eq_true] using hhead

namespace DefectComment

/-- A line carries a defect comment when a marker stands behind its first two slashes. -/
theorem onLine?_eq_some_iff {above below : List (List Char)} {text : List Char}
    {comment : DefectComment} : onLine? above text below = some comment ↔
      ∃ code rest, Text.IsFirstCut ['/', '/'] text code rest ∧
        (∃ marker ∈ defectMarkers, marker.toList <:+: Text.lowercase rest) ∧
        comment = ⟨above.length + 1, Text.trim rest,
          if Text.allBlank code then Scope.ofStandalone above below
          else Scope.beside (above.length + 1)⟩ := by
  unfold onLine?
  cases hcut : Text.cutAt ['/', '/'] text with
  | none => simp [← Text.cutAt_eq_some_iff, hcut]
  | some parts =>
      simp only [← Text.cutAt_eq_some_iff, hcut, Option.some.injEq, ← namesDefect_trim_iff,
        Option.ite_none_right_eq_some]
      constructor
      · rintro ⟨hnames, rfl⟩
        exact ⟨_, _, rfl, hnames, rfl⟩
      · rintro ⟨_, _, rfl, hnames, rfl⟩
        exact ⟨hnames, rfl⟩

theorem mem_collect_iff {above below : List (List Char)} {comment : DefectComment} :
    comment ∈ collect above below ↔ ∃ front text back, below = front ++ text :: back ∧
      onLine? (front.reverse ++ above) text back = some comment := by
  induction below generalizing above with
  | nil => simp [collect]
  | cons text below ih =>
      rw [collect, List.mem_append, Option.mem_toList, ih]
      constructor
      · rintro (hhere | ⟨front, next, back, rfl, hbelow⟩)
        · exact ⟨[], text, below, rfl, hhere⟩
        · exact ⟨text :: front, next, back, rfl, by simpa using hbelow⟩
      · rintro ⟨_ | ⟨first, front⟩, next, back, hlines, hcomment⟩
        · obtain ⟨rfl, rfl⟩ := List.cons.inj hlines
          exact Or.inl hcomment
        · obtain ⟨rfl, hrest⟩ := List.cons.inj hlines
          exact Or.inr ⟨front, next, back, hrest, by simpa using hcomment⟩

theorem line_of_onLine? {above below : List (List Char)} {text : List Char}
    {comment : DefectComment} (hcomment : onLine? above text below = some comment) :
    comment.line = above.length + 1 := by
  obtain ⟨code, rest, -, -, rfl⟩ := onLine?_eq_some_iff.mp hcomment
  rfl

/-- The comments of the lines below stand below. -/
theorem length_lt_line_of_mem_collect {above below : List (List Char)} {comment : DefectComment}
    (hmem : comment ∈ collect above below) : above.length < comment.line := by
  obtain ⟨front, text, back, -, hcomment⟩ := mem_collect_iff.mp hmem
  rw [line_of_onLine? hcomment, List.length_append]
  omega

theorem pairwise_line_collect (above below : List (List Char)) :
    (collect above below).Pairwise fun first second => first.line < second.line := by
  induction below generalizing above with
  | nil => exact List.Pairwise.nil
  | cons text below ih =>
      rw [collect, List.pairwise_append]
      refine ⟨?_, ih (text :: above), ?_⟩
      · cases onLine? above text below with
        | none => exact List.Pairwise.nil
        | some comment => exact List.pairwise_singleton _ comment
      · intro first hfirst second hsecond
        rw [line_of_onLine? (Option.mem_toList.mp hfirst)]
        exact length_lt_line_of_mem_collect hsecond

end DefectComment

namespace Fixture

variable {fixture : Fixture}

theorem mem_defectComments_iff {comment : DefectComment} :
    comment ∈ fixture.defectComments ↔ ∃ front text back,
      fixture.lines = front ++ text :: back ∧
        DefectComment.onLine? front.reverse text back = some comment := by
  rw [defectComments, DefectComment.mem_collect_iff]
  simp only [List.append_nil]

/-- A line carries at most one defect comment. -/
theorem eq_of_line_eq {first second : DefectComment} (hfirst : first ∈ fixture.defectComments)
    (hsecond : second ∈ fixture.defectComments) (hline : first.line = second.line) :
    first = second := by
  have hordered :=
    List.pairwise_iff_getElem.mp (DefectComment.pairwise_line_collect [] fixture.lines)
  obtain ⟨i, hi, rfl⟩ := List.mem_iff_getElem.mp hfirst
  obtain ⟨j, hj, rfl⟩ := List.mem_iff_getElem.mp hsecond
  rcases Nat.lt_trichotomy i j with hlt | rfl | hlt
  · exact absurd hline (Nat.ne_of_lt (hordered i j hi hj hlt))
  · rfl
  · exact absurd hline (Nat.ne_of_gt (hordered j i hj hi hlt))

theorem find?_defectComments_eq_some_iff {line : Nat} {comment : DefectComment} :
    fixture.defectComments.find? (·.line = line) = some comment ↔
      comment ∈ fixture.defectComments ∧ comment.line = line :=
  find?_eq_some_iff_of_key fun _ hfirst _ hsecond => eq_of_line_eq hfirst hsecond

theorem find?_defectComments_eq_none_iff {line : Nat} :
    fixture.defectComments.find? (·.line = line) = none ↔
      ∀ comment ∈ fixture.defectComments, comment.line ≠ line := by
  simp [List.find?_eq_none]

end Fixture

end LintCorpus
