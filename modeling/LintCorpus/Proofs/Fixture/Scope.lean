import Mathlib.Order.Bounds.Basic
import LintCorpus.Proofs.Fixture.DefectComment
import LintCorpus.Proofs.Text.Bytes
import LintCorpus.Proofs.Text.Lines

/-!
Scopes of defect comments, said by line numbers.  `Fixture.Describes` says which lines a comment
describes by what stands on the lines around it, without the search that finds them: the paragraph
above or below and the end of an item are the greatest or the least number with a property.  Exactly
one scope fits, and it is the one that the comment carries (`Fixture.defectComments_annotate`).

The search walks lists of lines, the ones above nearest first, and `Fixture.line?` counts lines from
one.  The section on searches says what each search finds in terms of those numbers.
-/

namespace LintCorpus

namespace Scope

variable {above rest : List (List Char)} {next : List Char}

theorem opensItem_iff {line : List Char} : opensItem line = true ↔
    ∃ c rest, line = c :: rest ∧ Text.isBlank c = false ∧ ¬ ['/', '/'] <+: c :: rest := by
  cases line with
  | nil => simp [opensItem]
  | cons c rest =>
      rw [opensItem, Bool.and_eq_true, Bool.not_eq_true', Bool.not_eq_true', ← Bool.not_eq_true,
        ← Bool.not_eq_true, List.isPrefixOf_iff_prefix]
      simp

theorem ofStandalone_of_closes (hcloses : ['}'].isPrefixOf (Text.trimStart next) = true) :
    ofStandalone above (next :: rest) = ⟨paragraphStart above, above.length + 1⟩ := by
  rw [ofStandalone, if_pos hcloses]

theorem ofStandalone_of_opens (hcloses : ['}'].isPrefixOf (Text.trimStart next) = false)
    (hopens : opensItem next = true) :
    ofStandalone above (next :: rest) =
      ⟨above.length, ((next :: rest).findIdx? (List.isPrefixOf ['}'])).elim
        (above.length + 1 + (next :: rest).length) (above.length + 1 + · + 1)⟩ := by
  rw [ofStandalone, if_neg (by simp [hcloses]), if_pos hopens]
  cases (next :: rest).findIdx? (List.isPrefixOf ['}']) <;> rfl

theorem ofStandalone_of_neither {below : List (List Char)}
    (hnext : ∀ next ∈ below.head?, ['}'].isPrefixOf (Text.trimStart next) = false ∧
      opensItem next = false) :
    ofStandalone above below =
      ⟨above.length, above.length + 1 + (below.takeWhile fun l => !Text.allBlank l).length⟩ := by
  cases below with
  | nil => rfl
  | cons next rest =>
      obtain ⟨hcloses, hopens⟩ := hnext next rfl
      rw [ofStandalone, if_neg (by simp [hcloses]), if_neg (by simp [hopens])]
      rfl

end Scope

namespace Fixture

/-- The line is there and has a character that is not blank. -/
def HasText (fixture : Fixture) (line : Nat) : Prop :=
  ∃ text, fixture.line? line = some text ∧ ∃ c ∈ text, Text.isBlank c = false

/-- The line starts with a closing brace, behind its indentation. -/
def ClosesBlock (fixture : Fixture) (line : Nat) : Prop :=
  ∃ indent rest, fixture.line? line = some (indent ++ '}' :: rest) ∧
    ∀ c ∈ indent, Text.isBlank c = true

/-- The line starts with a closing brace at the left margin. -/
def ClosesItem (fixture : Fixture) (line : Nat) : Prop :=
  ∃ rest, fixture.line? line = some ('}' :: rest)

/-- The line starts at the left margin, and not with a comment. -/
def OpensItem (fixture : Fixture) (line : Nat) : Prop :=
  ∃ c rest, fixture.line? line = some (c :: rest) ∧ Text.isBlank c = false ∧
    ¬ ['/', '/'] <+: c :: rest

/-- The run of lines with text that ends nearest above `line` starts at `first`, which is the first
line of all when there is no text above. -/
def ParagraphAbove (fixture : Fixture) (line first : Nat) : Prop :=
  (∃ nearest, IsGreatest {m | m < line ∧ fixture.HasText m} nearest ∧
      IsLeast {m | ∀ l, m ≤ l → l ≤ nearest → fixture.HasText l} first) ∨
    (∀ m < line, ¬ fixture.HasText m) ∧ first = 1

/-- The item below `line` ends at `last`, which is the last line of all when nothing closes it. -/
def ItemBelow (fixture : Fixture) (line last : Nat) : Prop :=
  IsLeast {m | line < m ∧ fixture.ClosesItem m} last ∨
    (∀ m, line < m → ¬ fixture.ClosesItem m) ∧ last = fixture.lineCount

/-- The lines below `line` have text up to `last` and no further. -/
def ParagraphBelow (fixture : Fixture) (line last : Nat) : Prop :=
  IsGreatest {m | ∀ l, line < l → l ≤ m → fixture.HasText l} last

/-- The lines that a comment behind `code` describes. -/
structure Describes (fixture : Fixture) (line : Nat) (code : List Char) (scope : Scope) : Prop where
  /-- Behind code: the line and one line on either side. -/
  trailing : (∃ c ∈ code, Text.isBlank c = false) →
    scope.first + 1 = line ∧ scope.last = line + 1
  /-- Above a closing brace: the paragraph above. -/
  closing : (∀ c ∈ code, Text.isBlank c = true) → fixture.ClosesBlock (line + 1) →
    fixture.ParagraphAbove line scope.first ∧ scope.last = line
  /-- Above an item at the left margin: the whole item. -/
  item : (∀ c ∈ code, Text.isBlank c = true) → ¬ fixture.ClosesBlock (line + 1) →
    fixture.OpensItem (line + 1) → scope.first + 1 = line ∧ fixture.ItemBelow line scope.last
  /-- Elsewhere: the paragraph below. -/
  paragraph : (∀ c ∈ code, Text.isBlank c = true) → ¬ fixture.ClosesBlock (line + 1) →
    ¬ fixture.OpensItem (line + 1) →
    scope.first + 1 = line ∧ fixture.ParagraphBelow line scope.last

variable {fixture : Fixture} {line : Nat} {code : List Char}

theorem ParagraphAbove.unique {first first' : Nat} (hfirst : fixture.ParagraphAbove line first)
    (hfirst' : fixture.ParagraphAbove line first') : first = first' := by
  rcases hfirst with ⟨nearest, hnearest, hleast⟩ | ⟨hnone, rfl⟩ <;>
    rcases hfirst' with ⟨nearest', hnearest', hleast'⟩ | ⟨hnone', rfl⟩
  · obtain rfl := hnearest.unique hnearest'
    exact hleast.unique hleast'
  · exact absurd hnearest.1.2 (hnone' nearest hnearest.1.1)
  · exact absurd hnearest'.1.2 (hnone nearest' hnearest'.1.1)
  · rfl

theorem ItemBelow.unique {last last' : Nat} (hlast : fixture.ItemBelow line last)
    (hlast' : fixture.ItemBelow line last') : last = last' := by
  rcases hlast with hleast | ⟨hnone, rfl⟩ <;> rcases hlast' with hleast' | ⟨hnone', rfl⟩
  · exact hleast.unique hleast'
  · exact absurd hleast.1.2 (hnone' last hleast.1.1)
  · exact absurd hleast'.1.2 (hnone last' hleast'.1.1)
  · rfl

/-- At most one scope fits. -/
theorem Describes.unique {scope scope' : Scope} (hscope : fixture.Describes line code scope)
    (hscope' : fixture.Describes line code scope') : scope = scope' := by
  have hends (hfirst : scope.first = scope'.first) (hlast : scope.last = scope'.last) :
      scope = scope' := by
    cases scope
    cases scope'
    exact congrArg₂ Scope.mk hfirst hlast
  by_cases hcode : ∃ c ∈ code, Text.isBlank c = false
  · obtain ⟨hfirst, hlast⟩ := hscope.trailing hcode
    obtain ⟨hfirst', hlast'⟩ := hscope'.trailing hcode
    exact hends (by omega) (by omega)
  · simp only [not_exists, not_and, Bool.not_eq_false] at hcode
    by_cases hblock : fixture.ClosesBlock (line + 1)
    · obtain ⟨hfirst, hlast⟩ := hscope.closing hcode hblock
      obtain ⟨hfirst', hlast'⟩ := hscope'.closing hcode hblock
      exact hends (hfirst.unique hfirst') (hlast.trans hlast'.symm)
    · by_cases hitem : fixture.OpensItem (line + 1)
      · obtain ⟨hfirst, hlast⟩ := hscope.item hcode hblock hitem
        obtain ⟨hfirst', hlast'⟩ := hscope'.item hcode hblock hitem
        exact hends (by omega) (hlast.unique hlast')
      · obtain ⟨hfirst, hlast⟩ := hscope.paragraph hcode hblock hitem
        obtain ⟨hfirst', hlast'⟩ := hscope'.paragraph hcode hblock hitem
        exact hends (by omega) (IsGreatest.unique hlast hlast')

theorem ParagraphAbove.le {first : Nat} (hfirst : fixture.ParagraphAbove line first)
    (hline : 0 < line) : first ≤ line := by
  rcases hfirst with ⟨nearest, ⟨⟨hbefore, htext⟩, -⟩, hleast⟩ | ⟨-, rfl⟩
  · have hle : first ≤ nearest := hleast.2 fun l hlow hhigh => Nat.le_antisymm hlow hhigh ▸ htext
    omega
  · exact hline

theorem ItemBelow.bounds {last : Nat} (hlast : fixture.ItemBelow line last)
    (hline : line ≤ fixture.lineCount) : line ≤ last ∧ last ≤ fixture.lineCount := by
  rcases hlast with ⟨⟨hbehind, rest, hcloses⟩, -⟩ | ⟨-, rfl⟩
  · exact ⟨Nat.le_of_lt hbehind, (bounds_of_line? hcloses).2⟩
  · exact ⟨hline, Nat.le_refl _⟩

theorem ParagraphBelow.bounds {last : Nat} (hlast : fixture.ParagraphBelow line last)
    (hline : line ≤ fixture.lineCount) : line ≤ last ∧ last ≤ fixture.lineCount := by
  have hle : line ≤ last := hlast.2 fun l hlow hhigh => absurd hlow (Nat.not_lt.mpr hhigh)
  refine ⟨hle, ?_⟩
  rcases Nat.eq_or_lt_of_le hle with rfl | hlt
  · exact hline
  · obtain ⟨text, htext, -⟩ := hlast.1 last hlt (Nat.le_refl _)
    exact (bounds_of_line? htext).2

/-- A scope holds the line of its comment, and ends with the source at the latest, unless the
comment stands behind code on the last line. -/
theorem Describes.bounds {scope : Scope} (hscope : fixture.Describes line code scope)
    (hline : 0 < line ∧ line ≤ fixture.lineCount) :
    scope.first ≤ line ∧ line ≤ scope.last ∧
      (scope.last ≤ fixture.lineCount ∨ (∃ c ∈ code, Text.isBlank c = false) ∧
        line = fixture.lineCount ∧ scope.last = fixture.lineCount + 1) := by
  by_cases hcode : ∃ c ∈ code, Text.isBlank c = false
  · obtain ⟨hfirst, hlast⟩ := hscope.trailing hcode
    refine ⟨by omega, by omega, ?_⟩
    rcases Nat.eq_or_lt_of_le hline.2 with heq | hlt
    · exact Or.inr ⟨hcode, heq, by omega⟩
    · exact Or.inl (by omega)
  · simp only [not_exists, not_and, Bool.not_eq_false] at hcode
    by_cases hblock : fixture.ClosesBlock (line + 1)
    · obtain ⟨hfirst, hlast⟩ := hscope.closing hcode hblock
      exact ⟨hfirst.le hline.1, hlast.ge, Or.inl (hlast.trans_le hline.2)⟩
    · by_cases hitem : fixture.OpensItem (line + 1)
      · obtain ⟨hfirst, hlast⟩ := hscope.item hcode hblock hitem
        obtain ⟨hle, hcount⟩ := hlast.bounds hline.2
        exact ⟨by omega, hle, Or.inl hcount⟩
      · obtain ⟨hfirst, hlast⟩ := hscope.paragraph hcode hblock hitem
        obtain ⟨hle, hcount⟩ := hlast.bounds hline.2
        exact ⟨by omega, hle, Or.inl hcount⟩

/-- The line has text when it is not blank. -/
theorem hasText_of_line? {text : List Char} (htext : fixture.line? line = some text) :
    fixture.HasText line ↔ Text.allBlank text = false := by
  simp [HasText, htext, Text.allBlank]

theorem hasText_of_part {before part after : List (List Char)}
    (hlines : fixture.lines = before ++ (part ++ after))
    (hpart : ∀ t ∈ part, Text.allBlank t = false) (hfirst : before.length < line)
    (hlast : line ≤ before.length + part.length) : fixture.HasText line := by
  obtain ⟨t, ht, hline⟩ := exists_line? hlines hfirst hlast
  exact (hasText_of_line? hline).mpr (hpart t ht)

theorem not_hasText_of_part {before part after : List (List Char)}
    (hlines : fixture.lines = before ++ (part ++ after))
    (hpart : ∀ t ∈ part, Text.allBlank t = true) (hfirst : before.length < line)
    (hlast : line ≤ before.length + part.length) : ¬ fixture.HasText line := by
  obtain ⟨t, ht, hline⟩ := exists_line? hlines hfirst hlast
  simp [hasText_of_line? hline, hpart t ht]

theorem not_hasText_zero : ¬ fixture.HasText 0 := by
  rintro ⟨text, hline, -⟩
  contradiction

/-- Where a blank line or nothing stands before a part, its last line has no text. -/
theorem not_hasText_edge {before after : List (List Char)}
    (hlines : fixture.lines = before ++ after)
    (hbefore : ∀ l ∈ before.getLast?, Text.allBlank l = true) :
    ¬ fixture.HasText before.length := by
  rcases List.eq_nil_or_concat before with rfl | ⟨more, last, rfl⟩
  · exact not_hasText_zero
  · have hparts : fixture.lines = more ++ ([last] ++ after) := by simp [hlines]
    have hlast : ∀ t ∈ [last], Text.allBlank t = true := by simpa using hbefore
    exact not_hasText_of_part hparts hlast (by simp) (by simp)

/-- Lines end with a paragraph and blank lines behind it, and the paragraph starts behind a blank
line or at the very beginning. -/
theorem exists_paragraph (front : List (List Char)) : ∃ before paragraph blanks,
    front = before ++ (paragraph ++ blanks) ∧
      Scope.paragraphStart front.reverse = before.length + 1 ∧
      (∀ l ∈ paragraph, Text.allBlank l = false) ∧ (∀ l ∈ blanks, Text.allBlank l = true) ∧
      (∀ l ∈ before.getLast?, Text.allBlank l = true) ∧ (paragraph = [] → before = []) := by
  obtain ⟨hfront, hblanks, hnear⟩ := Text.cut_eq_iff.mp
    (⟨rfl, rfl⟩ : front.reverse.takeWhile Text.allBlank = _ ∧
      front.reverse.dropWhile Text.allBlank = _)
  generalize front.reverse.takeWhile Text.allBlank = blanks at hfront hblanks
  generalize hrest : front.reverse.dropWhile Text.allBlank = rest at hfront hnear
  obtain ⟨hsplit, hparagraph, hfar⟩ := Text.cut_eq_iff.mp
    (⟨rfl, rfl⟩ : rest.takeWhile (fun l => !Text.allBlank l) = _ ∧
      rest.dropWhile (fun l => !Text.allBlank l) = _)
  generalize rest.takeWhile (fun l => !Text.allBlank l) = paragraph at hsplit hparagraph
  generalize hbefore : rest.dropWhile (fun l => !Text.allBlank l) = before at hsplit hfar
  refine ⟨before.reverse, paragraph.reverse, blanks.reverse, ?_, ?_, ?_, ?_, ?_, ?_⟩
  · rw [← List.reverse_append, ← List.reverse_append, List.append_assoc, ← hsplit, ← hfront,
      List.reverse_reverse]
  · rw [Scope.paragraphStart, hrest, hbefore, List.length_reverse]
  · simpa using hparagraph
  · simpa using hblanks
  · simpa using hfar
  · intro hnil
    rw [List.reverse_eq_nil_iff] at hnil ⊢
    rw [hnil, List.nil_append] at hsplit
    subst hsplit
    cases rest with
    | nil => rfl
    | cons l rest =>
        have hblank : Text.allBlank l = true := by simpa using hfar l rfl
        have hnot : Text.allBlank l = false := hnear l rfl
        simp [hblank] at hnot

section Lines

variable {front back : List (List Char)} {text : List Char}

theorem paragraphAbove_paragraphStart (hlines : fixture.lines = front ++ text :: back) :
    fixture.ParagraphAbove (front.length + 1) (Scope.paragraphStart front.reverse) := by
  obtain ⟨before, paragraph, blanks, rfl, hstart, hparagraph, hblanks, hbefore, hnil⟩ :=
    exists_paragraph front
  rw [hstart]
  have hparts : fixture.lines = before ++ (paragraph ++ (blanks ++ text :: back)) := by
    simp [hlines]
  have hgap {l : Nat} (hfirst : before.length + paragraph.length < l)
      (hlast : l < (before ++ (paragraph ++ blanks)).length + 1) : ¬ fixture.HasText l := by
    rw [← List.append_assoc] at hparts
    simp only [List.length_append] at hlast
    apply not_hasText_of_part hparts hblanks <;> rw [List.length_append] <;> omega
  by_cases hempty : paragraph = []
  · obtain rfl := hnil hempty
    subst hempty
    refine Or.inr ⟨fun m hm => ?_, rfl⟩
    cases m with
    | zero => exact not_hasText_zero
    | succ m => exact hgap (Nat.succ_pos m) hm
  · have hlength := List.length_pos_iff.mpr hempty
    refine Or.inl ⟨before.length + paragraph.length, ⟨⟨?_, ?_⟩, ?_⟩, ?_, ?_⟩
    · simp only [List.length_append]
      omega
    · exact hasText_of_part hparts hparagraph (by omega) (Nat.le_refl _)
    · rintro m ⟨hm, htext⟩
      by_contra hlt
      exact hgap (Nat.not_le.mp hlt) hm htext
    · intro l hfirst hlast
      exact hasText_of_part hparts hparagraph hfirst hlast
    · intro m hm
      by_contra hlt
      exact not_hasText_edge hparts hbefore (hm before.length (by omega) (by omega))

/-- The line with this distance from the comment. -/
theorem line?_behind (hlines : fixture.lines = front ++ text :: back) (i : Nat) :
    fixture.line? (front.length + 1 + 1 + i) = back[i]? := by
  have hbelow := line?_below (hlines.trans (List.append_cons front text back)) i
  rwa [List.length_append, List.length_singleton] at hbelow

theorem paragraphBelow_takeWhile (hlines : fixture.lines = front ++ text :: back) :
    fixture.ParagraphBelow (front.length + 1)
      (front.length + 1 + (back.takeWhile fun l => !Text.allBlank l).length) := by
  obtain ⟨hback, hparagraph, hend⟩ := Text.cut_eq_iff.mp
    (⟨rfl, rfl⟩ : back.takeWhile (fun l => !Text.allBlank l) = _ ∧
      back.dropWhile (fun l => !Text.allBlank l) = _)
  generalize back.takeWhile (fun l => !Text.allBlank l) = paragraph at *
  generalize back.dropWhile (fun l => !Text.allBlank l) = rest at *
  have hparts : fixture.lines = (front ++ [text]) ++ (paragraph ++ rest) := by
    simp [hlines, hback]
  constructor
  · intro l hfirst hlast
    apply hasText_of_part hparts
    · simpa using hparagraph
    · simpa using hfirst
    · simpa using hlast
  · intro m hm
    by_contra hlt
    -- The line behind the paragraph would have text, yet it is blank or behind the last line.
    obtain ⟨t, hline, htext⟩ := hm (front.length + 1 + 1 + paragraph.length) (by omega) (by omega)
    have hat := line?_behind hlines paragraph.length
    rw [hback, List.getElem?_append_right (Nat.le_refl _), Nat.sub_self, hline,
      ← List.head?_eq_getElem?] at hat
    have hblank : Text.allBlank t = true := by simpa using hend t hat.symm
    obtain ⟨c, hc, hnot⟩ := htext
    simp [List.all_eq_true.mp hblank c hc] at hnot

theorem closesItem_behind_iff (hlines : fixture.lines = front ++ text :: back) {i : Nat} :
    fixture.ClosesItem (front.length + 1 + 1 + i) ↔
      ∃ l, back[i]? = some l ∧ ['}'].isPrefixOf l = true := by
  simp only [ClosesItem, line?_behind hlines, List.isPrefixOf_iff_prefix]
  constructor
  · rintro ⟨rest, hat⟩
    exact ⟨_, hat, rest, rfl⟩
  · rintro ⟨_, hat, rest, rfl⟩
    exact ⟨rest, hat⟩

/-- An item below a comment ends with the first line that starts with a closing brace. -/
theorem itemBelow_of_some (hlines : fixture.lines = front ++ text :: back) {index : Nat}
    (hindex : back.findIdx? (List.isPrefixOf ['}']) = some index) :
    fixture.ItemBelow (front.length + 1) (front.length + 1 + index + 1) := by
  obtain ⟨hlt, hcloses, hfirst⟩ := List.findIdx?_eq_some_iff_getElem.mp hindex
  refine Or.inl ⟨⟨by omega, ?_⟩, ?_⟩
  · rw [Nat.add_right_comm]
    exact (closesItem_behind_iff hlines).mpr ⟨_, List.getElem?_eq_getElem hlt, hcloses⟩
  · rintro m ⟨hbehind, hm⟩
    obtain ⟨j, rfl⟩ := Nat.exists_eq_add_of_le hbehind
    by_contra hle
    obtain ⟨l, hat, hl⟩ := (closesItem_behind_iff hlines).mp hm
    obtain ⟨hj, rfl⟩ := List.getElem?_eq_some_iff.mp hat
    exact hfirst j (by omega) hl

/-- Without such a line it ends with the source. -/
theorem itemBelow_of_none (hlines : fixture.lines = front ++ text :: back)
    (hindex : back.findIdx? (List.isPrefixOf ['}']) = none) :
    fixture.ItemBelow (front.length + 1) (front.length + 1 + back.length) := by
  refine Or.inr ⟨fun m hbehind hm => ?_, ?_⟩
  · obtain ⟨j, rfl⟩ := Nat.exists_eq_add_of_le hbehind
    obtain ⟨l, hat, hl⟩ := (closesItem_behind_iff hlines).mp hm
    simp [List.findIdx?_eq_none_iff.mp hindex l (List.mem_of_getElem? hat)] at hl
  · rw [lineCount, hlines, List.length_append, List.length_cons]
    omega

theorem closesBlock_behind_iff (hlines : fixture.lines = front ++ text :: back) :
    fixture.ClosesBlock (front.length + 1 + 1) ↔
      ∃ next rest, back = next :: rest ∧ ['}'].isPrefixOf (Text.trimStart next) = true := by
  have hnext := line?_behind hlines 0
  rw [Nat.add_zero, ← List.head?_eq_getElem?] at hnext
  simp only [ClosesBlock, hnext, List.isPrefixOf_iff_prefix]
  constructor
  · rintro ⟨indent, more, hhead, hindent⟩
    obtain ⟨rest, rfl⟩ := List.head?_eq_some_iff.mp hhead
    refine ⟨_, rest, rfl, more, ?_⟩
    rw [Text.trimStart, List.dropWhile_append_of_pos hindent]
    rfl
  · rintro ⟨next, rest, rfl, more, hmore⟩
    refine ⟨next.takeWhile Text.isBlank, more, ?_, List.all_eq_true.mp List.all_takeWhile⟩
    have hmore : Text.trimStart next = '}' :: more := hmore.symm
    rw [List.head?_cons, ← hmore, Text.trimStart, List.takeWhile_append_dropWhile]

theorem opensItem_behind_iff (hlines : fixture.lines = front ++ text :: back) :
    fixture.OpensItem (front.length + 1 + 1) ↔
      ∃ next rest, back = next :: rest ∧ Scope.opensItem next = true := by
  have hnext := line?_behind hlines 0
  rw [Nat.add_zero, ← List.head?_eq_getElem?] at hnext
  simp only [OpensItem, hnext, Scope.opensItem_iff]
  constructor
  · rintro ⟨c, more, hhead, hopens⟩
    obtain ⟨rest, rfl⟩ := List.head?_eq_some_iff.mp hhead
    exact ⟨_, rest, rfl, c, more, rfl, hopens⟩
  · rintro ⟨_, rest, rfl, c, more, rfl, hopens⟩
    exact ⟨c, more, rfl, hopens⟩

theorem describes_ofStandalone (hlines : fixture.lines = front ++ text :: back)
    (hcode : ∀ c ∈ code, Text.isBlank c = true) :
    fixture.Describes (front.length + 1) code (Scope.ofStandalone front.reverse back) := by
  refine ⟨?_, ?_, ?_, ?_⟩
  · rintro ⟨c, hc, hnot⟩
    simp [hcode c hc] at hnot
  · intro _ hblock
    obtain ⟨next, rest, rfl, hcloses⟩ := (closesBlock_behind_iff hlines).mp hblock
    rw [Scope.ofStandalone_of_closes hcloses, List.length_reverse]
    exact ⟨paragraphAbove_paragraphStart hlines, rfl⟩
  · intro _ hblock hitem
    obtain ⟨next, rest, rfl, hopens⟩ := (opensItem_behind_iff hlines).mp hitem
    have hcloses : ['}'].isPrefixOf (Text.trimStart next) = false := by
      rw [← Bool.not_eq_true]
      exact fun hcloses => hblock ((closesBlock_behind_iff hlines).mpr ⟨next, rest, rfl, hcloses⟩)
    rw [Scope.ofStandalone_of_opens hcloses hopens, List.length_reverse]
    refine ⟨rfl, ?_⟩
    cases hindex : (next :: rest).findIdx? (List.isPrefixOf ['}']) with
    | none => exact itemBelow_of_none hlines hindex
    | some index => exact itemBelow_of_some hlines hindex
  · intro _ hblock hitem
    rw [Scope.ofStandalone_of_neither, List.length_reverse]
    · exact ⟨rfl, paragraphBelow_takeWhile hlines⟩
    · intro next hnext
      obtain ⟨rest, rfl⟩ := List.head?_eq_some_iff.mp hnext
      rw [← Bool.not_eq_true, ← Bool.not_eq_true]
      exact ⟨fun hcloses => hblock ((closesBlock_behind_iff hlines).mpr ⟨next, rest, rfl, hcloses⟩),
        fun hopens => hitem ((opensItem_behind_iff hlines).mpr ⟨next, rest, rfl, hopens⟩)⟩

end Lines

theorem describes_beside (hcode : ∃ c ∈ code, Text.isBlank c = false) :
    fixture.Describes (line + 1) code (Scope.beside (line + 1)) := by
  have hnot : ¬ ∀ c ∈ code, Text.isBlank c = true := by
    intro hblank
    obtain ⟨c, hc, hcode⟩ := hcode
    simp [hblank c hc] at hcode
  exact ⟨fun _ => ⟨rfl, rfl⟩, fun hblank => absurd hblank hnot, fun hblank => absurd hblank hnot,
    fun hblank => absurd hblank hnot⟩

/-- The comment is that of the line `text`, which has `code` before its first two slashes and `rest`
behind them. -/
structure Annotates (fixture : Fixture) (comment : DefectComment) (text code rest : List Char) :
    Prop where
  line : fixture.line? comment.line = some text
  cut : Text.IsFirstCut ['/', '/'] text code rest
  text_eq : comment.text = Text.trim rest
  scope : fixture.Describes comment.line code comment.scope

theorem exists_annotates {comment : DefectComment} (hcomment : comment ∈ fixture.defectComments) :
    ∃ text code rest, fixture.Annotates comment text code rest ∧
      ∃ marker ∈ defectMarkers, marker.toList <:+: Text.lowercase rest := by
  obtain ⟨front, text, back, hlines, hline⟩ := mem_defectComments_iff.mp hcomment
  obtain ⟨code, rest, hcut, hmarked, rfl⟩ := DefectComment.onLine?_eq_some_iff.mp hline
  refine ⟨text, code, rest, ⟨by simp [line?, hlines], hcut, rfl, ?_⟩, hmarked⟩
  rw [List.length_reverse]
  by_cases hblank : Text.allBlank code = true
  · simp only [if_pos hblank]
    exact describes_ofStandalone hlines (List.all_eq_true.mp hblank)
  · simp only [if_neg hblank]
    apply describes_beside
    simpa [Text.allBlank] using hblank

theorem exists_mem_defectComments {text code rest : List Char}
    (htext : fixture.line? line = some text) (hcut : Text.IsFirstCut ['/', '/'] text code rest)
    (hmarked : ∃ marker ∈ defectMarkers, marker.toList <:+: Text.lowercase rest) :
    ∃ comment ∈ fixture.defectComments, comment.line = line := by
  obtain ⟨index, rfl, hat⟩ := line?_eq_some_iff.mp htext
  obtain ⟨hlt, rfl⟩ := List.getElem?_eq_some_iff.mp hat
  have hlines : fixture.lines = fixture.lines.take index ++
      fixture.lines[index] :: fixture.lines.drop (index + 1) := by
    rw [← List.drop_eq_getElem_cons hlt, List.take_append_drop]
  refine ⟨_, mem_defectComments_iff.mpr ⟨_, _, _, hlines,
    DefectComment.onLine?_eq_some_iff.mpr ⟨code, rest, hcut, hmarked, rfl⟩⟩, ?_⟩
  simp only [List.length_reverse, List.length_take_of_le (Nat.le_of_lt hlt)]

/-- No scope reaches beyond the size of the source. -/
theorem Annotates.last_le {comment : DefectComment} {text code rest : List Char}
    (hcomment : fixture.Annotates comment text code rest) :
    comment.scope.last ≤ (Text.bytesOf fixture.source.toList).length := by
  have hbytes := Text.length_le_length_bytesOf fixture.source.toList
  obtain ⟨-, -, hlast | ⟨-, hline, hlast⟩⟩ :=
    hcomment.scope.bounds (bounds_of_line? hcomment.line)
  · have hcount : fixture.lineCount ≤ fixture.source.toList.length := Text.length_lines_le _
    omega
  · obtain ⟨index, hindex, hat⟩ := line?_eq_some_iff.mp hcomment.line
    have hle := Text.add_length_le_of_getElem?_lines hat
    have hslashes : 2 ≤ text.length := by
      rw [hcomment.cut.1]
      simp only [List.length_append, List.length_cons]
      omega
    omega

/-- The lines with a defect comment are those that hold a marker behind their first two slashes, one
comment for each.  It describes the lines that `Describes` says and no others, which are around its
own line and within the source. -/
theorem defectComments_annotate (fixture : Fixture) :
    fixture.defectComments.Pairwise (fun first second => first.line < second.line) ∧
    (∀ line, (∃ comment ∈ fixture.defectComments, comment.line = line) ↔
      ∃ text code rest, fixture.line? line = some text ∧
        Text.IsFirstCut ['/', '/'] text code rest ∧
        ∃ marker ∈ defectMarkers, marker.toList <:+: Text.lowercase rest) ∧
    ∀ comment ∈ fixture.defectComments, ∃ text code rest,
      fixture.Annotates comment text code rest ∧
      (∀ scope, fixture.Describes comment.line code scope → scope = comment.scope) ∧
      (comment.scope.first ≤ comment.line ∧ comment.line ≤ comment.scope.last) ∧
      (comment.scope.last ≤ fixture.lineCount ∨ (∃ c ∈ code, Text.isBlank c = false) ∧
        comment.line = fixture.lineCount ∧ comment.scope.last = fixture.lineCount + 1) ∧
      comment.scope.last ≤ (Text.bytesOf fixture.source.toList).length := by
  refine ⟨DefectComment.pairwise_line_collect [] fixture.lines, fun line => ⟨?_, ?_⟩, ?_⟩
  · rintro ⟨comment, hcomment, rfl⟩
    obtain ⟨text, code, rest, hannotates, hmarked⟩ := exists_annotates hcomment
    exact ⟨text, code, rest, hannotates.line, hannotates.cut, hmarked⟩
  · rintro ⟨text, code, rest, htext, hcut, hmarked⟩
    exact exists_mem_defectComments htext hcut hmarked
  · intro comment hcomment
    obtain ⟨text, code, rest, hannotates, -⟩ := exists_annotates hcomment
    obtain ⟨hfirst, hline, hlast⟩ := hannotates.scope.bounds (bounds_of_line? hannotates.line)
    exact ⟨text, code, rest, hannotates, fun scope hscope => hscope.unique hannotates.scope,
      ⟨hfirst, hline⟩, hlast, hannotates.last_le⟩

/-- A header describes its function, a comment behind code its neighbours, and one before a closing
brace the paragraph above it. -/
example :
    (DefectComment.collect [] (["// Leaky helpers", "void leak() \x7b",
        "    int* p = new int[4];  // Memory leak", "\x7d", "", "void grow() \x7b",
        "    v.push_back(1);", "    // Should reserve first", "\x7d"].map String.toList)).map
      (fun comment => (comment.line, comment.scope)) = [(1, ⟨0, 4⟩), (3, ⟨2, 4⟩), (8, ⟨6, 8⟩)] := by
  cbv

end Fixture

end LintCorpus
