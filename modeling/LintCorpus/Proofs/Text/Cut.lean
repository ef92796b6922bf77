import Mathlib.Data.List.Basic
import LintCorpus.Text.Basic
import LintCorpus.Text.CharClass
import LintCorpus.Text.Numeral

/-!
Cuts of a text: where a run of characters ends, where a mark stands first, what stands behind the
last character of a kind, which parts stand between marks, and which number a run of digits writes.
-/

namespace LintCorpus.Text

/-- The first part of a cut is a run of `p`, and the second one does not go on with it. -/
theorem cut_eq_iff {α : Type} {p : α → Bool} {cs front rest : List α} :
    (cs.takeWhile p = front ∧ cs.dropWhile p = rest) ↔
      cs = front ++ rest ∧ (∀ c ∈ front, p c = true) ∧ ∀ c ∈ rest.head?, p c = false := by
  constructor
  · rintro ⟨rfl, rfl⟩
    refine ⟨List.takeWhile_append_dropWhile.symm, List.all_eq_true.mp List.all_takeWhile, ?_⟩
    intro c hc
    have hhead := List.head?_dropWhile_not p cs
    rw [Option.mem_def.mp hc] at hhead
    simpa using hhead
  · rintro ⟨rfl, hfront, hrest⟩
    rw [List.takeWhile_append_of_pos hfront, List.dropWhile_append_of_pos hfront]
    cases rest with
    | nil => simp
    | cons c rest => simp [hrest c rfl]

/-- A list is split before a mark, and it begins with a run without marks and the mark behind it.
Then it is split at the end of the run, or the run and its mark stand in the first part. -/
theorem split_at_mark {α : Type} {mark : α} {run rest front back : List α} (hrun : mark ∉ run)
    (hsplit : front ++ mark :: back = run ++ mark :: rest) :
    (front = run ∧ back = rest) ∨
      ∃ more, front = run ++ mark :: more ∧ more ++ mark :: back = rest := by
  induction run generalizing front with
  | nil =>
      cases front with
      | nil => exact Or.inl ⟨rfl, (List.cons.inj hsplit).2⟩
      | cons c front =>
          obtain ⟨rfl, hrest⟩ := List.cons.inj hsplit
          exact Or.inr ⟨front, rfl, hrest⟩
  | cons r run ih =>
      obtain ⟨hr, hfree⟩ := not_or.mp (mt List.mem_cons.mpr hrun)
      cases front with
      | nil => exact absurd (List.cons.inj hsplit).1 hr
      | cons c front =>
          obtain ⟨rfl, htail⟩ := List.cons.inj hsplit
          rcases ih hfree htail with ⟨rfl, rfl⟩ | ⟨more, rfl, hmore⟩
          · exact Or.inl ⟨rfl, rfl⟩
          · exact Or.inr ⟨more, rfl, hmore⟩

/-- Two lists that are equal up to their first marks have the same front and the same rest. -/
theorem append_mark_inj {α : Type} {mark : α} {front front' rest rest' : List α}
    (hfront : mark ∉ front) (hfront' : mark ∉ front') :
    front ++ mark :: rest = front' ++ mark :: rest' ↔ front = front' ∧ rest = rest' := by
  constructor
  · intro heq
    rcases split_at_mark hfront' heq with hsame | ⟨more, rfl, -⟩
    · exact hsame
    · exact absurd (List.mem_append_right front' List.mem_cons_self) hfront
  · rintro ⟨rfl, rfl⟩
    rfl

/-- The text is stripped of the blanks at its end. -/
theorem trimEnd_eq_iff {cs front : List Char} :
    trimEnd cs = front ↔
      ∃ blanks, cs = front ++ blanks ∧ (∀ c ∈ blanks, isBlank c = true) ∧
        ∀ c ∈ front.getLast?, isBlank c = false := by
  have hcut : trimEnd cs = front ↔ ∃ blanks, cs.reverse.takeWhile isBlank = blanks ∧
      cs.reverse.dropWhile isBlank = front.reverse := by
    rw [trimEnd, List.reverse_eq_iff]
    simp
  simp only [hcut, cut_eq_iff, List.head?_reverse, List.reverse_eq_iff, List.reverse_append,
    List.reverse_reverse]
  constructor
  · rintro ⟨blanks, hcs, hblanks, hfront⟩
    exact ⟨blanks.reverse, hcs, fun c hc => hblanks c (List.mem_reverse.mp hc), hfront⟩
  · rintro ⟨blanks, hcs, hblanks, hfront⟩
    exact ⟨blanks.reverse, by rwa [List.reverse_reverse],
      fun c hc => hblanks c (List.mem_reverse.mp hc), hfront⟩

/-- What follows the last character with `p` is free of such characters and reaches back to one of
them or to the beginning. -/
theorem afterLast_eq_iff {p : Char → Bool} {cs name : List Char} :
    afterLast p cs = name ↔
      (∀ c ∈ name, p c = false) ∧
        (cs = name ∨ ∃ front c, p c = true ∧ cs = front ++ c :: name) := by
  have hcut : afterLast p cs = name ↔ ∃ rest, cs.reverse.takeWhile (fun c => !p c) = name.reverse ∧
      cs.reverse.dropWhile (fun c => !p c) = rest := by
    rw [afterLast, List.reverse_eq_iff]
    simp
  simp only [hcut, cut_eq_iff, List.mem_reverse, Bool.not_eq_true', Bool.not_eq_false']
  constructor
  · rintro ⟨rest, hcs, hname, hrest⟩
    refine ⟨hname, ?_⟩
    rw [List.reverse_eq_iff, List.reverse_append, List.reverse_reverse] at hcs
    cases rest with
    | nil => exact Or.inl hcs
    | cons c rest => exact Or.inr ⟨rest.reverse, c, hrest c rfl, by simpa using hcs⟩
  · rintro ⟨hname, rfl | ⟨front, c, hc, rfl⟩⟩
    · exact ⟨[], by simp, hname, by simp⟩
    · exact ⟨c :: front.reverse, by simp, hname, by simpa using hc⟩

/-- `front` and `rest` stand before and behind the first occurrence of the mark. -/
def IsFirstCut (mark cs front rest : List Char) : Prop :=
  cs = front ++ (mark ++ rest) ∧
    ∀ front' rest', cs = front' ++ (mark ++ rest') → front.length ≤ front'.length

/-- A text is cut at the first occurrence of the mark. -/
theorem cutAt_eq_some_iff {mark cs front rest : List Char} :
    cutAt mark cs = some (front, rest) ↔ IsFirstCut mark cs front rest := by
  induction cs generalizing front with
  | nil =>
      simp only [cutAt, Option.map_eq_some_iff, List.isPrefixOf?_eq_some_iff_append_eq,
        Prod.mk.injEq, IsFirstCut]
      constructor
      · rintro ⟨_, hmark, rfl, rfl⟩
        exact ⟨hmark.symm, fun _ _ _ => Nat.zero_le _⟩
      · rintro ⟨hcs, -⟩
        obtain ⟨rfl, hmark⟩ := List.append_eq_nil_iff.mp hcs.symm
        exact ⟨rest, hmark, rfl, rfl⟩
  | cons c cs ih =>
      cases hafter : mark.isPrefixOf? (c :: cs) with
      | some found =>
          have hcs : c :: cs = mark ++ found :=
            (List.isPrefixOf?_eq_some_iff_append_eq.mp hafter).symm
          simp only [cutAt, hafter, Option.some.injEq, Prod.mk.injEq]
          constructor
          · rintro ⟨rfl, rfl⟩
            exact ⟨hcs, fun _ _ _ => Nat.zero_le _⟩
          · rintro ⟨hsplit, hfirst⟩
            obtain rfl : front = [] := List.length_eq_zero_iff.mp (Nat.le_zero.mp (hfirst [] _ hcs))
            exact ⟨rfl, List.append_cancel_left (hcs.symm.trans hsplit)⟩
      | none =>
          have hmark (rest' : List Char) : c :: cs ≠ mark ++ rest' := by
            intro hcs
            rw [List.isPrefixOf?_eq_some_iff_append_eq.mpr hcs.symm] at hafter
            contradiction
          simp only [cutAt, hafter, Option.map_eq_some_iff, Prod.exists, Prod.mk.injEq]
          constructor
          · rintro ⟨more, _, hcut, rfl, rfl⟩
            obtain ⟨rfl, hfirst⟩ := ih.mp hcut
            refine ⟨rfl, fun front' rest' hsplit => ?_⟩
            cases front' with
            | nil => exact absurd hsplit (hmark rest')
            | cons d front' =>
                exact Nat.succ_le_succ (hfirst front' rest' (List.cons.inj hsplit).2)
          · rintro ⟨hsplit, hfirst⟩
            cases front with
            | nil => exact absurd hsplit (hmark rest)
            | cons d front =>
                obtain ⟨rfl, hrest⟩ := List.cons.inj hsplit
                refine ⟨front, rest, ih.mpr ⟨hrest, fun front' rest' hcs => ?_⟩, rfl, rfl⟩
                exact Nat.le_of_succ_le_succ
                  (hfirst (c :: front') rest' (congrArg (c :: ·) hcs))

/-- A text is cut at the first character that is the mark. -/
theorem cutAt_singleton_eq_some_iff {mark : Char} {cs front rest : List Char} :
    cutAt [mark] cs = some (front, rest) ↔ cs = front ++ mark :: rest ∧ mark ∉ front := by
  rw [cutAt_eq_some_iff]
  apply and_congr_right
  rintro rfl
  constructor
  · intro hfirst hmark
    obtain ⟨run, more, rfl⟩ := List.append_of_mem hmark
    have hle := hfirst run (more ++ mark :: rest) (by simp)
    rw [List.length_append, List.length_cons] at hle
    omega
  · intro hmark front' rest' hsplit
    rcases split_at_mark hmark hsplit.symm with ⟨rfl, -⟩ | ⟨more, rfl, -⟩ <;> simp

/-- Parts with a mark between them, told as the first one with the others behind a mark each. -/
theorem intercalate_cons {mark : Char} (first : List Char) (parts : List (List Char)) :
    [mark].intercalate (first :: parts) = first ++ parts.flatMap (mark :: ·) := by
  induction parts generalizing first with
  | nil => simp
  | cons next parts ih =>
      rw [List.intercalate_cons_cons, ih, List.flatMap_cons, List.append_assoc]
      rfl

/-- Parts behind a mark each come apart, after the empty text before the first mark. -/
theorem splitOn_flatMap {mark : Char} {parts : List (List Char)}
    (hparts : ∀ part ∈ parts, mark ∉ part) :
    (parts.flatMap (mark :: ·)).splitOn mark = [] :: parts := by
  have hjoined : [mark].intercalate ([] :: parts) = parts.flatMap (mark :: ·) :=
    intercalate_cons [] parts
  rw [← hjoined]
  apply List.splitOn_intercalate
  · rw [List.forall_mem_cons]
    exact ⟨List.not_mem_nil, hparts⟩
  · exact List.cons_ne_nil _ _

/-- No part has the mark in it. -/
theorem not_mem_of_mem_splitOn {mark : Char} {cs : List Char} :
    ∀ part ∈ cs.splitOn mark, mark ∉ part := by
  induction cs with
  | nil => simp
  | cons c cs ih =>
      rw [List.splitOn_cons_eq_if_modifyHead]
      split
      · rw [List.forall_mem_cons]
        exact ⟨List.not_mem_nil, ih⟩
      · rename_i hc
        obtain ⟨part, parts, hsplit⟩ := List.exists_cons_of_ne_nil (List.splitOn_ne_nil mark cs)
        rw [hsplit, List.forall_mem_cons] at ih
        rw [hsplit, List.modifyHead_cons, List.forall_mem_cons]
        refine ⟨?_, ih.2⟩
        rw [List.mem_cons, not_or]
        exact ⟨fun hmark => hc (beq_iff_eq.mpr hmark.symm), ih.1⟩

/-- The separation of a text is the one list of parts without the mark that makes up the text. -/
theorem splitOn_eq_iff {mark : Char} {cs : List Char} {parts : List (List Char)} :
    cs.splitOn mark = parts ↔
      parts ≠ [] ∧ (∀ part ∈ parts, mark ∉ part) ∧ [mark].intercalate parts = cs := by
  constructor
  · rintro rfl
    exact ⟨List.splitOn_ne_nil mark cs, not_mem_of_mem_splitOn, List.intercalate_splitOn mark⟩
  · rintro ⟨hne, hparts, rfl⟩
    exact List.splitOn_intercalate mark hparts hne

/-- The digits write the number. -/
def Writes (digits : List Char) (n : Nat) : Prop :=
  digits ≠ [] ∧ (∀ c ∈ digits, c.isDigit = true) ∧
    digits.foldl (fun value c => 10 * value + (c.toNat - '0'.toNat)) 0 = n

/-- A number is written by its decimal digits. -/
theorem writes_toString (n : Nat) : Writes (toString n).toList n := by
  rw [Nat.toString_eq_repr, Nat.toList_repr]
  refine ⟨Nat.toDigits_ne_nil, ?_, Nat.ofDigitChars_ten_toDigits⟩
  intro c hc
  exact Nat.isDigit_of_mem_toDigits (by decide) (by decide) hc

theorem toString_injective : Function.Injective (toString : Nat → String) := by
  intro m n heq
  obtain ⟨-, -, hm⟩ := writes_toString m
  obtain ⟨-, -, hn⟩ := writes_toString n
  rw [← hm, ← hn, heq]

theorem isDigit_iff {c : Char} : c.isDigit = true ↔ '0' ≤ c ∧ c ≤ '9' := by
  simp only [Char.isDigit, Bool.and_eq_true, decide_eq_true_eq]
  rfl

theorem digitValue?_of_isDigit {c : Char} (hc : c.isDigit = true) :
    digitValue? c = some (c.toNat - '0'.toNat) ∧ c.toNat - '0'.toNat < 10 := by
  obtain ⟨hlow, hhigh⟩ := isDigit_iff.mp hc
  refine ⟨by simp [digitValue?, hlow, hhigh], ?_⟩
  have hbound : c.toNat ≤ '9'.toNat := UInt32.le_iff_toNat_le.mp hhigh
  have hnine : '9'.toNat = 57 := rfl
  have hzero : '0'.toNat = 48 := rfl
  omega

/-- Letters have no value below ten. -/
theorem le_digitValue?_of_not_isDigit {c : Char} (hc : c.isDigit = false) {value : Nat}
    (hvalue : digitValue? c = some value) : 10 ≤ value := by
  have hdigit : ¬ ('0' ≤ c ∧ c ≤ '9') := by
    rw [← isDigit_iff, hc]
    exact Bool.false_ne_true
  simp only [digitValue?, hdigit, ↓reduceIte] at hvalue
  split at hvalue
  · obtain rfl := Option.some.inj hvalue
    exact Nat.le_add_left 10 _
  · split at hvalue
    · obtain rfl := Option.some.inj hvalue
      exact Nat.le_add_left 10 _
    · contradiction

theorem readDigits_eq_some_iff {start : Nat} {cs : List Char} {n : Nat} :
    readDigits 10 start cs = some n ↔
      (∀ c ∈ cs, c.isDigit = true) ∧
        cs.foldl (fun value c => 10 * value + (c.toNat - '0'.toNat)) start = n := by
  induction cs generalizing start with
  | nil => simp [readDigits]
  | cons c cs ih =>
      cases hc : c.isDigit with
      | true =>
          obtain ⟨hvalue, hlt⟩ := digitValue?_of_isDigit hc
          simp only [readDigits, hvalue, hlt, ↓reduceIte, ih, List.mem_cons, List.foldl_cons,
            forall_eq_or_imp, hc, true_and]
      | false =>
          have hnone : readDigits 10 start (c :: cs) = none := by
            cases hvalue : digitValue? c with
            | none => simp [readDigits, hvalue]
            | some value =>
                have hle := le_digitValue?_of_not_isDigit hc hvalue
                simp [readDigits, hvalue, Nat.not_lt.mpr hle]
          simp [hnone, hc]

theorem boundedNumeral?_eq_some_iff {bound : Nat} {digits : List Char} {n : Nat} :
    boundedNumeral? 10 bound digits = some n ↔ Writes digits n ∧ n ≤ bound := by
  simp only [boundedNumeral?, numeral?, Option.filter_eq_some_iff, decide_eq_true_eq, Writes]
  cases digits with
  | nil => simp
  | cons c cs => simp [readDigits_eq_some_iff]

end LintCorpus.Text
