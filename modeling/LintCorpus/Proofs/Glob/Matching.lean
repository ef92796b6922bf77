import Mathlib.Data.List.Chain
import LintCorpus.Proofs.Glob.Syntax

/-!
What a pattern describes, said without the search.  A star stands for any text, and two stars for
whole components (`Describes`).  The search goes through the ways to split a text and gives up where
the text has ended too early; `Pattern.accepts_iff` says that no match is lost by this.
-/

namespace LintCorpus.Glob

/-- The part of a pattern stands for the character. -/
def Token.Admits : Token → Char → Prop
  | .literal a, c => c = a
  | .anyOne, _ => True
  | .within set, c => set.any (·.holds c) = true
  | .outside set, c => set.any (·.holds c) = false
  | .anyText, _ => False
  | .anyComponents, _ => False

/-- `rest` is what follows one of the slashes of a text, or the end of the text. -/
inductive BehindSlash : List Char → List Char → Prop where
  | atEnd : BehindSlash [] []
  | here (rest : List Char) : BehindSlash ('/' :: rest) rest
  | later (c : Char) {cs rest : List Char} (hrest : BehindSlash cs rest) :
      BehindSlash (c :: cs) rest

/-- The text is one of those that the pattern describes. -/
inductive Describes : Pattern → List Char → Prop where
  | nil : Describes [] []
  | one {token : Token} {pattern : Pattern} {c : Char} {cs : List Char} (hc : token.Admits c)
      (hcs : Describes pattern cs) : Describes (token :: pattern) (c :: cs)
  | text {pattern : Pattern} (front : List Char) {rest : List Char}
      (hrest : Describes pattern rest) : Describes (.anyText :: pattern) (front ++ rest)
  | noComponents {pattern : Pattern} {cs : List Char} (hcs : Describes pattern cs) :
      Describes (.anyComponents :: pattern) cs
  | components {pattern : Pattern} {cs rest : List Char} (hbehind : BehindSlash cs rest)
      (hrest : Describes pattern rest) : Describes (.anyComponents :: pattern) cs

namespace BehindSlash

variable {c : Char} {cs rest last : List Char}

theorem nil_iff : BehindSlash [] rest ↔ rest = [] := by
  constructor
  · intro hbehind
    cases hbehind
    rfl
  · rintro rfl
    exact .atEnd

theorem cons_iff : BehindSlash (c :: cs) rest ↔ c = '/' ∧ rest = cs ∨ BehindSlash cs rest := by
  constructor
  · intro hbehind
    cases hbehind with
    | here => exact Or.inl ⟨rfl, rfl⟩
    | later _ hrest => exact Or.inr hrest
  · rintro (⟨rfl, rfl⟩ | hrest)
    · exact .here _
    · exact .later c hrest

theorem suffix (hbehind : BehindSlash cs rest) : rest <:+ cs := by
  induction hbehind with
  | atEnd => exact List.nil_suffix
  | here rest => exact List.suffix_cons '/' rest
  | later c _ ih => exact ih.trans (List.suffix_cons c _)

theorem trans (hbehind : BehindSlash cs rest) (hlast : BehindSlash rest last) :
    BehindSlash cs last := by
  induction hbehind with
  | atEnd => exact hlast
  | here rest => exact .later '/' hlast
  | later c _ ih => exact .later c (ih hlast)

theorem of_suffix (hsuffix : '/' :: rest <:+ cs) : BehindSlash cs rest := by
  induction cs with
  | nil => exact absurd (List.suffix_nil.mp hsuffix) (List.cons_ne_nil _ _)
  | cons c cs ih =>
      rcases List.suffix_cons_iff.mp hsuffix with hsame | hsuffix
      · obtain ⟨rfl, rfl⟩ := List.cons.inj hsame
        exact .here _
      · exact .later c (ih hsuffix)

end BehindSlash

section Descriptions

variable {pattern : Pattern} {cs : List Char}

theorem describes_nil_iff : Describes [] cs ↔ cs = [] := by
  constructor
  · intro hdescribes
    cases hdescribes
    rfl
  · rintro rfl
    exact .nil

theorem describes_anyText_iff :
    Describes (.anyText :: pattern) cs ↔ ∃ rest, rest <:+ cs ∧ Describes pattern rest := by
  constructor
  · intro hdescribes
    cases hdescribes with
    | one hc => exact absurd hc id
    | text front hrest => exact ⟨_, List.suffix_append front _, hrest⟩
  · rintro ⟨rest, ⟨front, rfl⟩, hrest⟩
    exact .text front hrest

theorem describes_anyComponents_iff :
    Describes (.anyComponents :: pattern) cs ↔
      Describes pattern cs ∨ ∃ rest, BehindSlash cs rest ∧ Describes pattern rest := by
  constructor
  · intro hdescribes
    cases hdescribes with
    | one hc => exact absurd hc id
    | noComponents hcs => exact Or.inl hcs
    | components hbehind hrest => exact Or.inr ⟨_, hbehind, hrest⟩
  · rintro (hcs | ⟨rest, hbehind, hrest⟩)
    · exact .noComponents hcs
    · exact .components hbehind hrest

section OneCharacter

variable {token : Token} (htext : token ≠ .anyText) (hcomponents : token ≠ .anyComponents)

include htext hcomponents

theorem not_describes_cons_nil : ¬ Describes (token :: pattern) [] := by
  generalize hcs : ([] : List Char) = cs
  intro hdescribes
  cases hdescribes with
  | one => contradiction
  | text => exact htext rfl
  | noComponents => exact hcomponents rfl
  | components => exact hcomponents rfl

/-- A part that stands for one character takes the first one. -/
theorem describes_cons_cons_iff {c : Char} :
    Describes (token :: pattern) (c :: cs) ↔ token.Admits c ∧ Describes pattern cs := by
  constructor
  · generalize htaken : c :: cs = taken
    intro hdescribes
    cases hdescribes with
    | one hc hcs =>
        obtain ⟨rfl, rfl⟩ := List.cons.inj htaken
        exact ⟨hc, hcs⟩
    | text => exact absurd rfl htext
    | noComponents => exact absurd rfl hcomponents
    | components => exact absurd rfl hcomponents
  · rintro ⟨hc, hcs⟩
    exact .one hc hcs

end OneCharacter

end Descriptions

theorem Outcome.orElse_eq_matched_iff {first : Outcome} {next : Unit → Outcome}
    (hexhausted : first = .exhausted → next () ≠ .matched) :
    first.orElse next = .matched ↔ first = .matched ∨ next () = .matched := by
  cases first with
  | matched => simp [Outcome.orElse]
  | mismatch => simp [Outcome.orElse]
  | exhausted => simp [Outcome.orElse, hexhausted rfl]

section Trying

variable {attempt : List Char → Outcome} {good : List Char → Prop}

/-- The longest rests come first, so that giving up at one of them leaves out none that is good. -/
theorem tryRests_eq_matched_iff (hmatched : ∀ cs, attempt cs = .matched ↔ good cs)
    (hexhausted : ∀ cs rest, attempt cs = .exhausted → rest <:+ cs → ¬ good rest)
    (cs : List Char) : tryRests attempt cs = .matched ↔ ∃ rest, rest <:+ cs ∧ good rest := by
  induction cs with
  | nil =>
      rw [tryRests, hmatched]
      simp
  | cons c cs ih =>
      rw [tryRests, Outcome.orElse_eq_matched_iff, hmatched, ih]
      · simp [List.suffix_cons_iff, or_and_right, exists_or]
      · intro hfirst
        rw [ne_eq, ih]
        rintro ⟨rest, hrest, hgood⟩
        exact hexhausted _ _ hfirst (hrest.trans (List.suffix_cons c cs)) hgood

theorem tryBehindSlashes_eq_matched_iff (hmatched : ∀ cs, attempt cs = .matched ↔ good cs)
    (hexhausted : ∀ cs rest, attempt cs = .exhausted → BehindSlash cs rest → ¬ good rest)
    (cs : List Char) :
    tryBehindSlashes attempt cs = .matched ↔ ∃ rest, BehindSlash cs rest ∧ good rest := by
  induction cs with
  | nil =>
      rw [tryBehindSlashes, hmatched]
      simp [BehindSlash.nil_iff]
  | cons c cs ih =>
      rw [tryBehindSlashes]
      by_cases hslash : c = '/'
      · rw [if_pos hslash, Outcome.orElse_eq_matched_iff, hmatched, ih]
        · simp [BehindSlash.cons_iff, hslash, or_and_right, exists_or]
        · intro hfirst
          rw [ne_eq, ih]
          rintro ⟨rest, hrest, hgood⟩
          exact hexhausted _ _ hfirst hrest hgood
      · rw [if_neg hslash, ih]
        simp [BehindSlash.cons_iff, hslash]

end Trying

theorem tryOne_cons_eq_iff {attempt : List Char → Outcome} {p : Char → Bool} {c : Char}
    {cs : List Char} {outcome : Outcome} (houtcome : outcome ≠ .mismatch) :
    tryOne p attempt (c :: cs) = outcome ↔ p c = true ∧ attempt cs = outcome := by
  rw [tryOne]
  split
  · rename_i hc
    simp [hc]
  · rename_i hc
    simp [hc, houtcome.symm]

/-- Two stars stand only at the beginning of a component. -/
def Placed (pattern : Pattern) : Prop :=
  pattern.IsChain fun token next =>
    next = .anyComponents → token = .literal '/' ∨ token = .anyComponents

/-- The rests of a text that a pattern may be tried on once it was tried on the text. -/
def Tried : Pattern → List Char → List Char → Prop
  | .anyComponents :: _, cs, rest => rest = cs ∨ BehindSlash cs rest
  | _, cs, rest => rest <:+ cs

section Tried

variable {pattern : Pattern} {cs rest : List Char}

theorem Tried.suffix (htried : Tried pattern cs rest) : rest <:+ cs := by
  unfold Tried at htried
  split at htried
  · rcases htried with rfl | hbehind
    · exact List.suffix_rfl
    · exact hbehind.suffix
  · exact htried

theorem tried_self (pattern : Pattern) (cs : List Char) : Tried pattern cs cs := by
  unfold Tried
  split
  · exact Or.inl rfl
  · exact List.suffix_rfl

theorem tried_of_suffix (hhead : pattern.head? ≠ some .anyComponents) (hrest : rest <:+ cs) :
    Tried pattern cs rest := by
  unfold Tried
  split
  · exact absurd rfl hhead
  · exact hrest

theorem BehindSlash.tried (hbehind : BehindSlash cs rest) : Tried pattern cs rest := by
  unfold Tried
  split
  · exact Or.inr hbehind
  · exact hbehind.suffix

/-- Behind a character the next part is tried on what follows it.  Two stars are tried again only
behind the slashes, so that the character has to be a slash for them. -/
theorem tried_of_cons_suffix {c d : Char}
    (hslash : pattern.head? = some .anyComponents → d = '/') (hsuffix : d :: rest <:+ c :: cs) :
    Tried pattern cs rest := by
  rcases List.suffix_cons_iff.mp hsuffix with hsame | hsuffix
  · obtain ⟨rfl, rfl⟩ := List.cons.inj hsame
    exact tried_self pattern rest
  · by_cases hhead : pattern.head? = some .anyComponents
    · obtain rfl := hslash hhead
      exact (BehindSlash.of_suffix hsuffix).tried
    · exact tried_of_suffix hhead ((List.suffix_cons d rest).trans hsuffix)

end Tried

/-- The search decides what a pattern describes, and gives up only where no rest that may still be
tried is described. -/
structure Decided (pattern : Pattern) : Prop where
  matched : ∀ cs, run pattern cs = .matched ↔ Describes pattern cs
  exhausted : ∀ cs rest, run pattern cs = .exhausted → Tried pattern cs rest →
    ¬ Describes pattern rest

namespace Decided

variable {pattern : Pattern}

theorem nil : Decided [] where
  matched cs := by
    rw [describes_nil_iff]
    cases cs <;> simp [run]
  exhausted cs rest hrun := by
    cases cs <;> simp [run] at hrun

/-- Where the search matches nothing, no rest may be described that the pattern does not describe
together with the whole text. -/
theorem of_matched (hmatched : ∀ cs, run pattern cs = .matched ↔ Describes pattern cs)
    (hwhole : ∀ cs rest, Tried pattern cs rest → Describes pattern rest → Describes pattern cs) :
    Decided pattern where
  matched := hmatched
  exhausted cs rest hrun htried hdescribes := by
    have hwholly := (hmatched cs).mpr (hwhole cs rest htried hdescribes)
    rw [hrun] at hwholly
    contradiction

theorem anyText (hpattern : Decided pattern) (hhead : pattern.head? ≠ some .anyComponents) :
    Decided (.anyText :: pattern) := by
  apply of_matched
  · intro cs
    rw [run, describes_anyText_iff]
    apply tryRests_eq_matched_iff hpattern.matched
    intro cs rest hrun hrest
    exact hpattern.exhausted cs rest hrun (tried_of_suffix hhead hrest)
  · intro cs rest htried hdescribes
    rw [describes_anyText_iff] at hdescribes ⊢
    obtain ⟨last, hlast, hgood⟩ := hdescribes
    exact ⟨last, hlast.trans htried.suffix, hgood⟩

theorem anyComponents (hpattern : Decided pattern) : Decided (.anyComponents :: pattern) := by
  have hbehind : ∀ cs rest, run pattern cs = .exhausted → BehindSlash cs rest →
      ¬ Describes pattern rest := by
    intro cs rest hrun hrest
    exact hpattern.exhausted cs rest hrun hrest.tried
  apply of_matched
  · intro cs
    have hslashes := tryBehindSlashes_eq_matched_iff hpattern.matched hbehind cs
    rw [run, Outcome.orElse_eq_matched_iff, hpattern.matched, hslashes,
      describes_anyComponents_iff]
    intro hrun
    rw [ne_eq, hslashes]
    rintro ⟨rest, hrest, hgood⟩
    exact hbehind cs rest hrun hrest hgood
  · intro cs rest htried hdescribes
    rcases htried with rfl | hrest
    · exact hdescribes
    · rw [describes_anyComponents_iff] at hdescribes ⊢
      rcases hdescribes with hgood | ⟨last, hlast, hgood⟩
      · exact Or.inr ⟨rest, hrest, hgood⟩
      · exact Or.inr ⟨last, hrest.trans hlast, hgood⟩

/-- A part that stands for one character, and for a slash when two stars are behind it. -/
theorem one (hpattern : Decided pattern) {token : Token} (htext : token ≠ .anyText)
    (hcomponents : token ≠ .anyComponents) {p : Char → Bool}
    (hrun : ∀ cs, run (token :: pattern) cs = tryOne p (run pattern) cs)
    (hp : ∀ c, p c = true ↔ token.Admits c)
    (hnext : pattern.head? = some .anyComponents → token = .literal '/') :
    Decided (token :: pattern) where
  matched cs := by
    rw [hrun]
    cases cs with
    | nil => simp [tryOne, not_describes_cons_nil htext hcomponents]
    | cons c cs =>
        rw [tryOne_cons_eq_iff (by decide), hp, hpattern.matched,
          describes_cons_cons_iff htext hcomponents]
  exhausted cs rest hstuck htried := by
    have hsuffix := htried.suffix
    cases rest with
    | nil => exact not_describes_cons_nil htext hcomponents
    | cons d last =>
        cases cs with
        | nil => exact absurd (List.suffix_nil.mp hsuffix) (List.cons_ne_nil _ _)
        | cons c cs =>
            rw [hrun, tryOne_cons_eq_iff (by decide)] at hstuck
            rw [describes_cons_cons_iff htext hcomponents]
            rintro ⟨hd, hlast⟩
            have hslash : pattern.head? = some .anyComponents → d = '/' := by
              intro hhead
              obtain rfl := hnext hhead
              exact hd
            exact hpattern.exhausted cs last hstuck.2 (tried_of_cons_suffix hslash hsuffix) hlast

end Decided

theorem decided_of_placed {pattern : Pattern} (hplaced : Placed pattern) : Decided pattern := by
  induction pattern with
  | nil => exact .nil
  | cons token pattern ih =>
      obtain ⟨hfirst, hplaced⟩ := List.isChain_cons.mp hplaced
      have hpattern := ih hplaced
      have hnext : pattern.head? = some .anyComponents →
          token = .literal '/' ∨ token = .anyComponents := fun hhead => hfirst _ hhead rfl
      cases token with
      | literal _ | anyOne | within _ | outside _ =>
          apply hpattern.one (by simp) (by simp) (fun _ => rfl) (by simp [Token.Admits])
          simpa using hnext
      | anyText =>
          apply hpattern.anyText
          simpa using hnext
      | anyComponents => exact hpattern.anyComponents

theorem placed_cons {token : Token} {pattern : Pattern} (hplaced : Placed pattern)
    (hnext : pattern.head? = some .anyComponents →
      token = .literal '/' ∨ token = .anyComponents) : Placed (token :: pattern) := by
  apply List.isChain_cons.mpr
  refine ⟨?_, hplaced⟩
  rintro next hhead rfl
  exact hnext hhead

theorem ok_of_bind_return {α β ε : Type} {x : Except ε α} {f : α → β} {b : β}
    (h : (do let a ← x; return f a : Except ε β) = .ok b) : ∃ a, x = .ok a ∧ f a = b := by
  cases x with
  | error e => cases h
  | ok a => exact ⟨a, rfl, Except.ok.inj h⟩

theorem ne_anyComponents_of_bracket? {cs behind : List Char} {token : Token}
    (hbracket : bracket? cs = some (token, behind)) : token ≠ .anyComponents := by
  unfold bracket? at hbracket
  split at hbracket
  · obtain ⟨_, -, hset⟩ := Option.map_eq_some_iff.mp hbracket
    simp [← (Prod.mk.inj hset).1]
  · contradiction
  · obtain ⟨_, -, hset⟩ := Option.map_eq_some_iff.mp hbracket
    simp [← (Prod.mk.inj hset).1]
  · contradiction

/-- Two stars that are read stand at the beginning of a component. -/
theorem placed_of_tokens? {position : Nat} {previous : Option Char} {cs : List Char}
    {pattern : Pattern} (hread : tokens? position previous cs = .ok pattern) :
    Placed pattern ∧
      (pattern.head? = some .anyComponents → previous = none ∨ previous = some '/') := by
  fun_induction tokens? position previous cs generalizing pattern with
  | case1 position previous =>
      obtain rfl := Except.ok.inj hread
      exact ⟨.nil, by simp⟩
  | case2 _ _ _ ih | case7 _ _ _ _ _ ih =>
      obtain ⟨more, hmore, rfl⟩ := ok_of_bind_return hread
      obtain ⟨hplaced, hhead⟩ := ih hmore
      exact ⟨placed_cons hplaced fun h => absurd (hhead h) (by simp), by simp⟩
  | case3 | case5 | case6 | case9 => cases hread
  | case4 position previous rest hsingle hstart behind hend ih =>
      obtain ⟨more, hmore, rfl⟩ := ok_of_bind_return hread
      obtain ⟨hplaced, -⟩ := ih hmore
      exact ⟨placed_cons hplaced fun _ => Or.inr rfl, fun _ => hstart⟩
  | case8 position previous rest token behind hbracket ih =>
      obtain ⟨more, hmore, rfl⟩ := ok_of_bind_return hread
      obtain ⟨hplaced, hhead⟩ := ih hmore
      have hset := ne_anyComponents_of_bracket? hbracket
      exact ⟨placed_cons hplaced fun h => absurd (hhead h) (by simp), by simp [hset]⟩
  | case10 position previous c rest _ _ _ hstar hbracket ih =>
      obtain ⟨more, hmore, rfl⟩ := ok_of_bind_return hread
      obtain ⟨hplaced, hhead⟩ := ih hmore
      refine ⟨placed_cons hplaced fun h => Or.inl ?_, by simp⟩
      rcases hhead h with hnone | hslash
      · contradiction
      · rw [Option.some.inj hslash]

/-- A text is accepted by a pattern that was read exactly when the pattern describes it. -/
theorem Pattern.accepts_iff {rule : String} {pattern : Pattern}
    (hread : Pattern.ofText? rule = .ok pattern) (text : String) :
    pattern.accepts text = true ↔ Describes pattern text.toList := by
  rw [Pattern.accepts, decide_eq_true_eq]
  exact (decided_of_placed (placed_of_tokens? hread).1).matched text.toList

end LintCorpus.Glob
