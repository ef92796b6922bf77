import LintCorpus.Glob
import LintCorpus.Proofs.Text.Cut

/-!
The syntax of patterns, said without the reader.  A star stands by itself, two stars are a whole
path component, and a bracket opens a set that is closed (`IsPattern`).
`Pattern.exists_ofText?_iff` says that the reader accepts exactly this.
-/

namespace LintCorpus.Glob

/-- What stands behind an opening bracket closes the set, and `behind` follows it.  The first
character of a set is not the bracket that closes it. -/
inductive ClosesSet : List Char → List Char → Prop where
  | plain {c : Char} {more behind : List Char} (hc : c ≠ '!') (hmore : ']' ∉ more) :
      ClosesSet (c :: (more ++ ']' :: behind)) behind
  | negated {c : Char} {more behind : List Char} (hmore : ']' ∉ more) :
      ClosesSet ('!' :: c :: (more ++ ']' :: behind)) behind

/-- `IsPattern previous cs` says that `cs` is a pattern where it stands behind the character
`previous`, or at the beginning of the text. -/
inductive IsPattern : Option Char → List Char → Prop where
  | nil (previous : Option Char) : IsPattern previous []
  /-- A question mark, or a character that stands for itself. -/
  | one {previous : Option Char} {c : Char} {rest : List Char} (hstar : c ≠ '*')
      (hbracket : c ≠ '[') (hrest : IsPattern (some c) rest) : IsPattern previous (c :: rest)
  /-- A star without another one behind it. -/
  | star {previous : Option Char} {rest : List Char} (hsingle : rest.head? ≠ some '*')
      (hrest : IsPattern (some '*') rest) : IsPattern previous ('*' :: rest)
  /-- Two stars as the last component. -/
  | lastStars {previous : Option Char} (hstart : previous = none ∨ previous = some '/') :
      IsPattern previous ['*', '*']
  /-- Two stars as a component that a slash ends. -/
  | stars {previous : Option Char} {rest : List Char}
      (hstart : previous = none ∨ previous = some '/') (hrest : IsPattern (some '/') rest) :
      IsPattern previous ('*' :: '*' :: '/' :: rest)
  | set {previous : Option Char} {rest behind : List Char} (hset : ClosesSet rest behind)
      (hbehind : IsPattern (some ']') behind) : IsPattern previous ('[' :: rest)

theorem closeBracket_append {more : List Char} (hmore : ']' ∉ more) (behind : List Char) :
    closeBracket (more ++ ']' :: behind) = some (more, behind) :=
  Text.cutAt_singleton_eq_some_iff.mpr ⟨rfl, hmore⟩

theorem bracket?_plain {c : Char} (hc : c ≠ '!') (rest : List Char) :
    bracket? (c :: rest) =
      (closeBracket rest).map fun p => (.within (ranges (c :: p.1)), p.2) := by
  rw [bracket?]
  · exact fun _ _ h _ => hc h
  · exact fun h _ => hc h

/-- A set is read where one is closed. -/
theorem exists_bracket?_iff {cs behind : List Char} :
    (∃ token, bracket? cs = some (token, behind)) ↔ ClosesSet cs behind := by
  constructor
  · rintro ⟨token, hbracket⟩
    cases cs with
    | nil => contradiction
    | cons c rest =>
        by_cases hc : c = '!'
        · subst hc
          cases rest with
          | nil => contradiction
          | cons d rest =>
              obtain ⟨⟨more, _⟩, hclose, heq⟩ := Option.map_eq_some_iff.mp hbracket
              obtain ⟨-, rfl⟩ := Prod.mk.inj heq
              obtain ⟨rfl, hmore⟩ := Text.cutAt_singleton_eq_some_iff.mp hclose
              exact ClosesSet.negated hmore
        · rw [bracket?_plain hc] at hbracket
          obtain ⟨⟨more, _⟩, hclose, heq⟩ := Option.map_eq_some_iff.mp hbracket
          obtain ⟨-, rfl⟩ := Prod.mk.inj heq
          obtain ⟨rfl, hmore⟩ := Text.cutAt_singleton_eq_some_iff.mp hclose
          exact ClosesSet.plain hc hmore
  · rintro (⟨hc, hmore⟩ | hmore)
    · rw [bracket?_plain hc, closeBracket_append hmore]
      exact ⟨_, rfl⟩
    · rw [bracket?, closeBracket_append hmore]
      exact ⟨_, rfl⟩

theorem exists_ok_bind_iff {α β ε : Type} {x : Except ε α} {f : α → β} :
    (∃ y, (do let a ← x; return f a : Except ε β) = .ok y) ↔ ∃ a, x = .ok a := by
  cases x with
  | error e => simp [bind, Except.bind]
  | ok a => simp [bind, Except.bind, pure, Except.pure]

namespace IsPattern

variable {previous : Option Char} {c : Char} {rest behind : List Char}

theorem cons_iff (hstar : c ≠ '*') (hbracket : c ≠ '[') :
    IsPattern previous (c :: rest) ↔ IsPattern (some c) rest := by
  refine ⟨?_, IsPattern.one hstar hbracket⟩
  intro hpattern
  cases hpattern with
  | one _ _ hrest => exact hrest
  | star => exact absurd rfl hstar
  | lastStars => exact absurd rfl hstar
  | stars => exact absurd rfl hstar
  | set => exact absurd rfl hbracket

theorem star_iff (hsingle : rest.head? ≠ some '*') :
    IsPattern previous ('*' :: rest) ↔ IsPattern (some '*') rest := by
  refine ⟨?_, IsPattern.star hsingle⟩
  intro hpattern
  cases hpattern with
  | one hstar => exact absurd rfl hstar
  | star _ hrest => exact hrest
  | lastStars => exact absurd rfl hsingle
  | stars => exact absurd rfl hsingle

/-- Two stars begin a component, and the component ends behind them. -/
theorem stars_iff :
    IsPattern previous ('*' :: '*' :: rest) ↔
      (previous = none ∨ previous = some '/') ∧
        ∃ behind, componentEnd? rest = some behind ∧ IsPattern (some '/') behind := by
  constructor
  · intro hpattern
    cases hpattern with
    | one hstar => exact absurd rfl hstar
    | star hsingle => exact absurd rfl hsingle
    | lastStars hstart => exact ⟨hstart, [], rfl, IsPattern.nil _⟩
    | stars hstart hrest => exact ⟨hstart, _, rfl, hrest⟩
  · rintro ⟨hstart, behind, hend, hbehind⟩
    unfold componentEnd? at hend
    split at hend
    · exact IsPattern.lastStars hstart
    · obtain rfl := Option.some.inj hend
      exact IsPattern.stars hstart hbehind
    · contradiction

theorem bracket_iff :
    IsPattern previous ('[' :: rest) ↔
      ∃ behind, ClosesSet rest behind ∧ IsPattern (some ']') behind := by
  constructor
  · intro hpattern
    cases hpattern with
    | one _ hbracket => exact absurd rfl hbracket
    | set hset hbehind => exact ⟨_, hset, hbehind⟩
  · rintro ⟨behind, hset, hbehind⟩
    exact IsPattern.set hset hbehind

end IsPattern

/-- The reader accepts the patterns. -/
theorem exists_tokens?_iff {position : Nat} {previous : Option Char} {cs : List Char} :
    (∃ tokens, tokens? position previous cs = .ok tokens) ↔ IsPattern previous cs := by
  fun_induction tokens? position previous cs with
  | case1 position previous => exact ⟨fun _ => IsPattern.nil previous, fun _ => ⟨[], rfl⟩⟩
  | case2 position previous rest ih =>
      rw [exists_ok_bind_iff, ih, IsPattern.cons_iff (by decide) (by decide)]
  | case3 position previous rest =>
      rw [IsPattern.stars_iff]
      simp [componentEnd?]
  | case4 position previous rest hsingle hstart behind hend ih =>
      rw [exists_ok_bind_iff, ih, IsPattern.stars_iff]
      simp [hstart, hend]
  | case5 position previous rest hsingle hstart hend =>
      rw [IsPattern.stars_iff]
      simp [hend]
  | case6 position previous rest hsingle hstart =>
      rw [IsPattern.stars_iff]
      simp [hstart]
  | case7 position previous rest htriple hdouble ih =>
      rw [exists_ok_bind_iff, ih, IsPattern.star_iff]
      intro hhead
      obtain ⟨rest, rfl⟩ := List.head?_eq_some_iff.mp hhead
      exact hdouble rest rfl
  | case8 position previous rest token behind hbracket ih =>
      rw [exists_ok_bind_iff, ih, IsPattern.bracket_iff]
      simp [← exists_bracket?_iff, hbracket]
  | case9 position previous rest hbracket =>
      rw [IsPattern.bracket_iff]
      simp [← exists_bracket?_iff, hbracket]
  | case10 position previous c rest _ _ _ hstar hbracket ih =>
      rw [exists_ok_bind_iff, ih, IsPattern.cons_iff hstar hbracket]

/-- A text is read as a pattern exactly when it is one. -/
theorem Pattern.exists_ofText?_iff {text : String} :
    (∃ pattern, Pattern.ofText? text = .ok pattern) ↔ IsPattern none text.toList :=
  exists_tokens?_iff

/-- A text is rejected exactly when it is no pattern. -/
theorem Pattern.exists_error_ofText?_iff {text : String} :
    (∃ malformed, Pattern.ofText? text = .error malformed) ↔ ¬ IsPattern none text.toList := by
  rw [← Pattern.exists_ofText?_iff]
  cases Pattern.ofText? text with
  | ok pattern => simp
  | error malformed => simp

end LintCorpus.Glob
