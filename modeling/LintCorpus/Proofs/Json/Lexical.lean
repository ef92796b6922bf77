import LintCorpus.Json.Token
import LintCorpus.Json.Value
import LintCorpus.Proofs.Json.Grammar

/-!
The tokens of a text.  Blanks before a token are passed over (`IsBlanks.tokens_append`).  A text in
quotes is one token, in whatever way its characters are written (`SpellsText.tokens_append`), and so
is a number of 64 bits that no digit, point or exponent follows (`tokens_of_writes`).  What is
printed for a text and for a number is among these (`tokens_quote`, `tokens_toString`).
-/

namespace LintCorpus.Json

theorem tokens_congr {cs cs' : List Char} (h : cs.dropWhile isBlank = cs'.dropWhile isBlank) :
    tokens cs = tokens cs' := by
  rw [tokens, tokens, h]

theorem tokens_nil : tokens [] = .done := by
  rw [tokens]
  rfl

/-- The first token of a text that does not begin with a blank. -/
theorem tokens_cons_eq {c : Char} {cs : List Char} (hblank : isBlank c = false) :
    tokens (c :: cs) =
      match scanToken (c :: cs) with
      | .error trouble => .broken (c :: cs) trouble
      | .ok (token, rest) => .token (c :: cs) token rest (tokens rest) := by
  have hstart : (c :: cs).dropWhile isBlank = c :: cs :=
    List.dropWhile_cons_of_neg (by simp [hblank])
  rw [tokens, hstart]
  simp only [List.isEmpty_cons, Bool.false_eq_true, ↓reduceIte]
  split
  · rename_i hscan
    rw [hscan]
  · rename_i hscan
    rw [hscan]

theorem tokens_cons {c : Char} {cs rest : List Char} {token : Token} (hblank : isBlank c = false)
    (hscan : scanToken (c :: cs) = .ok (token, rest)) :
    tokens (c :: cs) = .token (c :: cs) token rest (tokens rest) := by
  rw [tokens_cons_eq hblank, hscan]

theorem tokens_cons_of_error {c : Char} {cs : List Char} {trouble : Trouble}
    (hblank : isBlank c = false) (hscan : scanToken (c :: cs) = .error trouble) :
    tokens (c :: cs) = .broken (c :: cs) trouble := by
  rw [tokens_cons_eq hblank, hscan]

section Blanks

variable {blanks : List Char} (hblanks : IsBlanks blanks)

include hblanks

theorem IsBlanks.tokens_append (cs : List Char) : tokens (blanks ++ cs) = tokens cs := by
  have hblank : ∀ c ∈ blanks, isBlank c = true := by
    intro c hc
    rcases hblanks c hc with rfl | rfl | rfl | rfl
    all_goals rfl
  exact tokens_congr (List.dropWhile_append_of_pos hblank)

theorem IsBlanks.tokens : tokens blanks = .done := by
  rw [← List.append_nil blanks, hblanks.tokens_append, tokens_nil]

end Blanks

theorem isBlanks_indent (depth : Nat) : IsBlanks (indent depth) := by
  intro c hc
  rcases List.mem_cons.mp hc with rfl | hc
  · simp
  · rw [List.eq_of_mem_replicate hc]
    simp

theorem tokens_indent (depth : Nat) (cs : List Char) : tokens (indent depth ++ cs) = tokens cs :=
  (isBlanks_indent depth).tokens_append cs

theorem IsHexDigit.digitValue? {c : Char} {n : Nat} (hdigit : IsHexDigit c n) :
    Text.digitValue? c = some n := by
  have hall : ∀ n < 16, Text.digitValue? (Text.hexDigit n) = some n ∧
      Text.digitValue? (Text.hexDigit n).toUpper = some n := by
    decide
  obtain ⟨hn, rfl | rfl⟩ := hdigit
  · exact (hall n hn).1
  · exact (hall n hn).2

/-- Four digits are the four bytes at least that a unit takes. -/
theorem hexUnit_of_fourDigits? {a b c d : Char} {n : Nat} (hdigits : fourDigits? a b c d = some n)
    (rest : List Char) : hexUnit (a :: b :: c :: d :: rest) = .ok (n, rest) := by
  have hbytes : ¬ Text.byteLength (a :: b :: c :: d :: rest) < 4 := by
    have ha := a.utf8Size_pos
    have hb := b.utf8Size_pos
    have hc := c.utf8Size_pos
    have hd := d.utf8Size_pos
    simp only [Text.byteLength, List.map_cons, List.foldr_cons]
    omega
  rw [hexUnit, if_neg hbytes]
  simp only [hdigits]

theorem SpellsUnit.hexUnit {n : Nat} {digits : List Char} (hdigits : SpellsUnit n digits)
    (rest : List Char) : hexUnit (digits ++ rest) = .ok (n, rest) := by
  cases hdigits with
  | digits ha hb hc hd =>
      apply hexUnit_of_fourDigits?
      simp [fourDigits?, Text.numeral?, Text.readDigits, ha.digitValue?, hb.digitValue?,
        hc.digitValue?, hd.digitValue?, ha.1, hb.1, hc.1, hd.1]

/-- A character is no surrogate. -/
theorem toNat_lt_or_lt (c : Char) : c.toNat < 0xD800 ∨ 0xDFFF < c.toNat ∧ c.toNat < 0x110000 :=
  c.valid

section Escapes

variable {c : Char} {cs rest : List Char}

theorem escaped_unit {digits : List Char} (hdigits : SpellsUnit c.toNat digits) :
    escaped ('u' :: (digits ++ rest)) = .ok (c, rest) := by
  have hscalar := toNat_lt_or_lt c
  have hlow : ¬ (0xDC00 ≤ c.toNat ∧ c.toNat ≤ 0xDFFF) := by omega
  have hhigh : ¬ (0xD800 ≤ c.toNat ∧ c.toNat ≤ 0xDBFF) := by omega
  rw [escaped, unicodeEscape, hdigits.hexUnit]
  simp only [hlow, hhigh, ↓reduceIte, Char.ofNat_toNat]

/-- The character of a pair has twenty bits, ten in each surrogate. -/
theorem escaped_pair {high low : List Char} (hlarge : 0x10000 ≤ c.toNat)
    (hhigh : SpellsUnit (0xD800 + (c.toNat - 0x10000) / 0x400) high)
    (hlow : SpellsUnit (0xDC00 + (c.toNat - 0x10000) % 0x400) low) :
    escaped ('u' :: (high ++ '\\' :: 'u' :: (low ++ rest))) = .ok (c, rest) := by
  have hscalar := toNat_lt_or_lt c
  have hpair : 0x10000 + (0xD800 + (c.toNat - 0x10000) / 0x400 - 0xD800) * 0x400 +
      (0xDC00 + (c.toNat - 0x10000) % 0x400 - 0xDC00) = c.toNat := by omega
  have hfront : ¬ (0xDC00 ≤ 0xD800 + (c.toNat - 0x10000) / 0x400 ∧
      0xD800 + (c.toNat - 0x10000) / 0x400 ≤ 0xDFFF) := by omega
  have hlead : 0xD800 ≤ 0xD800 + (c.toNat - 0x10000) / 0x400 ∧
      0xD800 + (c.toNat - 0x10000) / 0x400 ≤ 0xDBFF := by omega
  have htrail : 0xDC00 ≤ 0xDC00 + (c.toNat - 0x10000) % 0x400 ∧
      0xDC00 + (c.toNat - 0x10000) % 0x400 ≤ 0xDFFF := by omega
  rw [escaped, unicodeEscape, hhigh.hexUnit]
  simp only [hfront, hlead, and_self, ↓reduceIte, trailingSurrogate, surrogateMark,
    hlow.hexUnit, htrail, hpair, Char.ofNat_toNat]

theorem scanText_escape (hescaped : escaped cs = .ok (c, rest)) :
    scanText ('\\' :: cs) = (scanText rest).map fun p => (c :: p.1, p.2) := by
  rw [scanText]
  split
  · rename_i htrouble
    rw [hescaped] at htrouble
    cases htrouble
  · rename_i hescaped'
    rw [hescaped] at hescaped'
    cases hescaped'
    rfl

end Escapes

/-- A character is read from each of the ways to write it. -/
theorem SpellsChar.scanText_append {c : Char} {part : List Char} (hpart : SpellsChar c part)
    (rest : List Char) :
    scanText (part ++ rest) = (scanText rest).map fun p => (c :: p.1, p.2) := by
  cases hpart with
  | self hcontrol hquote hbackslash =>
      rw [List.singleton_append, scanText]
      · rw [if_neg (Nat.not_lt.mpr hcontrol)]
      · exact hquote
      · exact hbackslash
  | short hletter =>
      rw [List.cons_append, List.singleton_append]
      apply scanText_escape
      simp only [shortEscapes, List.mem_cons, List.not_mem_nil, or_false, Prod.mk.injEq] at hletter
      rcases hletter with ⟨rfl, rfl⟩ | ⟨rfl, rfl⟩ | ⟨rfl, rfl⟩ | ⟨rfl, rfl⟩ | ⟨rfl, rfl⟩ |
        ⟨rfl, rfl⟩ | ⟨rfl, rfl⟩ | ⟨rfl, rfl⟩
      all_goals rfl
  | unit hdigits =>
      rw [List.cons_append, List.cons_append]
      exact scanText_escape (escaped_unit hdigits)
  | pair hlarge hhigh hlow =>
      simp only [List.cons_append, List.append_assoc]
      exact scanText_escape (escaped_pair hlarge hhigh hlow)

theorem scanText_flatten {cs : List Char} {parts : List (List Char)}
    (hparts : List.Forall₂ SpellsChar cs parts) (rest : List Char) :
    scanText (parts.flatten ++ '"' :: rest) = .ok (cs, rest) := by
  induction hparts with
  | nil => rw [List.flatten_nil, List.nil_append, scanText]
  | cons hpart _ ih =>
      rw [List.flatten_cons, List.append_assoc, hpart.scanText_append, ih]
      rfl

/-- A text in quotes is one token, however its characters are written. -/
theorem SpellsText.tokens_append {s : String} {cs : List Char} (htext : SpellsText s cs)
    (rest : List Char) :
    tokens (cs ++ rest) = .token (cs ++ rest) (.str s) rest (tokens rest) := by
  cases htext with
  | @quoted parts hparts =>
      rw [List.cons_append, List.append_assoc, List.singleton_append]
      apply tokens_cons rfl
      rw [scanToken, scanText_flatten hparts]
      simp [Except.map]

theorem spellsUnit_control {n : Nat} (hn : n < 32) :
    SpellsUnit n ['0', '0', Text.hexDigit (n / 16), Text.hexDigit (n % 16)] := by
  have hzero : IsHexDigit '0' 0 := ⟨by decide, Or.inl rfl⟩
  have hhigh : IsHexDigit (Text.hexDigit (n / 16)) (n / 16) := ⟨by omega, Or.inl rfl⟩
  have hlow : IsHexDigit (Text.hexDigit (n % 16)) (n % 16) := ⟨by omega, Or.inl rfl⟩
  have hdigits := SpellsUnit.digits hzero hzero hhigh hlow
  have hsum : 16 * (16 * (16 * 0 + 0) + n / 16) + n % 16 = n := by omega
  rwa [hsum] at hdigits

/-- What a character is printed as is one of the ways to write it. -/
theorem spellsChar_escapeChar (c : Char) : SpellsChar c (escapeChar c) := by
  have hchar {n : Nat} (hn : c.toNat = n) : c = Char.ofNat n := by
    rw [← hn, Char.ofNat_toNat]
  unfold escapeChar
  split
  case h_6 hquote hbackslash _ _ _ =>
    split
    · rename_i hback
      rw [hchar hback]
      exact .short (by decide)
    split
    · rename_i hfeed
      rw [hchar hfeed]
      exact .short (by decide)
    split
    · rename_i hcontrol
      exact .unit (spellsUnit_control hcontrol)
    · rename_i hprinted
      exact .self (Nat.not_lt.mp hprinted) hquote hbackslash
  all_goals exact .short (by decide)

theorem spellsText_quote (s : String) : SpellsText s (quote s.toList) := by
  have hparts : List.Forall₂ SpellsChar s.toList (s.toList.map escapeChar) := by
    rw [List.forall₂_map_right_iff, List.forall₂_same]
    intro c _
    exact spellsChar_escapeChar c
  rw [quote, List.flatMap_def]
  exact .quoted hparts

theorem tokens_quote (s : String) (rest : List Char) :
    tokens (quote s.toList ++ rest) =
      .token (quote s.toList ++ rest) (.str s) rest (tokens rest) :=
  (spellsText_quote s).tokens_append rest

/-- What stands behind a number does not go on with it. -/
def EndsNumber (rest : List Char) : Prop :=
  ∀ c ∈ rest.head?, c.isDigit = false ∧ c ≠ '.' ∧ c ≠ 'e' ∧ c ≠ 'E'

theorem endsNumber_nil : EndsNumber [] := by
  rintro c ⟨⟩

theorem endsNumber_cons {c : Char} (hc : c.isDigit = false ∧ c ≠ '.' ∧ c ≠ 'e' ∧ c ≠ 'E')
    (rest : List Char) : EndsNumber (c :: rest) := by
  rintro _ ⟨⟩
  exact hc

theorem IsBlanks.endsNumber_append {blanks rest : List Char} (hblanks : IsBlanks blanks)
    (hrest : EndsNumber rest) : EndsNumber (blanks ++ rest) := by
  cases blanks with
  | nil => exact hrest
  | cons c blanks =>
      apply endsNumber_cons
      rcases hblanks c List.mem_cons_self with rfl | rfl | rfl | rfl
      all_goals decide

theorem le_foldl_digits (start : Nat) (cs : List Char) :
    start ≤ cs.foldl (fun value c => 10 * value + (c.toNat - '0'.toNat)) start := by
  induction cs generalizing start with
  | nil => exact Nat.le_refl start
  | cons c cs ih =>
      rw [List.foldl_cons]
      have hnext := ih (10 * start + (c.toNat - '0'.toNat))
      omega

/-- Nothing is left over of digits whose number fits into 64 bits. -/
theorem appendDigits_of_le {start n : Nat} {cs : List Char} (hn : n ≤ Text.maxOffset)
    (hfold : cs.foldl (fun value c => 10 * value + (c.toNat - '0'.toNat)) start = n) :
    appendDigits start cs = (n, 0) := by
  induction cs generalizing start with
  | nil =>
      rw [← hfold]
      rfl
  | cons c cs ih =>
      rw [List.foldl_cons] at hfold
      have hnext := le_foldl_digits (10 * start + (c.toNat - '0'.toNat)) cs
      rw [appendDigits, if_pos (Nat.le_trans hnext (hfold ▸ hn)), ih hfold]

/-- A number that is not zero does not begin with the digit zero. -/
theorem head?_toDigits_ne {n : Nat} (hn : n ≠ 0) : (Nat.toDigits 10 n).head? ≠ some '0' := by
  induction n using Nat.strongRecOn with
  | ind n ih =>
      by_cases hlt : n < 10
      · have hall : ∀ n < 10, n ≠ 0 → [n.digitChar].head? ≠ some '0' := by
          decide
        rw [Nat.toDigits_of_lt_base hlt]
        exact hall n hlt hn
      · have hle : 10 ≤ n := Nat.le_of_not_lt hlt
        have htenth : n / 10 ≠ 0 := Nat.ne_of_gt (Nat.div_pos hle (by decide))
        have hfront := ih (n / 10) (Nat.div_lt_self (by omega) (by decide)) htenth
        obtain ⟨d, ds, hdigits⟩ := List.exists_cons_of_ne_nil (@Nat.toDigits_ne_nil (n / 10) 10)
        rw [Nat.toDigits_of_base_le (by decide) hle, hdigits]
        rwa [hdigits] at hfront

/-- The digits of a number do not go on behind a zero at the front. -/
theorem toList_toString_ne (n : Nat) (d : Char) (ds : List Char) :
    (toString n).toList ≠ '0' :: d :: ds := by
  rw [Nat.toString_eq_repr, Nat.toList_repr]
  intro hdigits
  by_cases hn : n = 0
  · subst hn
    cases hdigits
  · exact head?_toDigits_ne hn (hdigits ▸ rfl)

theorem integerPart_of_endsNumber (n : Nat) {rest : List Char} (hrest : EndsNumber rest) :
    integerPart false ⟨n, 0, rest⟩ = .ok (.nat n, rest) := by
  cases rest with
  | nil => rfl
  | cons c rest =>
      obtain ⟨-, hpoint, hlower, hupper⟩ := hrest c rfl
      simp [integerPart, hpoint, hlower, hupper, integer?]

/-- A number is cut off behind its digits. -/
theorem digits_append {cs rest : List Char} (hcs : ∀ c ∈ cs, c.isDigit = true)
    (hrest : ∀ c ∈ rest.head?, c.isDigit = false) : digits (cs ++ rest) = (cs, rest) := by
  obtain ⟨hfront, hback⟩ := Text.cut_eq_iff.mpr ⟨rfl, hcs, hrest⟩
  rw [digits, hfront, hback]

/-- Behind its digits a number is told by them and by what follows. -/
theorem scanNumber_append {isNegative : Bool} {cs rest : List Char} (hne : cs ≠ [])
    (hcs : ∀ c ∈ cs, c.isDigit = true) (hfront : ∀ d ds, cs ≠ '0' :: d :: ds)
    (hrest : ∀ c ∈ rest.head?, c.isDigit = false) :
    scanNumber isNegative (cs ++ rest) =
      integerPart isNegative ⟨(appendDigits 0 cs).1, (appendDigits 0 cs).2, rest⟩ := by
  rw [scanNumber, digits_append hcs hrest]
  split
  · rename_i h
    exact absurd (Prod.mk.inj h).1 hne
  · rename_i h
    exact absurd (Prod.mk.inj h).1 hne
  · rename_i h
    exact absurd (Prod.mk.inj h).1 (hfront _ _)
  · rename_i h
    obtain ⟨rfl, rfl⟩ := Prod.mk.inj h
    rfl

theorem scanNumber_of_writes {n : Nat} {cs rest : List Char} (hwrites : Text.Writes cs n)
    (hfront : ∀ d ds, cs ≠ '0' :: d :: ds) (hn : n ≤ Text.maxOffset) (hrest : EndsNumber rest) :
    scanNumber false (cs ++ rest) = .ok (.nat n, rest) := by
  obtain ⟨hne, hdigits, hvalue⟩ := hwrites
  rw [scanNumber_append hne hdigits hfront fun c hc => (hrest c hc).1,
    appendDigits_of_le hn hvalue]
  exact integerPart_of_endsNumber n hrest

/-- A token that begins with a digit is a number. -/
theorem scanToken_of_isDigit {c : Char} (hc : c.isDigit = true) (cs : List Char) :
    scanToken (c :: cs) = (scanNumber false (c :: cs)).map fun p => (.number p.1, p.2) := by
  unfold scanToken
  split
  case h_13 heq =>
    cases heq
    rw [if_pos hc]
  all_goals
    rename_i heq
    cases heq
  all_goals exact absurd hc (by decide)

theorem not_isBlank_of_isDigit {c : Char} (hc : c.isDigit = true) : isBlank c = false := by
  rw [← Bool.not_eq_true]
  intro hblank
  simp only [isBlank, Bool.or_eq_true, decide_eq_true_eq] at hblank
  rcases hblank with ((rfl | rfl) | rfl) | rfl
  all_goals exact absurd hc (by decide)

theorem tokens_of_writes {n : Nat} {cs rest : List Char} (hwrites : Text.Writes cs n)
    (hfront : ∀ d ds, cs ≠ '0' :: d :: ds) (hn : n ≤ Text.maxOffset) (hrest : EndsNumber rest) :
    tokens (cs ++ rest) = .token (cs ++ rest) (.number (.nat n)) rest (tokens rest) := by
  have hscan := scanNumber_of_writes hwrites hfront hn hrest
  obtain ⟨c, ds, rfl⟩ := List.exists_cons_of_ne_nil hwrites.1
  have hc : c.isDigit = true := hwrites.2.1 c List.mem_cons_self
  rw [List.cons_append] at hscan ⊢
  apply tokens_cons (not_isBlank_of_isDigit hc)
  rw [scanToken_of_isDigit hc, hscan]
  rfl

theorem tokens_toString {n : Nat} (hn : n ≤ Text.maxOffset) {rest : List Char}
    (hrest : EndsNumber rest) :
    tokens ((toString n).toList ++ rest) =
      .token ((toString n).toList ++ rest) (.number (.nat n)) rest (tokens rest) :=
  tokens_of_writes (Text.writes_toString n) (toList_toString_ne n) hn hrest

end LintCorpus.Json
