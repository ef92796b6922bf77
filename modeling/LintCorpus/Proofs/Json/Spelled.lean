import LintCorpus.Proofs.Json.Lexical

/-!
The tokens of a spelled value.  Whatever the blanks, the escapes and the form of the numbers, a
value is known by the token that its text begins with (`Spells.begins`): `null`, a truth value and a
text in quotes are one token, a number is the natural number that it writes or one that is not
natural, and a list begins with its bracket.  Items that are separated by commas are met one after
the other (`Separated.exists_item`).
-/

namespace LintCorpus.Json

section Number

variable {isNegative : Bool} {n : Nat} {parts : Parts} {cs rest : List Char}

/-- Behind a fraction or an exponent a number is no longer natural. -/
theorem Parts.number_ne_nat : parts.number isNegative ≠ .ok (.nat n, rest) := by
  unfold Parts.number
  split <;> simp

theorem exponentDigits_ne_nat {negativeExponent : Bool} :
    exponentDigits isNegative negativeExponent parts cs ≠ .ok (.nat n, rest) := by
  unfold exponentDigits
  split
  · simp
  · simp
  · split
    · exact Parts.number_ne_nat
    · split <;> simp

theorem exponent?_ne_nat : exponent? isNegative parts ≠ .ok (.nat n, rest) := by
  have hpart (parts : Parts) : exponentPart isNegative parts ≠ .ok (.nat n, rest) := by
    unfold exponentPart
    split <;> exact exponentDigits_ne_nat
  unfold exponent?
  split
  · exact hpart _
  · exact hpart _
  · exact Parts.number_ne_nat

theorem fractionPart_ne_nat : fractionPart isNegative parts ≠ .ok (.nat n, rest) := by
  unfold fractionPart
  split
  · simp
  · simp
  · exact exponent?_ne_nat

/-- A number that is read as a natural one has no sign, no digits beyond 64 bits, and no fraction or
exponent. -/
theorem of_integerPart_eq_nat (hread : integerPart isNegative parts = .ok (.nat n, rest)) :
    isNegative = false ∧ parts.exponent = 0 ∧ parts.significand = n ∧ parts.rest = rest ∧
      ∀ c ∈ rest.head?, c ≠ '.' ∧ c ≠ 'e' ∧ c ≠ 'E' := by
  unfold integerPart at hread
  split at hread
  case h_1 => exact absurd hread fractionPart_ne_nat
  case h_2 => exact absurd hread exponent?_ne_nat
  case h_3 => exact absurd hread exponent?_ne_nat
  case h_4 hpoint hlower hupper =>
    split at hread
    · rename_i hexponent
      obtain ⟨hnumber, rfl⟩ := Prod.mk.inj (Except.ok.inj hread)
      unfold integer? at hnumber
      split at hnumber
      · rename_i hsign
        refine ⟨by simpa using hsign, hexponent, Number.nat.inj hnumber, rfl, ?_⟩
        intro c hc
        obtain ⟨tail, htail⟩ := List.head?_eq_some_iff.mp hc
        refine ⟨?_, ?_, ?_⟩
        · rintro rfl
          exact hpoint _ htail
        · rintro rfl
          exact hlower _ htail
        · rintro rfl
          exact hupper _ htail
      · split at hnumber
        · cases hnumber
        · cases hnumber
    · exact absurd hread Parts.number_ne_nat

/-- No digit is left over only when the number of all the digits fits into 64 bits. -/
theorem of_appendDigits_eq_zero {start : Nat} (hstart : start ≤ Text.maxOffset)
    (hall : (appendDigits start cs).2 = 0) :
    cs.foldl (fun value c => 10 * value + (c.toNat - '0'.toNat)) start = (appendDigits start cs).1 ∧
      (appendDigits start cs).1 ≤ Text.maxOffset := by
  induction cs generalizing start with
  | nil => exact ⟨rfl, hstart⟩
  | cons c cs ih =>
      rw [appendDigits] at hall ⊢
      split at hall
      · rename_i hnext
        rw [if_pos hnext]
        exact ih hnext hall
      · simp at hall

end Number

/-- What stands behind the whole part of a number begins with a point or with the mark of an
exponent. -/
theorem IsExponent.append_eq_nil_or {fraction exponent : List Char}
    (hexponent : IsExponent exponent) (hfraction : IsFraction fraction) :
    (fraction = [] ∧ exponent = []) ∨
      ∃ c tail, fraction ++ exponent = c :: tail ∧ (c = '.' ∨ c = 'e' ∨ c = 'E') := by
  cases hfraction with
  | none =>
      cases hexponent with
      | none => exact Or.inl ⟨rfl, rfl⟩
      | power hmark _ _ => exact Or.inr ⟨_, _, rfl, Or.inr hmark⟩
  | point _ => exact Or.inr ⟨_, _, rfl, Or.inl rfl⟩

namespace Numeral

variable {numeral : Numeral} {n : Nat} {rest back : List Char}

/-- Behind its digits a numeral with a fraction or an exponent goes on, and is not natural. -/
theorem scanNumber_ne_nat {c : Char} {tail : List Char}
    (htail : numeral.fraction ++ numeral.exponent = c :: tail)
    (hc : c = '.' ∨ c = 'e' ∨ c = 'E') :
    scanNumber numeral.isNegative
      (numeral.whole ++ (numeral.fraction ++ numeral.exponent ++ rest)) ≠ .ok (.nat n, back) := by
  have hdigit : ∀ d ∈ (c :: (tail ++ rest)).head?, d.isDigit = false := by
    rintro _ ⟨rfl⟩
    rcases hc with rfl | rfl | rfl
    all_goals decide
  obtain ⟨hne, hdigits⟩ := numeral.whole_digits
  intro hscan
  rw [htail, List.cons_append, scanNumber_append hne hdigits numeral.whole_front hdigit] at hscan
  obtain ⟨-, -, -, hback, hends⟩ := of_integerPart_eq_nat hscan
  obtain ⟨hpoint, hlower, hupper⟩ := hends c (by rw [← hback]; rfl)
  rcases hc with rfl | rfl | rfl
  · exact hpoint rfl
  · exact hlower rfl
  · exact hupper rfl

/-- A numeral is read as a natural number when it is the digits of one of 64 bits. -/
theorem scanNumber_eq_nat_iff (hrest : EndsNumber rest) :
    scanNumber numeral.isNegative
        (numeral.whole ++ (numeral.fraction ++ numeral.exponent ++ rest)) = .ok (.nat n, back) ↔
      (numeral.IsNatural n ∧ n ≤ Text.maxOffset) ∧ back = rest := by
  constructor
  · intro hscan
    obtain ⟨hne, hdigits⟩ := numeral.whole_digits
    rcases numeral.exponent_form.append_eq_nil_or numeral.fraction_form with
      ⟨hfraction, hexponent⟩ | ⟨c, tail, htail, hc⟩
    · rw [hfraction, hexponent, List.append_nil, List.nil_append,
        scanNumber_append hne hdigits numeral.whole_front fun c hc => (hrest c hc).1] at hscan
      obtain ⟨hsign, hall, hvalue, hback, -⟩ := of_integerPart_eq_nat hscan
      obtain ⟨hfold, hle⟩ := of_appendDigits_eq_zero (Nat.zero_le _) (Int.ofNat.inj hall)
      rw [← hvalue]
      exact ⟨⟨⟨hsign, ⟨hne, hdigits, hfold⟩, hfraction, hexponent⟩, hle⟩, hback.symm⟩
    · exact absurd hscan (scanNumber_ne_nat htail hc)
  · rintro ⟨⟨hnatural, hn⟩, rfl⟩
    rw [hnatural.positive, hnatural.fraction, hnatural.exponent]
    exact scanNumber_of_writes hnatural.writes numeral.whole_front hn hrest

/-- A numeral is scanned behind its sign. -/
theorem exists_scanToken_text (numeral : Numeral) (rest : List Char) :
    ∃ c cs, numeral.text ++ rest = c :: cs ∧ isBlank c = false ∧
      scanToken (c :: cs) = (scanNumber numeral.isNegative
        (numeral.whole ++ (numeral.fraction ++ numeral.exponent ++ rest))).map fun p =>
          (.number p.1, p.2) := by
  obtain ⟨hne, hdigits⟩ := numeral.whole_digits
  obtain ⟨d, ds, hwhole⟩ := List.exists_cons_of_ne_nil hne
  have hd : d.isDigit = true := hdigits d (hwhole ▸ List.mem_cons_self)
  rw [text, List.append_assoc, List.append_assoc]
  cases numeral.isNegative with
  | true => exact ⟨_, _, rfl, rfl, rfl⟩
  | false =>
      rw [hwhole]
      exact ⟨_, _, rfl, not_isBlank_of_isDigit hd, scanToken_of_isDigit hd _⟩

end Numeral

/-- What the tokens of a value begin with, when `rest` stands behind the value.  A list is told up
to its bracket; of numbers that are not natural and of objects nothing is told behind the first
token. -/
inductive Begins (rest : List Char) : Value → Tokens → Prop where
  | null (start : List Char) : Begins rest .null (.token start .null rest (tokens rest))
  | bool (start : List Char) (b : Bool) :
      Begins rest (.bool b) (.token start (.bool b) rest (tokens rest))
  | str (start : List Char) (s : String) :
      Begins rest (.str s) (.token start (.str s) rest (tokens rest))
  | natural (start : List Char) {numeral : Numeral} {n : Nat} (hnatural : numeral.IsNatural n) :
      Begins rest (.number numeral) (.token start (.number (.nat n)) rest (tokens rest))
  | number (start back : List Char) (more : Tokens) {numeral : Numeral} {number : Number}
      (hnumber : ∀ n, number ≠ .nat n)
      (hnumeral : ∀ n ≤ Text.maxOffset, ¬ numeral.IsNatural n) :
      Begins rest (.number numeral) (.token start (.number number) back more)
  | broken (start : List Char) (trouble : Trouble) {numeral : Numeral}
      (hnumeral : ∀ n ≤ Text.maxOffset, ¬ numeral.IsNatural n) :
      Begins rest (.number numeral) (.broken start trouble)
  | list (start : List Char) {items : List Value} {body : List Char}
      (hitems : Separated Spells items body) :
      Begins rest (.list items)
        (.token start .openList (body ++ ']' :: rest) (tokens (body ++ ']' :: rest)))
  | object (start back : List Char) (more : Tokens) {members : List (String × Value)} :
      Begins rest (.object members) (.token start .openObject back more)

theorem Numeral.IsNatural.unique {numeral : Numeral} {m n : Nat} (hm : numeral.IsNatural m)
    (hn : numeral.IsNatural n) : m = n :=
  hm.writes.2.2.symm.trans hn.writes.2.2

theorem Numeral.begins (numeral : Numeral) {rest : List Char} (hrest : EndsNumber rest) :
    Begins rest (.number numeral) (tokens (numeral.text ++ rest)) := by
  obtain ⟨c, cs, htext, hblank, htoken⟩ := numeral.exists_scanToken_text rest
  rw [htext]
  cases hscan : scanNumber numeral.isNegative
      (numeral.whole ++ (numeral.fraction ++ numeral.exponent ++ rest)) with
  | error trouble =>
      rw [hscan] at htoken
      rw [tokens_cons_of_error hblank htoken]
      apply Begins.broken
      intro n hn hnumeral
      cases hscan.symm.trans ((scanNumber_eq_nat_iff hrest).mpr ⟨⟨hnumeral, hn⟩, rfl⟩)
  | ok result =>
      obtain ⟨number, back⟩ := result
      rw [hscan] at htoken
      rw [tokens_cons hblank htoken]
      have hnumeral (hnumber : ∀ n, number ≠ .nat n) :
          ∀ n ≤ Text.maxOffset, ¬ numeral.IsNatural n := by
        intro n hn hnumeral
        cases hscan.symm.trans ((scanNumber_eq_nat_iff hrest).mpr ⟨⟨hnumeral, hn⟩, rfl⟩)
        exact hnumber n rfl
      cases number with
      | nat n =>
          obtain ⟨⟨hnumeral, -⟩, rfl⟩ := (scanNumber_eq_nat_iff hrest).mp hscan
          exact .natural _ hnumeral
      | negative n => exact .number _ _ _ (by simp) (hnumeral (by simp))
      | binary isNegative x => exact .number _ _ _ (by simp) (hnumeral (by simp))

/-- The tokens of a value, behind which no number goes on. -/
theorem Spells.begins {value : Value} {cs rest : List Char} (hspells : Spells value cs)
    (hrest : EndsNumber rest) : Begins rest value (tokens (cs ++ rest)) := by
  cases hspells with
  | null =>
      rw [List.cons_append, tokens_cons rfl rfl]
      exact .null _
  | truth =>
      rw [List.cons_append, tokens_cons rfl rfl]
      exact .bool _ true
  | falsehood =>
      rw [List.cons_append, tokens_cons rfl rfl]
      exact .bool _ false
  | number numeral => exact numeral.begins hrest
  | str htext =>
      rw [htext.tokens_append]
      exact .str _ _
  | list hitems =>
      rw [List.cons_append, List.append_assoc, tokens_cons rfl rfl]
      exact .list _ hitems
  | object _ =>
      rw [List.cons_append, List.append_assoc, tokens_cons rfl rfl]
      exact .object _ _ _

/-- The bracket that ends a list or an object, and its token. -/
inductive Closes : Char → Token → Prop where
  | list : Closes ']' .closeList
  | object : Closes '}' .closeObject

section Items

variable {α : Type} {spells : α → List Char → Prop} {bracket : Char} {close : Token}

theorem Closes.tokens_cons (hcloses : Closes bracket close) (rest : List Char) :
    tokens (bracket :: rest) = .token (bracket :: rest) close rest (tokens rest) := by
  cases hcloses
  all_goals exact Json.tokens_cons rfl rfl

theorem Closes.endsNumber (hcloses : Closes bracket close) (rest : List Char) :
    EndsNumber (bracket :: rest) := by
  cases hcloses
  all_goals exact endsNumber_cons (by decide) rest

variable (spells bracket close) in
/-- The tokens behind an item: the closing bracket when no items are left, and else a comma and the
others. -/
inductive GoesOn (rest : List Char) : List α → Tokens → Prop where
  | closed (start : List Char) : GoesOn rest [] (.token start close rest (tokens rest))
  | comma (start : List Char) {next : α} {items : List α} {body : List Char}
      (hitems : Separated spells (next :: items) body) :
      GoesOn rest (next :: items)
        (.token start .comma (body ++ bracket :: rest) (tokens (body ++ bracket :: rest)))

theorem Separated.tokens_nil (hcloses : Closes bracket close) {body : List Char}
    (hitems : Separated spells [] body) (rest : List Char) :
    tokens (body ++ bracket :: rest) = .token (bracket :: rest) close rest (tokens rest) := by
  cases hitems with
  | none hblanks => rw [hblanks.tokens_append, hcloses.tokens_cons]

/-- The tokens of items that are separated by commas are those of the first one, with the others
behind it. -/
theorem Separated.exists_item (hcloses : Closes bracket close) {item : α} {items : List α}
    {body : List Char} (hitems : Separated spells (item :: items) body) (rest : List Char) :
    ∃ cs back ts, spells item cs ∧ EndsNumber back ∧
      tokens (body ++ bracket :: rest) = tokens (cs ++ back) ∧ tokens back = ts ∧
      GoesOn spells bracket close rest items ts := by
  cases hitems with
  | @one _ before cs after hbefore hitem hafter =>
      refine ⟨cs, after ++ bracket :: rest, _, hitem,
        hafter.endsNumber_append (hcloses.endsNumber rest), ?_, rfl, ?_⟩
      · simp only [List.append_assoc]
        rw [hbefore.tokens_append]
      · rw [hafter.tokens_append, hcloses.tokens_cons]
        exact .closed _
  | @more _ next items before cs after body hbefore hitem hafter hbody =>
      refine ⟨cs, after ++ ',' :: (body ++ bracket :: rest), _, hitem,
        hafter.endsNumber_append (endsNumber_cons (by decide) _), ?_, rfl, ?_⟩
      · simp only [List.append_assoc, List.cons_append]
        rw [hbefore.tokens_append]
      · rw [hafter.tokens_append, Json.tokens_cons rfl rfl]
        exact .comma _ hbody

/-- A member begins with its key. -/
theorem SpellsMember.exists_str {member : String × α} {cs : List Char}
    (hmember : SpellsMember spells member cs) (rest : List Char) :
    ∃ start s back more, tokens (cs ++ rest) = .token start (.str s) back more := by
  cases hmember with
  | member hname _ _ _ =>
      rw [List.append_assoc, hname.tokens_append]
      exact ⟨_, _, _, _, rfl⟩

end Items

end LintCorpus.Json
