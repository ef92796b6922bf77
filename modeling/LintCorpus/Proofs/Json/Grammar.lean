import Mathlib.Data.List.Forall2
import LintCorpus.Proofs.Text.Cut

/-!
The grammar of JSON: which texts spell a value (`Spells`), with any blanks between tokens, with
every escape that a character may have, and with numbers as they are written.  Nothing here refers
to how a text is read.
-/

namespace LintCorpus.Json

/-- The text may stand between tokens. -/
def IsBlanks (cs : List Char) : Prop :=
  ∀ c ∈ cs, c = ' ' ∨ c = '\t' ∨ c = '\n' ∨ c = '\r'

instance (cs : List Char) : Decidable (IsBlanks cs) :=
  List.decidableBAll (fun c => c = ' ' ∨ c = '\t' ∨ c = '\n' ∨ c = '\r') cs

/-- A hexadecimal digit, in either case, and its value. -/
def IsHexDigit (c : Char) (n : Nat) : Prop :=
  n < 16 ∧ (c = Text.hexDigit n ∨ c = (Text.hexDigit n).toUpper)

/-- Four hexadecimal digits write a unit of sixteen bits. -/
inductive SpellsUnit : Nat → List Char → Prop where
  | digits {a b c d : Char} {i j k l : Nat} (ha : IsHexDigit a i) (hb : IsHexDigit b j)
      (hc : IsHexDigit c k) (hd : IsHexDigit d l) :
      SpellsUnit (16 * (16 * (16 * i + j) + k) + l) [a, b, c, d]

/-- The characters that one character behind a backslash stands for. -/
def shortEscapes : List (Char × Char) :=
  [('"', '"'), ('\\', '\\'), ('/', '/'), ('b', Char.ofNat 8), ('f', Char.ofNat 12), ('n', '\n'),
    ('r', '\r'), ('t', '\t')]

/-- The ways to write a character between quotes. -/
inductive SpellsChar (c : Char) : List Char → Prop where
  | self (hcontrol : 32 ≤ c.toNat) (hquote : c ≠ '"') (hbackslash : c ≠ '\\') : SpellsChar c [c]
  | short {letter : Char} (hletter : (letter, c) ∈ shortEscapes) : SpellsChar c ['\\', letter]
  | unit {digits : List Char} (hdigits : SpellsUnit c.toNat digits) :
      SpellsChar c ('\\' :: 'u' :: digits)
  /-- A character beyond the units, by a leading and a trailing surrogate. -/
  | pair {high low : List Char} (hlarge : 0x10000 ≤ c.toNat)
      (hhigh : SpellsUnit (0xD800 + (c.toNat - 0x10000) / 0x400) high)
      (hlow : SpellsUnit (0xDC00 + (c.toNat - 0x10000) % 0x400) low) :
      SpellsChar c ('\\' :: 'u' :: high ++ '\\' :: 'u' :: low)

/-- A text in quotes, each of its characters written in one of its ways. -/
inductive SpellsText (s : String) : List Char → Prop where
  | quoted {parts : List (List Char)} (hparts : List.Forall₂ SpellsChar s.toList parts) :
      SpellsText s ('"' :: (parts.flatten ++ ['"']))

def IsDigits (cs : List Char) : Prop :=
  cs ≠ [] ∧ ∀ c ∈ cs, c.isDigit = true

instance (cs : List Char) : Decidable (IsDigits cs) :=
  decidable_of_iff (cs ≠ [] ∧ cs.all Char.isDigit = true)
    (and_congr_right fun _ => List.all_eq_true)

/-- A point with digits behind it, or nothing. -/
inductive IsFraction : List Char → Prop where
  | none : IsFraction []
  | point {ds : List Char} (hds : IsDigits ds) : IsFraction ('.' :: ds)

/-- The exponent of a number, or nothing. -/
inductive IsExponent : List Char → Prop where
  | none : IsExponent []
  | power {mark : Char} {sign ds : List Char} (hmark : mark = 'e' ∨ mark = 'E')
      (hsign : sign = [] ∨ sign = ['+'] ∨ sign = ['-']) (hds : IsDigits ds) :
      IsExponent (mark :: (sign ++ ds))

/-- A number as it is written. -/
structure Numeral where
  isNegative : Bool
  whole : List Char
  fraction : List Char
  exponent : List Char
  whole_digits : IsDigits whole
  /-- No digits follow a zero at the front. -/
  whole_front : ∀ d ds, whole ≠ '0' :: d :: ds
  fraction_form : IsFraction fraction
  exponent_form : IsExponent exponent

namespace Numeral

def text (numeral : Numeral) : List Char :=
  (if numeral.isNegative then ['-'] else []) ++
    (numeral.whole ++ (numeral.fraction ++ numeral.exponent))

/-- The numeral is the decimal digits of the number and nothing else. -/
structure IsNatural (numeral : Numeral) (n : Nat) : Prop where
  positive : numeral.isNegative = false
  writes : Text.Writes numeral.whole n
  fraction : numeral.fraction = []
  exponent : numeral.exponent = []

end Numeral

/-- A value as a text spells it: the members of an object stand in their order, and may repeat. -/
inductive Value where
  | null
  | bool (b : Bool)
  | number (numeral : Numeral)
  | str (s : String)
  | list (items : List Value)
  | object (members : List (String × Value))

section Parts

variable {α : Type} (spells : α → List Char → Prop)

/-- Items between commas, with blanks around each of them. -/
inductive Separated : List α → List Char → Prop where
  | none {blanks : List Char} (hblanks : IsBlanks blanks) : Separated [] blanks
  | one {item : α} {before cs after : List Char} (hbefore : IsBlanks before)
      (hitem : spells item cs) (hafter : IsBlanks after) :
      Separated [item] (before ++ (cs ++ after))
  | more {item next : α} {items : List α} {before cs after back : List Char}
      (hbefore : IsBlanks before) (hitem : spells item cs) (hafter : IsBlanks after)
      (hback : Separated (next :: items) back) :
      Separated (item :: next :: items) (before ++ (cs ++ (after ++ ',' :: back)))

/-- A key in quotes, a colon and a value, with blanks around the colon. -/
inductive SpellsMember : String × α → List Char → Prop where
  | member {key : String} {value : α} {name before after cs : List Char}
      (hname : SpellsText key name) (hbefore : IsBlanks before) (hafter : IsBlanks after)
      (hvalue : spells value cs) :
      SpellsMember (key, value) (name ++ (before ++ ':' :: (after ++ cs)))

end Parts

/-- The text is one of those that write the value. -/
inductive Spells : Value → List Char → Prop where
  | null : Spells .null ['n', 'u', 'l', 'l']
  | truth : Spells (.bool true) ['t', 'r', 'u', 'e']
  | falsehood : Spells (.bool false) ['f', 'a', 'l', 's', 'e']
  | number (numeral : Numeral) : Spells (.number numeral) numeral.text
  | str {s : String} {cs : List Char} (htext : SpellsText s cs) : Spells (.str s) cs
  | list {items : List Value} {body : List Char} (hitems : Separated Spells items body) :
      Spells (.list items) ('[' :: (body ++ [']']))
  | object {members : List (String × Value)} {body : List Char}
      (hmembers : Separated (SpellsMember Spells) members body) :
      Spells (.object members) ('{' :: (body ++ ['}']))

/-- The value, with blanks before and behind it, is the whole text. -/
inductive IsDocument (value : Value) : List Char → Prop where
  | document {before cs after : List Char} (hbefore : IsBlanks before) (hvalue : Spells value cs)
      (hafter : IsBlanks after) : IsDocument value (before ++ (cs ++ after))

end LintCorpus.Json
