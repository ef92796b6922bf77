import LintCorpus.Number
import LintCorpus.Text.Basic
import LintCorpus.Text.Numeral

/-!
The tokens of a JSON text.  Reading goes on up to the end of the text or to the first token that is
broken; what a broken token means is left to whoever reads that far, so that an error of an earlier
value comes first.

Places are told by what is left of the text, and become lines and columns only in a message.
-/

namespace LintCorpus.Json

/-- What can be wrong with the form of a text. -/
inductive Fault where
  | endInList
  | endInObject
  | endInString
  | endInValue
  | expectedColon
  | expectedListCommaOrEnd
  | expectedObjectCommaOrEnd
  | expectedIdent
  | expectedValue
  | invalidEscape
  | invalidNumber
  | numberOutOfRange
  | controlCharacter
  | keyNotString
  | loneSurrogate
  | trailingComma
  | trailingCharacters
  | unfinishedSurrogates
deriving DecidableEq, Repr

namespace Fault

/-- The text broke off. -/
def isEnd : Fault → Bool
  | endInList | endInObject | endInString | endInValue => true
  | _ => false

def message : Fault → String
  | endInList => "EOF while parsing a list"
  | endInObject => "EOF while parsing an object"
  | endInString => "EOF while parsing a string"
  | endInValue => "EOF while parsing a value"
  | expectedColon => "expected `:`"
  | expectedListCommaOrEnd => "expected `,` or `]`"
  | expectedObjectCommaOrEnd => "expected `,` or `\x7d`"
  | expectedIdent => "expected ident"
  | expectedValue => "expected value"
  | invalidEscape => "invalid escape"
  | invalidNumber => "invalid number"
  | numberOutOfRange => "number out of range"
  | controlCharacter => "control character (\\u0000-\\u001F) found while parsing a string"
  | keyNotString => "key must be a string"
  | loneSurrogate => "lone leading surrogate in hex escape"
  | trailingComma => "trailing comma"
  | trailingCharacters => "trailing characters"
  | unfinishedSurrogates => "unexpected end of hex escape"

end Fault

/-- A place in a text: some bytes into what is left of it. -/
structure Place where
  rest : List Char
  bytes : Nat
deriving DecidableEq, Repr

/-- A line, counted from one, and the bytes of it that lie before a place. -/
structure Mark where
  line : Nat
  column : Nat
deriving DecidableEq, Repr

/-- The mark that lies so many bytes behind `mark`, where `cs` stands. -/
def Mark.forward (mark : Mark) : (bytes : Nat) → List Char → Mark
  | _, [] => mark
  | bytes, c :: cs =>
      if bytes < c.utf8Size then ⟨mark.line, mark.column + bytes⟩
      else
        let next : Mark :=
          if c = '\n' then ⟨mark.line + 1, 0⟩ else ⟨mark.line, mark.column + c.utf8Size⟩
        next.forward (bytes - c.utf8Size) cs

def Place.mark (place : Place) (text : List Char) : Mark :=
  (Mark.mk 1 0).forward (Text.byteLength text - Text.byteLength place.rest + place.bytes) text

/-- A fault and its place. -/
structure Trouble where
  fault : Fault
  place : Place
deriving DecidableEq, Repr

/-- A number as it is written: without a fraction and an exponent it is an integer, unless it needs
more than 64 bits or is a negative zero. -/
inductive Number where
  | nat (n : Nat)
  /-- The integer below zero with this absolute value. -/
  | negative (n : Nat)
  | binary (isNegative : Bool) (x : Binary64)
deriving DecidableEq, Repr

inductive Token where
  | openList
  | closeList
  | openObject
  | closeObject
  | comma
  | colon
  | null
  | bool (b : Bool)
  | number (n : Number)
  | str (s : String)
deriving DecidableEq, Repr

/-- The number that four hexadecimal digits write. -/
def fourDigits? (a b c d : Char) : Option Nat :=
  Text.numeral? 16 [a, b, c, d]

/-- The unit of sixteen bits that the four digits at the front write.  Digits are counted in bytes,
so that fewer than four bytes are an end of the text and not a wrong digit. -/
def hexUnit (cs : List Char) : Except Trouble (Nat × List Char) :=
  if Text.byteLength cs < 4 then .error ⟨.endInString, [], 0⟩
  else
    match cs with
    | a :: b :: c :: d :: rest =>
        match fourDigits? a b c d with
        | some n => .ok (n, rest)
        | none => .error ⟨.invalidEscape, cs, 4⟩
    | _ => .error ⟨.invalidEscape, cs, 4⟩

/-- Passes over one character that has to stand here, inside a pair of surrogates. -/
def surrogateMark (mark : Char) : List Char → Except Trouble (List Char)
  | [] => .error ⟨.endInString, [], 0⟩
  | c :: rest => if c = mark then .ok rest else .error ⟨.unfinishedSurrogates, c :: rest, 1⟩

/-- The character of a leading surrogate, whose trailing one is written in `cs`. -/
def trailingSurrogate (high : Nat) (cs : List Char) : Except Trouble (Char × List Char) :=
  match surrogateMark '\\' cs with
  | .error trouble => .error trouble
  | .ok rest =>
      match surrogateMark 'u' rest with
      | .error trouble => .error trouble
      | .ok rest =>
          match hexUnit rest with
          | .error trouble => .error trouble
          | .ok (low, rest) =>
              if 0xDC00 ≤ low ∧ low ≤ 0xDFFF then
                .ok (Char.ofNat (0x10000 + (high - 0xD800) * 0x400 + (low - 0xDC00)), rest)
              else .error ⟨.loneSurrogate, rest, 0⟩

/-- The character behind `\u`: one unit, or a leading and a trailing surrogate. -/
def unicodeEscape (cs : List Char) : Except Trouble (Char × List Char) :=
  match hexUnit cs with
  | .error trouble => .error trouble
  | .ok (unit, rest) =>
      if 0xDC00 ≤ unit ∧ unit ≤ 0xDFFF then .error ⟨.loneSurrogate, rest, 0⟩
      else if 0xD800 ≤ unit ∧ unit ≤ 0xDBFF then trailingSurrogate unit rest
      else .ok (Char.ofNat unit, rest)

/-- The character that stands behind a backslash. -/
def escaped : List Char → Except Trouble (Char × List Char)
  | [] => .error ⟨.endInString, [], 0⟩
  | '"' :: rest => .ok ('"', rest)
  | '\\' :: rest => .ok ('\\', rest)
  | '/' :: rest => .ok ('/', rest)
  | 'b' :: rest => .ok (Char.ofNat 8, rest)
  | 'f' :: rest => .ok (Char.ofNat 12, rest)
  | 'n' :: rest => .ok ('\n', rest)
  | 'r' :: rest => .ok ('\r', rest)
  | 't' :: rest => .ok ('\t', rest)
  | 'u' :: rest => unicodeEscape rest
  | c :: rest => .error ⟨.invalidEscape, c :: rest, 1⟩

theorem length_of_hexUnit {cs rest : List Char} {n : Nat} (h : hexUnit cs = .ok (n, rest)) :
    rest.length < cs.length := by
  unfold hexUnit at h
  split at h
  · cases h
  · split at h
    · split at h
      · cases h
        simp only [List.length_cons]
        omega
      · cases h
    · cases h

theorem length_of_surrogateMark {mark : Char} {cs rest : List Char}
    (h : surrogateMark mark cs = .ok rest) : rest.length < cs.length := by
  cases cs with
  | nil => cases h
  | cons c cs =>
      simp only [surrogateMark] at h
      split at h
      · cases h
        simp
      · cases h

theorem length_of_trailingSurrogate {high : Nat} {cs rest : List Char} {c : Char}
    (h : trailingSurrogate high cs = .ok (c, rest)) : rest.length < cs.length := by
  unfold trailingSurrogate at h
  split at h
  · simp at h
  · rename_i h₁
    split at h
    · simp at h
    · rename_i h₂
      split at h
      · simp at h
      · rename_i h₃
        have hfirst := length_of_surrogateMark h₁
        have hsecond := length_of_surrogateMark h₂
        have hunit := length_of_hexUnit h₃
        split at h
        · simp only [Except.ok.injEq, Prod.mk.injEq] at h
          obtain ⟨-, rfl⟩ := h
          omega
        · simp at h

theorem length_of_unicodeEscape {cs rest : List Char} {c : Char}
    (h : unicodeEscape cs = .ok (c, rest)) : rest.length < cs.length := by
  unfold unicodeEscape at h
  split at h
  · simp at h
  · rename_i h₁
    have hunit := length_of_hexUnit h₁
    split at h
    · simp at h
    · split at h
      · have htrailing := length_of_trailingSurrogate h
        omega
      · simp only [Except.ok.injEq, Prod.mk.injEq] at h
        obtain ⟨-, rfl⟩ := h
        omega

theorem length_of_escaped {cs rest : List Char} {c : Char}
    (h : escaped cs = .ok (c, rest)) : rest.length < cs.length := by
  unfold escaped at h
  split at h
  case h_10 =>
    have hescape := length_of_unicodeEscape h
    simp only [List.length_cons]
    omega
  all_goals
    first
    | simp only [Except.ok.injEq, Prod.mk.injEq] at h
      obtain ⟨-, rfl⟩ := h
      simp
    | simp at h

/-- The characters up to the closing quote, and what follows it. -/
def scanText (cs : List Char) : Except Trouble (List Char × List Char) :=
  match cs with
  | [] => .error ⟨.endInString, [], 0⟩
  | '"' :: rest => .ok ([], rest)
  | '\\' :: rest =>
      match _h : escaped rest with
      | .error trouble => .error trouble
      | .ok (c, rest) => (scanText rest).map fun p => (c :: p.1, p.2)
  | c :: rest =>
      if c.toNat < 32 then .error ⟨.controlCharacter, rest, 0⟩
      else (scanText rest).map fun p => (c :: p.1, p.2)
termination_by cs.length
decreasing_by
  · have hescaped := length_of_escaped _h
    simp only [List.length_cons]
    omega
  · simp

theorem length_of_scanText {cs rest text : List Char} (h : scanText cs = .ok (text, rest)) :
    rest.length < cs.length := by
  fun_induction scanText cs generalizing text with
  | case1 => simp at h
  | case2 tail => simp_all
  | case3 tail trouble _ => simp at h
  | case4 tail c tail' hc ih =>
      cases hs : scanText tail' with
      | error e => simp [hs, Except.map] at h
      | ok p =>
          simp only [hs, Except.map, Except.ok.injEq, Prod.mk.injEq] at h
          have hrest := ih (hs.trans (by rw [← h.2]))
          have hescaped := length_of_escaped hc
          simp only [List.length_cons]
          omega
  | case5 => simp at h
  | case6 c tail _ _ _ ih =>
      cases hs : scanText tail with
      | error e => simp [hs, Except.map] at h
      | ok p =>
          simp only [hs, Except.map, Except.ok.injEq, Prod.mk.injEq] at h
          have hrest := ih (hs.trans (by rw [← h.2]))
          simp only [List.length_cons]
          omega

/-- The leading decimal digits and what follows them. -/
def digits (cs : List Char) : List Char × List Char :=
  (cs.takeWhile Char.isDigit, cs.dropWhile Char.isDigit)

theorem length_digits (cs : List Char) : (digits cs).2.length ≤ cs.length := by
  simpa [digits] using (List.dropWhile_suffix Char.isDigit (l := cs)).length_le

/-- Appends digits to a significand for as long as it fits into 64 bits, and counts the digits that
are left over. -/
def appendDigits (significand : Nat) : List Char → Nat × Nat
  | [] => (significand, 0)
  | c :: cs =>
      let next := 10 * significand + (c.toNat - '0'.toNat)
      if next ≤ Text.maxOffset then appendDigits next cs else (significand, (c :: cs).length)

/-- The largest power of ten by which one step scales. -/
def largestPower : Nat := 308

def powerOfTen (exponent : Nat) : Binary64 :=
  .nearest ⟨Nat.pow 10 exponent, 1⟩

/-- A significand times a power of ten, in steps that are rounded one by one; there is none when the
number is too large.  Five steps bring every significand down to zero. -/
def scaled? (x : Binary64) (exponent : Int) : (steps : Nat) → Option Binary64
  | 0 => some .zero
  | steps + 1 =>
      if exponent.natAbs ≤ largestPower then
        if 0 ≤ exponent then
          let y := x.mul (powerOfTen exponent.toNat)
          if y.isInfinite then none else some y
        else some (x.div (powerOfTen exponent.natAbs))
      else if x.mantissa = 0 then some x
      else if 0 ≤ exponent then none
      else scaled? (x.div (powerOfTen largestPower)) (exponent + largestPower) steps

/-- The significand of a number, the power of ten it is scaled by, and what is left of the text. -/
structure Parts where
  significand : Nat
  exponent : Int
  rest : List Char
deriving DecidableEq, Repr

def Parts.number (parts : Parts) (isNegative : Bool) : Except Trouble (Number × List Char) :=
  match scaled? (.nearest ⟨parts.significand, 1⟩) parts.exponent 6 with
  | some x => .ok (.binary isNegative x, parts.rest)
  | none => .error ⟨.numberOutOfRange, parts.rest, 0⟩

/-- The largest exponent that is read. -/
def maxExponent : Nat := 2147483647

/-- The exponent that the digits write; the place behind the digit with which it grows too large is
told by the digits left over. -/
def readExponent (exponent : Nat) : List Char → Nat ⊕ List Char
  | [] => .inl exponent
  | c :: cs =>
      let next := 10 * exponent + (c.toNat - '0'.toNat)
      if next ≤ maxExponent then readExponent next cs else .inr cs

def exponentDigits (isNegative negativeExponent : Bool) (parts : Parts) (cs : List Char) :
    Except Trouble (Number × List Char) :=
  match digits cs with
  | ([], []) => .error ⟨.endInValue, [], 0⟩
  | ([], rest) => .error ⟨.invalidNumber, rest, 1⟩
  | (ds, rest) =>
      match readExponent 0 ds with
      | .inl exponent =>
          let exponent := if negativeExponent then -(exponent : Int) else exponent
          Parts.number ⟨parts.significand, parts.exponent + exponent, rest⟩ isNegative
      | .inr left =>
          if parts.significand ≠ 0 ∧ !negativeExponent then
            .error ⟨.numberOutOfRange, left ++ rest, 0⟩
          else .ok (.binary isNegative .zero, rest)

/-- Reads what follows the `e` of an exponent. -/
def exponentPart (isNegative : Bool) (parts : Parts) : Except Trouble (Number × List Char) :=
  match parts.rest with
  | '-' :: cs => exponentDigits isNegative true parts cs
  | '+' :: cs => exponentDigits isNegative false parts cs
  | cs => exponentDigits isNegative false parts cs

/-- Reads an exponent, if there is one. -/
def exponent? (isNegative : Bool) (parts : Parts) : Except Trouble (Number × List Char) :=
  match parts.rest with
  | 'e' :: rest => exponentPart isNegative { parts with rest := rest }
  | 'E' :: rest => exponentPart isNegative { parts with rest := rest }
  | _ => parts.number isNegative

/-- Reads what follows the point of a fraction. -/
def fractionPart (isNegative : Bool) (parts : Parts) : Except Trouble (Number × List Char) :=
  match digits parts.rest with
  | ([], []) => .error ⟨.endInValue, [], 0⟩
  | ([], rest) => .error ⟨.invalidNumber, rest, 1⟩
  | (ds, rest) =>
      let (significand, left) := appendDigits parts.significand ds
      exponent? isNegative ⟨significand, parts.exponent - (ds.length - left : Nat), rest⟩

/-- The integer with these digits, if it is one of 64 bits. -/
def integer? (isNegative : Bool) (n : Nat) : Number :=
  if !isNegative then .nat n
  else if n = 0 ∨ Nat.pow 2 63 < n then .binary true (.nearest ⟨n, 1⟩)
  else .negative n

def integerPart (isNegative : Bool) (parts : Parts) : Except Trouble (Number × List Char) :=
  match parts.rest with
  | '.' :: rest => fractionPart isNegative { parts with rest := rest }
  | 'e' :: _ => exponent? isNegative parts
  | 'E' :: _ => exponent? isNegative parts
  | _ =>
      if parts.exponent = 0 then .ok (integer? isNegative parts.significand, parts.rest)
      else parts.number isNegative

/-- Reads a number behind its sign. -/
def scanNumber (isNegative : Bool) (cs : List Char) : Except Trouble (Number × List Char) :=
  match digits cs with
  | ([], []) => .error ⟨.endInValue, [], 0⟩
  | ([], rest) => .error ⟨.invalidNumber, rest, 1⟩
  | ('0' :: d :: ds, rest) => .error ⟨.invalidNumber, d :: ds ++ rest, 1⟩
  | (ds, rest) =>
      let (significand, left) := appendDigits 0 ds
      integerPart isNegative ⟨significand, left, rest⟩

theorem rest_of_number {parts : Parts} {isNegative : Bool} {n : Number} {rest : List Char}
    (h : parts.number isNegative = .ok (n, rest)) : rest = parts.rest := by
  unfold Parts.number at h
  split at h
  · simp only [Except.ok.injEq, Prod.mk.injEq] at h
    exact h.2.symm
  · simp at h

theorem length_of_exponentPart {parts : Parts} {isNegative : Bool} {n : Number} {rest : List Char}
    (h : exponentPart isNegative parts = .ok (n, rest)) : rest.length ≤ parts.rest.length := by
  have key : ∀ (negativeExponent : Bool) (cs : List Char), cs.length ≤ parts.rest.length →
      exponentDigits isNegative negativeExponent parts cs = .ok (n, rest) →
      rest.length ≤ parts.rest.length := by
    intro negativeExponent cs hcs hd
    have hlen := length_digits cs
    unfold exponentDigits at hd
    split at hd
    · simp at hd
    · simp at hd
    · rename_i ds left heq
      rw [heq] at hlen
      split at hd
      · rw [rest_of_number hd]
        exact Nat.le_trans hlen hcs
      · split at hd
        · simp at hd
        · simp only [Except.ok.injEq, Prod.mk.injEq] at hd
          rw [← hd.2]
          exact Nat.le_trans hlen hcs
  unfold exponentPart at h
  split at h <;> rename_i heq
  · exact key _ _ (by rw [heq]; simp) h
  · exact key _ _ (by rw [heq]; simp) h
  · exact key _ _ (Nat.le_refl _) h

theorem length_of_exponent? {parts : Parts} {isNegative : Bool} {n : Number} {rest : List Char}
    (h : exponent? isNegative parts = .ok (n, rest)) : rest.length ≤ parts.rest.length := by
  unfold exponent? at h
  split at h
  · rename_i heq
    have hexponent := length_of_exponentPart h
    rw [heq]
    exact Nat.le_succ_of_le hexponent
  · rename_i heq
    have hexponent := length_of_exponentPart h
    rw [heq]
    exact Nat.le_succ_of_le hexponent
  · exact Nat.le_of_eq (congrArg List.length (rest_of_number h))

theorem length_of_fractionPart {parts : Parts} {isNegative : Bool} {n : Number} {rest : List Char}
    (h : fractionPart isNegative parts = .ok (n, rest)) : rest.length ≤ parts.rest.length := by
  have hlen := length_digits parts.rest
  unfold fractionPart at h
  split at h
  · simp at h
  · simp at h
  · rename_i ds left heq
    rw [heq] at hlen
    exact Nat.le_trans (length_of_exponent? h) hlen

theorem length_of_integerPart {parts : Parts} {isNegative : Bool} {n : Number} {rest : List Char}
    (h : integerPart isNegative parts = .ok (n, rest)) : rest.length ≤ parts.rest.length := by
  unfold integerPart at h
  split at h
  · rename_i heq
    have hfraction := length_of_fractionPart h
    rw [heq]
    exact Nat.le_succ_of_le hfraction
  · exact length_of_exponent? h
  · exact length_of_exponent? h
  · split at h
    · simp only [Except.ok.injEq, Prod.mk.injEq] at h
      exact Nat.le_of_eq (congrArg List.length h.2.symm)
    · exact Nat.le_of_eq (congrArg List.length (rest_of_number h))

theorem length_of_scanNumber {isNegative : Bool} {cs rest : List Char} {n : Number}
    (h : scanNumber isNegative cs = .ok (n, rest)) : rest.length < cs.length := by
  have hsplit : (digits cs).1 ++ (digits cs).2 = cs := List.takeWhile_append_dropWhile
  have hlen := congrArg List.length hsplit
  rw [List.length_append] at hlen
  unfold scanNumber at h
  split at h
  · simp at h
  · simp at h
  · simp at h
  · rename_i ds left hne hne' _ heq
    have hpos : 0 < ds.length := by
      cases ds with
      | nil =>
          cases left with
          | nil => exact (hne rfl rfl).elim
          | cons c cs => exact (hne' rfl).elim
      | cons => simp
    have hle := length_of_integerPart h
    rw [heq] at hlen
    simp only at hlen hle
    omega

/-- Reads the rest of a word. -/
def scanWord (token : Token) : (word cs : List Char) → Except Trouble (Token × List Char)
  | [], cs => .ok (token, cs)
  | _ :: _, [] => .error ⟨.endInValue, [], 0⟩
  | w :: word, c :: cs =>
      if w = c then scanWord token word cs else .error ⟨.expectedIdent, c :: cs, 1⟩

/-- Reads one token from a text that does not begin with a blank. -/
def scanToken : List Char → Except Trouble (Token × List Char)
  | [] => .error ⟨.endInValue, [], 0⟩
  | '[' :: rest => .ok (.openList, rest)
  | ']' :: rest => .ok (.closeList, rest)
  | '{' :: rest => .ok (.openObject, rest)
  | '}' :: rest => .ok (.closeObject, rest)
  | ',' :: rest => .ok (.comma, rest)
  | ':' :: rest => .ok (.colon, rest)
  | 'n' :: rest => scanWord .null ['u', 'l', 'l'] rest
  | 't' :: rest => scanWord (.bool true) ['r', 'u', 'e'] rest
  | 'f' :: rest => scanWord (.bool false) ['a', 'l', 's', 'e'] rest
  | '"' :: rest => (scanText rest).map fun p => (.str (String.ofList p.1), p.2)
  | '-' :: rest => (scanNumber true rest).map fun p => (.number p.1, p.2)
  | c :: rest =>
      if c.isDigit then (scanNumber false (c :: rest)).map fun p => (.number p.1, p.2)
      else .error ⟨.expectedValue, c :: rest, 1⟩

def isBlank (c : Char) : Bool :=
  c = ' ' || c = '\t' || c = '\n' || c = '\r'

/-- The tokens of a text, each with what is left of the text before and behind it. -/
inductive Tokens where
  /-- Nothing but blanks is left. -/
  | done
  /-- A token is broken, or no token begins here. -/
  | broken (start : List Char) (trouble : Trouble)
  | token (start : List Char) (token : Token) (rest : List Char) (more : Tokens)
deriving DecidableEq, Repr

theorem length_of_scanWord {token t : Token} {word cs rest : List Char}
    (h : scanWord token word cs = .ok (t, rest)) : rest.length ≤ cs.length := by
  induction word generalizing cs with
  | nil =>
      simp only [scanWord, Except.ok.injEq, Prod.mk.injEq] at h
      exact Nat.le_of_eq (congrArg List.length h.2.symm)
  | cons w word ih =>
      cases cs with
      | nil => simp [scanWord] at h
      | cons c cs =>
          simp only [scanWord] at h
          split at h
          · exact Nat.le_succ_of_le (ih h)
          · simp at h

theorem ok_of_map {α β ε : Type} {f : α → β} {x : Except ε α} {b : β} (h : x.map f = .ok b) :
    ∃ a, x = .ok a ∧ f a = b := by
  cases x with
  | error e => simp [Except.map] at h
  | ok a => exact ⟨a, rfl, by simpa [Except.map] using h⟩

theorem length_of_scanToken {cs rest : List Char} {t : Token}
    (h : scanToken cs = .ok (t, rest)) : rest.length < cs.length := by
  unfold scanToken at h
  split at h
  case h_1 => simp at h
  case h_8 => exact Nat.lt_succ_of_le (length_of_scanWord h)
  case h_9 => exact Nat.lt_succ_of_le (length_of_scanWord h)
  case h_10 => exact Nat.lt_succ_of_le (length_of_scanWord h)
  case h_11 =>
    obtain ⟨⟨text, tail⟩, hp, hq⟩ := ok_of_map h
    simp only [Prod.mk.injEq] at hq
    have htext := length_of_scanText hp
    rw [← hq.2]
    exact Nat.lt_succ_of_lt htext
  case h_12 =>
    obtain ⟨⟨n, tail⟩, hp, hq⟩ := ok_of_map h
    simp only [Prod.mk.injEq] at hq
    have hnumber := length_of_scanNumber hp
    rw [← hq.2]
    exact Nat.lt_succ_of_lt hnumber
  case h_13 =>
    split at h
    · obtain ⟨⟨n, tail⟩, hp, hq⟩ := ok_of_map h
      simp only [Prod.mk.injEq] at hq
      rw [← hq.2]
      exact length_of_scanNumber hp
    · simp at h
  all_goals
    simp only [Except.ok.injEq, Prod.mk.injEq] at h
    obtain ⟨-, rfl⟩ := h
    simp

/-- The number of tokens before the end or the broken one. -/
def Tokens.count : Tokens → Nat
  | .done => 0
  | .broken _ _ => 0
  | .token _ _ _ more => more.count + 1

def tokens (cs : List Char) : Tokens :=
  let start := cs.dropWhile isBlank
  if start.isEmpty then .done
  else
    match _h : scanToken start with
    | .error trouble => .broken start trouble
    | .ok (token, rest) => .token start token rest (tokens rest)
termination_by cs.length
decreasing_by
  exact Nat.lt_of_lt_of_le (length_of_scanToken _h) (List.dropWhile_suffix _).length_le

end LintCorpus.Json
