/-!
Numerals: reading digits in a base up to a bound, and writing a number with leading padding.
-/

namespace LintCorpus.Text

/-- The largest line, column or tolerance: positions are words of 32 bits. -/
def maxPosition : Nat := 4294967295

/-- The largest byte offset: offsets are words of 64 bits. -/
def maxOffset : Nat := 18446744073709551615

/-- The value of an ASCII digit, with letters of either case for ten and above. -/
def digitValue? (c : Char) : Option Nat :=
  if '0' ≤ c ∧ c ≤ '9' then some (c.toNat - '0'.toNat)
  else if 'a' ≤ c ∧ c ≤ 'z' then some (c.toNat - 'a'.toNat + 10)
  else if 'A' ≤ c ∧ c ≤ 'Z' then some (c.toNat - 'A'.toNat + 10)
  else none

/-- The digit of a number below sixteen, in lower case. -/
def hexDigit (n : Nat) : Char :=
  if n < 10 then Char.ofNat (48 + n) else Char.ofNat (87 + n)

/-- The number written by the digits of `cs` after the number `value`. -/
def readDigits (base : Nat) (value : Nat) : List Char → Option Nat
  | [] => some value
  | c :: cs =>
      match digitValue? c with
      | some d => if d < base then readDigits base (base * value + d) cs else none
      | none => none

/-- The number that a non-empty text of digits writes. -/
def numeral? (base : Nat) (cs : List Char) : Option Nat :=
  if cs.isEmpty then none else readDigits base 0 cs

/-- The number that a text of digits writes, if it is at most `bound`. -/
def boundedNumeral? (base bound : Nat) (cs : List Char) : Option Nat :=
  (numeral? base cs).filter (· ≤ bound)

/-- The text with blanks before it up to `width` characters. -/
def padLeft (width : Nat) (s : String) : String :=
  String.ofList (List.replicate (width - s.length) ' ') ++ s

/-- The text with blanks after it up to `width` characters. -/
def padRight (width : Nat) (s : String) : String :=
  s ++ String.ofList (List.replicate (width - s.length) ' ')

end LintCorpus.Text
