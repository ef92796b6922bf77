/-!
Numbers: ratios of natural numbers, kept exactly, the binary numbers of 64 bits, and their shortest
decimals.

A binary number is a mantissa of at most 53 bits times a power of two whose exponent is at least
-1074.  Every operation gives the nearest such number, with ties to the even mantissa.

The shortest decimal of a binary number has the fewest digits that read back as the number, and of
those the digits nearest to it.  Numbers from `0.00001` up to sixteen digits before the point are
written out, with one digit at least behind the point.  All others have an exponent with a sign.
-/

namespace LintCorpus

/-- A ratio of two numbers.  The denominator is not zero where one is built. -/
structure Ratio where
  num : Nat
  den : Nat
deriving DecidableEq, Repr

namespace Ratio

def scale (r : Ratio) (base : Nat) (exponent : Int) : Ratio :=
  if 0 ≤ exponent then ⟨r.num * Nat.pow base exponent.toNat, r.den⟩
  else ⟨r.num, r.den * Nat.pow base (-exponent).toNat⟩

/-- The largest natural number that is not above the ratio. -/
def floor (r : Ratio) : Nat :=
  r.num / r.den

/-- The nearest natural number; of two equally near ones the even one. -/
def round (r : Ratio) : Nat :=
  let rest := 2 * (r.num % r.den)
  if rest < r.den then r.floor
  else if r.den < rest then r.floor + 1
  else r.floor + r.floor % 2

def below (a b : Ratio) : Bool :=
  a.num * b.den < b.num * a.den

def fixed (r : Ratio) (places : Nat) : String :=
  let digits := (toString (r.scale 10 places).round).toList
  let digits := List.replicate (places + 1 - digits.length) '0' ++ digits
  let whole := digits.take (digits.length - places)
  let fraction := digits.drop (digits.length - places)
  String.ofList (if places = 0 then whole else whole ++ '.' :: fraction)

end Ratio

/-- The number `mantissa * 2 ^ exponent`. -/
structure Binary64 where
  mantissa : Nat
  exponent : Int
deriving DecidableEq, Repr

namespace Binary64

def leastExponent : Int := -1074

/-- The largest exponent of a finite number. -/
def greatestExponent : Int := 971

/-- The least mantissa of a number that has all its bits. -/
def fullMantissa : Nat := Nat.pow 2 52

def zero : Binary64 := ⟨0, leastExponent⟩

/-- The exact value. -/
def toRatio (x : Binary64) : Ratio :=
  Ratio.scale ⟨x.mantissa, 1⟩ 2 x.exponent

/-- The exponent with which the mantissa of a positive ratio has 53 bits, or the least exponent when
that is larger. -/
def exponentOf (r : Ratio) : Int :=
  let low : Int := (r.num.log2 : Int) - (r.den.log2 : Int) - 53
  let fitting := if (r.scale 2 (-low)).floor < 2 * fullMantissa then low else low + 1
  max fitting leastExponent

def nearest (r : Ratio) : Binary64 :=
  if r.num = 0 then zero
  else
    let exponent := exponentOf r
    let mantissa := (r.scale 2 (-exponent)).round
    if mantissa = 2 * fullMantissa then ⟨fullMantissa, exponent + 1⟩ else ⟨mantissa, exponent⟩

/-- The number lies behind the largest finite one. -/
def isInfinite (x : Binary64) : Bool :=
  greatestExponent < x.exponent

/-- The product, rounded. -/
def mul (x y : Binary64) : Binary64 :=
  let a := x.toRatio
  let b := y.toRatio
  nearest ⟨a.num * b.num, a.den * b.den⟩

/-- The quotient by a positive number, rounded. -/
def div (x y : Binary64) : Binary64 :=
  let a := x.toRatio
  let b := y.toRatio
  nearest ⟨a.num * b.den, a.den * b.num⟩

end Binary64

/-- The number `digits * 10 ^ exponent`. -/
structure Scientific where
  digits : Nat
  exponent : Int
deriving DecidableEq, Repr

namespace Binary64

/-- The ratios between which everything reads back as the number. -/
structure Rounding where
  low : Ratio
  high : Ratio
  /-- The ends themselves read back as the number. -/
  closed : Bool
deriving DecidableEq, Repr

/-- The interval of ratios that read back as a positive number.  Below a number with the least
full mantissa the neighbours lie twice as close. -/
def rounding (x : Binary64) : Rounding where
  low :=
    if x.mantissa = fullMantissa ∧ x.exponent ≠ leastExponent then
      Ratio.scale ⟨4 * x.mantissa - 1, 1⟩ 2 (x.exponent - 2)
    else Ratio.scale ⟨2 * x.mantissa - 1, 1⟩ 2 (x.exponent - 1)
  high := Ratio.scale ⟨2 * x.mantissa + 1, 1⟩ 2 (x.exponent - 1)
  closed := x.mantissa % 2 = 0

/-- The ratio reads back as the number. -/
def Rounding.holds (rounding : Rounding) (r : Ratio) : Bool :=
  (rounding.low.below r && r.below rounding.high) ||
    (rounding.closed && !r.below rounding.low && !rounding.high.below r)

/-- The power of ten of the first digit of a positive ratio below one, where `places` of the places
behind the point are known to be zero. -/
def leadingPlace (fuel : Nat) (places : Nat) (r : Ratio) : Int :=
  match fuel with
  | 0 => -(places : Int)
  | fuel + 1 =>
      if r.num < r.den then leadingPlace fuel (places + 1) (r.scale 10 1) else -(places : Int)

/-- The power of ten of the first digit of a positive ratio. -/
def leadingPower (r : Ratio) : Int :=
  if r.den ≤ r.num then ((toString r.floor).length : Int) - 1 else leadingPlace 400 0 r

/-- A decimal that reads back as the number, among the two neighbours of the number with the last
digit at `10 ^ power`. -/
def onGrid? (x : Binary64) (power : Int) : Option Scientific :=
  let value := x.toRatio.scale 10 (-power)
  let low := value.floor
  let fits (n : Nat) := x.rounding.holds (Ratio.scale ⟨n, 1⟩ 10 power)
  let near := value.round
  let far := if near = low then low + 1 else low
  if fits near then some ⟨near, power⟩
  else if fits far then some ⟨far, power⟩
  else none

/-- The decimal with the fewest digits, from `count` digits on. -/
def shortestFrom (x : Binary64) (leading : Int) : (fuel count : Nat) → Scientific
  | 0, _ => ⟨0, 0⟩
  | fuel + 1, count =>
      match onGrid? x (leading - count) with
      | some decimal => decimal
      | none => shortestFrom x leading fuel (count + 1)

end Binary64

/-- The number without zeros at the end of its digits. -/
def Scientific.trimmed (fuel : Nat) (d : Scientific) : Scientific :=
  match fuel with
  | 0 => d
  | fuel + 1 =>
      if d.digits ≠ 0 ∧ d.digits % 10 = 0 then
        Scientific.trimmed fuel ⟨d.digits / 10, d.exponent + 1⟩
      else d

/-- The shortest decimal of a number. -/
def Binary64.shortest (x : Binary64) : Scientific :=
  if x.mantissa = 0 then ⟨0, 0⟩
  else (x.shortestFrom (leadingPower x.toRatio) 17 0).trimmed 20

def exponentText (exponent : Int) : List Char :=
  (if exponent < 0 then '-' else '+') :: (toString exponent.natAbs).toList

def Scientific.text (d : Scientific) : String :=
  let digits := (toString d.digits).toList
  let length := digits.length
  let point := (length : Int) + d.exponent
  let zeros (n : Int) := List.replicate n.toNat '0'
  String.ofList <|
    if d.digits = 0 then ['0', '.', '0']
    else if 0 ≤ d.exponent ∧ point ≤ 16 then digits ++ zeros d.exponent ++ ['.', '0']
    else if 0 < point ∧ point ≤ 16 then
      digits.take point.toNat ++ '.' :: digits.drop point.toNat
    else if -5 < point ∧ point ≤ 0 then '0' :: '.' :: (zeros (-point) ++ digits)
    else
      let power := 'e' :: exponentText (point - 1)
      match digits with
      | [digit] => digit :: power
      | digit :: rest => digit :: '.' :: (rest ++ power)
      | [] => []

/-- The decimal written out, with one digit at least behind the point. -/
def Scientific.positional (d : Scientific) : String :=
  let digits := (toString d.digits).toList
  let point := (digits.length : Int) + d.exponent
  let zeros (n : Int) := List.replicate n.toNat '0'
  String.ofList <|
    if d.digits = 0 then ['0', '.', '0']
    else if 0 ≤ d.exponent then digits ++ zeros d.exponent ++ ['.', '0']
    else if 0 < point then digits.take point.toNat ++ '.' :: digits.drop point.toNat
    else '0' :: '.' :: (zeros (-point) ++ digits)

/-- The shortest decimal text that reads back as the number. -/
def Binary64.text (x : Binary64) : String :=
  x.shortest.text

end LintCorpus
