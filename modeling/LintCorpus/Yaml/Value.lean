import LintCorpus.Number
import LintCorpus.Text.Quoted
import LintCorpus.Text.Basic
import LintCorpus.Yaml.Property
import LintCorpus.Yaml.Scalar

/-!
What a scalar stands for.  A plain scalar may be nothing, a truth value or a number, by its form or
by its tag; every other scalar is a text.
-/

namespace LintCorpus.Yaml

inductive Value where
  | null
  | bool (b : Bool)
  /-- An integer that is not negative. -/
  | nat (n : Nat)
  /-- An integer with a minus sign, by its absolute value. -/
  | minus (n : Nat)
  /-- A number that is no integer, as it is written in messages. -/
  | float (shown : String)
  | text (s : String)
deriving DecidableEq, Repr

/-- The largest integer of 64 bits below zero, by its absolute value. -/
def maxNegative : Nat := Nat.pow 2 63

/-- The value in a message about a value of another kind. -/
def Value.describe : Value → String
  | null => "unit value"
  | bool b => "boolean `" ++ (if b then "true" else "false") ++ "`"
  | nat n =>
      if n ≤ Text.maxOffset then "integer `" ++ toString n ++ "`"
      else "integer `" ++ toString n ++ "` as u128"
  | minus 0 => "integer `0`"
  | minus n =>
      if n ≤ maxNegative then "integer `-" ++ toString n ++ "`"
      else "integer `-" ++ toString n ++ "` as i128"
  | float shown => "floating point `" ++ shown ++ "`"
  | text s => "string " ++ Text.quoted s

/-- The text says that there is nothing. -/
def isNullText (s : String) : Bool :=
  s = "null" || s = "Null" || s = "NULL" || s = "~"

/-- The truth value that the text writes. -/
def boolOf? (s : String) : Option Bool :=
  if s = "true" ∨ s = "True" ∨ s = "TRUE" then some true
  else if s = "false" ∨ s = "False" ∨ s = "FALSE" then some false
  else none

/-- The text without a sign at its front. -/
def unsigned : List Char → List Char
  | '+' :: cs => cs
  | '-' :: cs => cs
  | cs => cs

/-- The digits begin with a zero that is not all of them, so that they are no number. -/
def hasLeadingZero (cs : List Char) : Bool :=
  match unsigned cs with
  | '0' :: c :: rest => (c :: rest).all Char.isDigit
  | _ => false

/-- The number that follows a sign: with a base before it, or decimal digits. -/
def magnitude? (bound : Nat) : List Char → Option Nat
  | '0' :: 'x' :: digits => Text.boundedNumeral? 16 bound digits
  | '0' :: 'o' :: digits => Text.boundedNumeral? 8 bound digits
  | '0' :: 'b' :: digits => Text.boundedNumeral? 2 bound digits
  | digits => if hasLeadingZero digits then none else Text.boundedNumeral? 10 bound digits

/-- The integer that the text writes without a minus sign. -/
def natOf? (bound : Nat) : List Char → Option Nat
  | '+' :: cs => magnitude? bound cs
  | cs => magnitude? bound cs

/-- The integer that the text writes behind a minus sign. -/
def minusOf? (bound : Nat) : List Char → Option Nat
  | '-' :: cs => magnitude? bound cs
  | _ => none

/-- The integer that the text writes, of 64 bits or else of 128 bits. -/
def integerOf? (cs : List Char) : Option Value :=
  (((natOf? Text.maxOffset cs).map .nat).or ((minusOf? maxNegative cs).map .minus)).or
    (((natOf? (Nat.pow 2 128 - 1) cs).map .nat).or ((minusOf? (Nat.pow 2 127) cs).map .minus))

/-- The digits of a decimal without a sign, and the power of ten by which they are scaled. -/
def decimalOf? (cs : List Char) : Option Scientific := do
  let whole := cs.takeWhile Char.isDigit
  let rest := cs.dropWhile Char.isDigit
  let (fraction, rest) :=
    match rest with
    | '.' :: rest => (rest.takeWhile Char.isDigit, rest.dropWhile Char.isDigit)
    | rest => ([], rest)
  let digits ← Text.numeral? 10 (whole ++ fraction)
  let exponent : Int ←
    match rest with
    | [] => some 0
    | c :: rest =>
        if c = 'e' ∨ c = 'E' then
          match rest with
          | '-' :: rest => (Text.numeral? 10 rest).map fun n => -(n : Int)
          | '+' :: rest => (Text.numeral? 10 rest).map Int.ofNat
          | rest => (Text.numeral? 10 rest).map Int.ofNat
        else none
  return ⟨digits, exponent - fraction.length⟩

/-- The binary number nearest to a decimal; there is none when the decimal is too large. -/
def finite? (d : Scientific) : Option Binary64 :=
  let leading := ((toString d.digits).length : Int) + d.exponent
  if d.digits = 0 ∨ leading < -400 then some .zero
  else if 400 < leading then none
  else
    let x := Binary64.nearest (Ratio.scale ⟨d.digits, 1⟩ 10 d.exponent)
    if x.isInfinite then none else some x

/-- The number that the text writes, as it is shown in messages. -/
def floatOf? (s : String) : Option String :=
  if [".inf", ".Inf", ".INF", "+.inf", "+.Inf", "+.INF"].contains s then some "inf"
  else if ["-.inf", "-.Inf", "-.INF"].contains s then some "-inf"
  else if [".nan", ".NaN", ".NAN"].contains s then some "NaN"
  else
    let cs := s.toList
    let sign := if ['-'].isPrefixOf cs then "-" else ""
    ((decimalOf? (unsigned cs)).bind finite?).map fun x => sign ++ x.shortest.positional

/-- The value of a plain scalar without a tag. -/
def Value.ofPlain (s : String) : Value :=
  if s.isEmpty || isNullText s then null
  else
    match boolOf? s with
    | some b => bool b
    | none =>
        match integerOf? s.toList with
        | some value => value
        | none =>
            if hasLeadingZero s.toList then text s
            else
              match floatOf? s with
              | some shown => float shown
              | none => text s

def nullTag : Tag := Text.bytesOf "tag:yaml.org,2002:null".toList

/-- The tag of truth values. -/
def boolTag : Tag := Text.bytesOf "tag:yaml.org,2002:bool".toList

def intTag : Tag := Text.bytesOf "tag:yaml.org,2002:int".toList

def floatTag : Tag := Text.bytesOf "tag:yaml.org,2002:float".toList

/-- The tag belongs to the document and not to the format: it begins with an exclamation mark. -/
def isLocalTag (tag : Tag) : Bool :=
  (Text.bytesOf ['!']).isPrefixOf tag

/-- The tag is one of the document, and its bytes are a text. -/
def isNamedTag (tag : Tag) : Bool :=
  isLocalTag tag && (String.fromUTF8? ⟨tag.toArray⟩).isSome

/-- What is said of a scalar that is not what its tag says. -/
def wrongValue (s expected : String) : String :=
  "invalid value: string " ++ Text.quoted s ++ ", expected " ++ expected

def Value.ofTagged (tag : Tag) (s : String) (style : Style) : Except String Value :=
  if tag = boolTag then
    match boolOf? s with
    | some b => .ok (bool b)
    | none => .error (wrongValue s "a boolean")
  else if tag = intTag then
    match integerOf? s.toList with
    | some value => .ok value
    | none => .error (wrongValue s "an integer")
  else if tag = floatTag then
    match floatOf? s with
    | some shown => .ok (float shown)
    | none => .error (wrongValue s "a float")
  else if tag = nullTag then
    if isNullText s then .ok null else .error (wrongValue s "null")
  else if isLocalTag tag && style = .plain then .ok (ofPlain s)
  else .ok (text s)

def Value.ofScalar (tag : Option Tag) (s : String) (style : Style) : Except String Value :=
  match tag with
  | some tag => ofTagged tag s style
  | none => if style = .plain then .ok (ofPlain s) else .ok (text s)

end LintCorpus.Yaml
