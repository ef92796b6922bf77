import LintCorpus.Text.Basic

/-!
Emphasis on a terminal: an escape sequence in front of a text switches a style on, and another one
behind it switches all styles off.
-/

namespace LintCorpus

inductive Color where
  | red
  | green
  | yellow
  | blue
  | cyan
deriving DecidableEq, Repr

/-- The number of a color among those of a terminal. -/
def Color.code : Color → Nat
  | red => 31
  | green => 32
  | yellow => 33
  | blue => 34
  | cyan => 36

/-- How a text stands out. -/
inductive Emphasis where
  | bold
  | dimmed
  | colored (color : Color)
  | boldColored (color : Color)
deriving DecidableEq, Repr

namespace Emphasis

/-- The numbers that switch the style on. -/
def codes : Emphasis → List Nat
  | bold => [1]
  | dimmed => [2]
  | colored color => [color.code]
  | boldColored color => [1, color.code]

/-- The sequence that switches the style on. -/
def start (style : Emphasis) : List Char :=
  '\x1b' :: '[' :: (";".intercalate (style.codes.map toString)).toList ++ ['m']

/-- The sequence that switches all styles off. -/
def reset : List Char := ['\x1b', '[', '0', 'm']

/-- The text with the style switched on again wherever the text itself switches it off. -/
def renew (style : Emphasis) : List Char → List Char
  | [] => []
  | '\x1b' :: '[' :: '0' :: 'm' :: rest => reset ++ style.start ++ renew style rest
  | c :: rest => c :: renew style rest

end Emphasis

/-- Whether the output is styled at all. -/
inductive Palette where
  | plain
  | styled
deriving DecidableEq, Repr

/-- The text in a style, or as it is where the output is plain. -/
def Palette.paint (palette : Palette) (style : Emphasis) (text : String) : String :=
  match palette with
  | plain => text
  | styled => String.ofList (style.start ++ style.renew text.toList ++ Emphasis.reset)

end LintCorpus
