import LintCorpus.Number
import LintCorpus.Text.Numeral

/-!
JSON values, and their indented form: two blanks a level, one entry a line, the fields of an object
in the order in which they are listed.
-/

namespace LintCorpus

/-- A JSON value.  Numbers are natural numbers or binary numbers. -/
inductive Json where
  | null
  | bool (b : Bool)
  | nat (n : Nat)
  | binary (x : Binary64)
  | str (s : String)
  | arr (items : List Json)
  | obj (fields : List (String × Json))
deriving Repr

namespace Json

/-- A character inside a quoted text: the quote, the backslash and the control characters are
escaped, with a letter of their own where there is one. -/
def escapeChar (c : Char) : List Char :=
  match c with
  | '"' => ['\\', '"']
  | '\\' => ['\\', '\\']
  | '\n' => ['\\', 'n']
  | '\r' => ['\\', 'r']
  | '\t' => ['\\', 't']
  | c =>
      if c.toNat = 8 then ['\\', 'b']
      else if c.toNat = 12 then ['\\', 'f']
      else if c.toNat < 32 then
        ['\\', 'u', '0', '0', Text.hexDigit (c.toNat / 16), Text.hexDigit (c.toNat % 16)]
      else [c]

def quote (cs : List Char) : List Char :=
  '"' :: (cs.flatMap escapeChar ++ ['"'])

/-- A line feed and the indentation of a level. -/
def indent (depth : Nat) : List Char :=
  '\n' :: List.replicate (2 * depth) ' '

mutual

/-- The indented form of a value that stands at a level. -/
def render (depth : Nat) : Json → List Char
  | .null => "null".toList
  | .bool true => "true".toList
  | .bool false => "false".toList
  | .nat n => (toString n).toList
  | .binary x => x.text.toList
  | .str s => quote s.toList
  | .arr [] => ['[', ']']
  | .arr (item :: items) =>
      '[' :: (indent (depth + 1) ++ render (depth + 1) item ++ renderItems (depth + 1) items ++
        indent depth ++ [']'])
  | .obj [] => ['{', '}']
  | .obj ((key, value) :: fields) =>
      '{' :: (indent (depth + 1) ++ quote key.toList ++ [':', ' '] ++ render (depth + 1) value ++
        renderFields (depth + 1) fields ++ indent depth ++ ['}'])

/-- The items of an array behind the first one. -/
def renderItems (depth : Nat) : List Json → List Char
  | [] => []
  | item :: items => ',' :: (indent depth ++ render depth item ++ renderItems depth items)

/-- The fields of an object behind the first one. -/
def renderFields (depth : Nat) : List (String × Json) → List Char
  | [] => []
  | (key, value) :: fields =>
      ',' :: (indent depth ++ quote key.toList ++ [':', ' '] ++ render depth value ++
        renderFields depth fields)

end

/-- The indented form of a value. -/
def pretty (value : Json) : String :=
  String.ofList (render 0 value)

end Json

end LintCorpus
