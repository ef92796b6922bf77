import LintCorpus.Json.Token
import LintCorpus.Json.Value

/-!
The value that a JSON text holds.  The tokens are gone over once, with a frame for every list and
object that is still open, so that reading goes down the list of tokens however deep values lie.
`Json.tree` is what a printed value has to be read as.
-/

namespace LintCorpus.Json

/-- A JSON value as it is read.  The members of an object stand in the order of the text. -/
inductive Tree where
  | null
  | bool (b : Bool)
  | number (n : Number)
  | str (s : String)
  | list (items : List Tree)
  | object (members : List (String × Tree))

/-- A list or an object that is open, with what was read of it, the last part first. -/
inductive Frame where
  | list (items : List Tree)
  /-- The value of the key is what is read next. -/
  | object (members : List (String × Tree)) (key : String)

/-- How many lists and objects may be open at once. -/
def maxNesting : Nat := 127

mutual

/-- Reads on where a value is wanted, or the end of a list that has no items yet. -/
def readValue : List Frame → Tokens → Option Tree
  | .list [] :: stack, .token _ .closeList _ more => readBehind stack (.list []) more
  | stack, .token _ .openList _ more =>
      if stack.length < maxNesting then readValue (.list [] :: stack) more else none
  | stack, .token _ .openObject _ (.token _ .closeObject _ more) =>
      if stack.length < maxNesting then readBehind stack (.object []) more else none
  | stack, .token _ .openObject _ (.token _ (.str key) _ (.token _ .colon _ more)) =>
      if stack.length < maxNesting then readValue (.object [] key :: stack) more else none
  | stack, .token _ .null _ more => readBehind stack .null more
  | stack, .token _ (.bool b) _ more => readBehind stack (.bool b) more
  | stack, .token _ (.number n) _ more => readBehind stack (.number n) more
  | stack, .token _ (.str s) _ more => readBehind stack (.str s) more
  | _, _ => none

/-- Reads on behind a value. -/
def readBehind : List Frame → Tree → Tokens → Option Tree
  | [], value, .done => some value
  | .list items :: stack, value, .token _ .comma _ more =>
      readValue (.list (value :: items) :: stack) more
  | .list items :: stack, value, .token _ .closeList _ more =>
      readBehind stack (.list (value :: items).reverse) more
  | .object members key :: stack, value,
      .token _ .comma _ (.token _ (.str next) _ (.token _ .colon _ more)) =>
      readValue (.object ((key, value) :: members) next :: stack) more
  | .object members key :: stack, value, .token _ .closeObject _ more =>
      readBehind stack (.object ((key, value) :: members).reverse) more
  | _, _, _ => none

end

/-- The value that a text holds, if it is a JSON text. -/
def Tree.ofText? (text : String) : Option Tree :=
  readValue [] (tokens text.toList)

mutual

/-- What the printed value is read as. -/
def tree : Json → Tree
  | .null => .null
  | .bool b => .bool b
  | .nat n => .number (.nat n)
  | .binary x => .number (.binary false x)
  | .str s => .str s
  | .arr items => .list (trees items)
  | .obj fields => .object (members fields)

def trees : List Json → List Tree
  | [] => []
  | item :: items => item.tree :: trees items

def members : List (String × Json) → List (String × Tree)
  | [] => []
  | (key, value) :: fields => (key, value.tree) :: members fields

end

end LintCorpus.Json
