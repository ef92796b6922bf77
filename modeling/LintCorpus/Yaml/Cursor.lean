import LintCorpus.Text.Basic
import LintCorpus.Yaml.Fault

/-!
A cursor over a YAML text, and the classes of characters that tell tokens apart.
-/

namespace LintCorpus.Yaml

/-- A character that ends a line. -/
def isBreak (c : Char) : Bool :=
  c = '\n' || c = '\r' || c.toNat = 0x85 || c.toNat = 0x2028 || c.toNat = 0x2029

/-- A blank within a line. -/
def isGap (c : Char) : Bool :=
  c = ' ' || c = '\t'

/-- A blank or the end of a line. -/
def isSpace (c : Char) : Bool :=
  isGap c || isBreak c

/-- A character of the names of anchors, handles and directives. -/
def isNameChar (c : Char) : Bool :=
  c.isAlphanum || c = '_' || c = '-'

/-- A character that structures collections in flow style. -/
def isFlowMark (c : Char) : Bool :=
  c = ',' || c = '[' || c = ']' || c = '{' || c = '}'

/-- A character that a text may hold. -/
def isPrintable (c : Char) : Bool :=
  let n := c.toNat
  n = 0x09 || n = 0x0A || n = 0x0D || (0x20 ≤ n && n ≤ 0x7E) || n = 0x85 ||
    (0xA0 ≤ n && n ≤ 0xD7FF) || (0xE000 ≤ n && n ≤ 0xFFFD) || 0x10000 ≤ n

/-- What stands for the end of a line in a scalar: line feeds for all but the two separators. -/
def breakText (c : Char) : Char :=
  if c.toNat = 0x2028 || c.toNat = 0x2029 then c else '\n'

/-- What is left of a text, and the mark of its first character. -/
structure Cursor where
  rest : List Char
  mark : Mark
deriving DecidableEq, Repr

namespace Cursor

def ofText (cs : List Char) : Cursor := ⟨cs, .start⟩

def peek? (cursor : Cursor) : Option Char :=
  cursor.rest.head?

/-- The character `offset` behind the cursor. -/
def at? (cursor : Cursor) (offset : Nat) : Option Char :=
  cursor.rest[offset]?

/-- The character `offset` behind the cursor is the given one. -/
def hasAt (cursor : Cursor) (offset : Nat) (c : Char) : Bool :=
  cursor.at? offset = some c

/-- The character at the cursor is the given one. -/
def has (cursor : Cursor) (c : Char) : Bool :=
  cursor.hasAt 0 c

/-- The text ends `offset` behind the cursor, or has a blank or a line's end there. -/
def spaceAt (cursor : Cursor) (offset : Nat) : Bool :=
  (cursor.at? offset).all isSpace

def atLineEnd (cursor : Cursor) : Bool :=
  cursor.peek?.all isBreak

/-- The cursor behind `count` characters of the line. -/
def forward (cursor : Cursor) (count : Nat) : Cursor where
  rest := cursor.rest.drop count
  mark := { cursor.mark with
    index := cursor.mark.index + Text.byteLength (cursor.rest.take count)
    column := cursor.mark.column + count }

/-- The characters of the line that satisfy `p`. -/
def run (cursor : Cursor) (p : Char → Bool) : List Char :=
  cursor.rest.takeWhile p

/-- The cursor behind the characters of the line that satisfy `p`. -/
def passRun (cursor : Cursor) (p : Char → Bool) : Cursor :=
  cursor.forward (cursor.run p).length

/-- The cursor behind the blanks of the line. -/
def passGap (cursor : Cursor) : Cursor :=
  cursor.passRun isGap

/-- The cursor behind a comment, if one begins here. -/
def passComment (cursor : Cursor) : Cursor :=
  if cursor.has '#' then cursor.passRun fun c => !isBreak c else cursor

/-- The cursor behind a line's end that takes `count` characters. -/
def nextLine (cursor : Cursor) (count : Nat) : Cursor where
  rest := cursor.rest.drop count
  mark := ⟨cursor.mark.index + Text.byteLength (cursor.rest.take count), cursor.mark.line + 1, 0⟩

/-- The cursor behind the line's end, if the line ends here. -/
def passBreak (cursor : Cursor) : Cursor :=
  match cursor.rest with
  | '\r' :: '\n' :: _ => cursor.nextLine 2
  | c :: _ => if isBreak c then cursor.nextLine 1 else cursor
  | [] => cursor

/-- The line begins with `---` or `...` and a blank behind it. -/
def atDocumentMark (cursor : Cursor) (c : Char) : Bool :=
  cursor.mark.column = 0 && cursor.has c && cursor.hasAt 1 c && cursor.hasAt 2 c &&
    cursor.spaceAt 3

def atAnyDocumentMark (cursor : Cursor) : Bool :=
  cursor.atDocumentMark '-' || cursor.atDocumentMark '.'

end Cursor

end LintCorpus.Yaml
