import LintCorpus.Text.Numeral
import LintCorpus.Yaml.Cursor

/-!
Scalars: texts that are written plainly, in quotes, or as a block of indented lines.  A line's end
inside a plain or quoted scalar is folded to a blank, and empty lines are kept.

Every loop has fuel for as many steps as there are characters left, and every step passes over one.
-/

namespace LintCorpus.Yaml

/-- How a scalar is written. -/
inductive Style where
  | plain
  | singleQuoted
  | doubleQuoted
  | literal
  | folded
deriving DecidableEq, Repr

/-- A scalar that was read, and the cursor behind it. -/
structure Scanned where
  text : List Char
  cursor : Cursor
  /-- The cursor stands behind a line's end that follows the scalar. -/
  atNewLine : Bool
deriving DecidableEq, Repr

/-- The blanks and line ends between two words. -/
structure Gap where
  cursor : Cursor
  blanks : List Char
  breaks : List Char
  /-- A line's end was passed. -/
  isOpen : Bool
  /-- Where a tab stands left of the indentation. -/
  tab : Option Mark
deriving DecidableEq, Repr

/-- Reads a gap, where tabs behind a line's end must not stand left of `indent`. -/
def scanGap (indent : Int) : (fuel : Nat) → Gap → Gap
  | 0, gap => gap
  | fuel + 1, gap =>
      match gap.cursor.peek? with
      | none => gap
      | some c =>
          if isBreak c then
            scanGap indent fuel { gap with
              cursor := gap.cursor.passBreak
              breaks := gap.breaks ++ [breakText c]
              isOpen := true }
          else if isGap c then
            let next := gap.cursor.forward 1
            if !gap.isOpen then
              scanGap indent fuel { gap with cursor := next, blanks := gap.blanks ++ [c] }
            else if c = '\t' ∧ (gap.cursor.mark.column : Int) < indent then
              { gap with tab := some gap.cursor.mark }
            else scanGap indent fuel { gap with cursor := next }
          else gap

def Cursor.gap (cursor : Cursor) (indent : Int) : Gap :=
  scanGap indent cursor.rest.length ⟨cursor, [], [], false, none⟩

/-- The gap at a cursor that stands behind an escaped line's end. -/
def Cursor.openGap (cursor : Cursor) : Gap :=
  scanGap 0 cursor.rest.length ⟨cursor, [], [], true, none⟩

/-- What a gap stands for between two words.  One line feed is a blank, and further ones are
kept. -/
def Gap.text (gap : Gap) : List Char :=
  match gap.breaks with
  | [] => gap.blanks
  | ['\n'] => [' ']
  | '\n' :: more => more
  | breaks => breaks

/-- The word at the front of a plain scalar, and whether a colon follows that no word of a flow
collection may hold. -/
def plainWord (inFlow : Bool) : List Char → List Char × Bool
  | [] => ([], false)
  | c :: rest =>
      let next := rest.head?
      if isSpace c then ([], false)
      else if inFlow && c = ':' && next.any fun d => isFlowMark d || d = '?' then ([], true)
      else if c = ':' && next.all isSpace then ([], false)
      else if inFlow && isFlowMark c then ([], false)
      else
        let word := plainWord inFlow rest
        (c :: word.1, word.2)

/-- Reads the words of a plain scalar from the cursor on, behind a text and a gap. -/
def scanWords (inFlow : Bool) (indent : Int) (start : Mark) :
    (fuel : Nat) → (cursor : Cursor) → (text gap : List Char) → (atNewLine : Bool) →
      Except Fault Scanned
  | 0, cursor, text, _, atNewLine => .ok ⟨text, cursor, atNewLine⟩
  | fuel + 1, cursor, text, gap, atNewLine =>
      if cursor.atAnyDocumentMark || cursor.has '#' then .ok ⟨text, cursor, atNewLine⟩
      else
        let (word, wrongColon) := plainWord inFlow cursor.rest
        let behind := cursor.forward word.length
        if wrongColon then .error (.within .plainScalar start .colonInFlowText behind.mark)
        else
          let text := if word.isEmpty then text else text ++ gap ++ word
          let atNewLine := word.isEmpty && atNewLine
          if !behind.peek?.any isSpace then .ok ⟨text, behind, atNewLine⟩
          else
            let next := behind.gap indent
            match next.tab with
            | some mark => .error (.within .plainScalar start .tabBeforeText mark)
            | none =>
                let atNewLine := atNewLine || next.isOpen
                if !inFlow && next.cursor.mark.column < indent then
                  .ok ⟨text, next.cursor, atNewLine⟩
                else scanWords inFlow indent start fuel next.cursor text next.text atNewLine

/-- Reads a plain scalar, which has to stand right of the indentation. -/
def scanPlain (inFlow : Bool) (indent : Int) (cursor : Cursor) : Except Fault Scanned :=
  scanWords inFlow (indent + 1) cursor.mark (cursor.rest.length + 1) cursor [] [] false

/-- The character that a letter behind a backslash stands for. -/
def escapeOf? : Char → Option Char
  | '0' => some (Char.ofNat 0)
  | 'a' => some (Char.ofNat 7)
  | 'b' => some (Char.ofNat 8)
  | 't' => some '\t'
  | '\t' => some '\t'
  | 'n' => some '\n'
  | 'v' => some (Char.ofNat 11)
  | 'f' => some (Char.ofNat 12)
  | 'r' => some '\r'
  | 'e' => some (Char.ofNat 27)
  | ' ' => some ' '
  | '"' => some '"'
  | '/' => some '/'
  | '\\' => some '\\'
  | 'N' => some (Char.ofNat 0x85)
  | '_' => some (Char.ofNat 0xA0)
  | 'L' => some (Char.ofNat 0x2028)
  | 'P' => some (Char.ofNat 0x2029)
  | _ => none

/-- How many hexadecimal digits follow a letter behind a backslash. -/
def escapeWidth? : Char → Option Nat
  | 'x' => some 2
  | 'u' => some 4
  | 'U' => some 8
  | _ => none

/-- The character that an escape stands for, and the cursor behind the escape. -/
def scanEscape (start : Mark) (cursor : Cursor) : Except Fault (Char × Cursor) :=
  let fault (cause : Cause) (mark : Mark) := Fault.within .escape start cause mark
  match cursor.at? 1 with
  | none => .error (fault .unknownEscape cursor.mark)
  | some letter =>
      let behind := cursor.forward 2
      match escapeOf? letter with
      | some c => .ok (c, behind)
      | none =>
          match escapeWidth? letter with
          | none => .error (fault .unknownEscape cursor.mark)
          | some width =>
              let digits := behind.rest.take width
              match Text.numeral? 16 digits with
              | none => .error (fault .missingHexDigit behind.mark)
              | some n =>
                  if digits.length < width then .error (fault .missingHexDigit behind.mark)
                  else if (0xD800 ≤ n ∧ n ≤ 0xDFFF) ∨ 0x10FFFF < n then
                    .error (fault .wrongCharacterCode behind.mark)
                  else .ok (Char.ofNat n, behind.forward width)

/-- Reads the rest of a quoted scalar, where `text` holds what was read, the last character
first. -/
def scanQuotedRest (isDouble : Bool) (start : Mark) :
    (fuel : Nat) → (cursor : Cursor) → (text : List Char) → Except Fault Scanned
  | 0, cursor, _ => .error (.within .quotedScalar start .endInQuotes cursor.mark)
  | fuel + 1, cursor, text =>
      let fault (cause : Cause) := Fault.within .quotedScalar start cause cursor.mark
      if cursor.atAnyDocumentMark then .error (fault .documentMarkInQuotes)
      else
        match cursor.peek? with
        | none => .error (fault .endInQuotes)
        | some c =>
            if isSpace c then
              let gap := cursor.gap 0
              scanQuotedRest isDouble start fuel gap.cursor (gap.text.reverse ++ text)
            else if c = '\'' ∧ !isDouble then
              if cursor.hasAt 1 '\'' then
                scanQuotedRest isDouble start fuel (cursor.forward 2) ('\'' :: text)
              else .ok ⟨text.reverse, cursor.forward 1, false⟩
            else if c = '"' ∧ isDouble then .ok ⟨text.reverse, cursor.forward 1, false⟩
            else if c = '\\' ∧ isDouble then
              if (cursor.at? 1).any isBreak then
                let gap := (cursor.forward 1).passBreak.openGap
                scanQuotedRest isDouble start fuel gap.cursor (gap.breaks.reverse ++ text)
              else
                match scanEscape start cursor with
                | .error fault => .error fault
                | .ok (c, behind) => scanQuotedRest isDouble start fuel behind (c :: text)
            else scanQuotedRest isDouble start fuel (cursor.forward 1) (c :: text)

/-- Reads a quoted scalar. -/
def scanQuoted (isDouble : Bool) (cursor : Cursor) : Except Fault Scanned :=
  scanQuotedRest isDouble cursor.mark (cursor.rest.length + 1) (cursor.forward 1) []

/-- What becomes of the line ends behind a block scalar. -/
inductive Chomping where
  /-- All are dropped. -/
  | strip
  /-- One is kept. -/
  | clip
  /-- All are kept. -/
  | keep
deriving DecidableEq, Repr

/-- What the header of a block scalar says. -/
structure Header where
  chomping : Chomping
  /-- The indentation of the lines, relative to the block around them. -/
  increment : Option Nat
  cursor : Cursor
deriving DecidableEq, Repr

/-- The sign that tells the chomping. -/
def chompingOf? : Char → Option Chomping
  | '+' => some .keep
  | '-' => some .strip
  | _ => none

/-- Reads an indentation, if one is given.  It must not be zero. -/
def scanIncrement (start : Mark) (cursor : Cursor) : Except Fault (Option Nat × Cursor) :=
  match cursor.peek? with
  | some c =>
      if c = '0' then .error (.within .blockScalar start .zeroIndentation cursor.mark)
      else if c.isDigit then .ok (some (c.toNat - '0'.toNat), cursor.forward 1)
      else .ok (none, cursor)
  | none => .ok (none, cursor)

/-- Reads the header of a block scalar: a chomping and an indentation, in either order. -/
def scanHeader (start : Mark) (cursor : Cursor) : Except Fault Header := do
  match cursor.peek?.bind chompingOf? with
  | some chomping =>
      let (increment, cursor) ← scanIncrement start (cursor.forward 1)
      return ⟨chomping, increment, cursor⟩
  | none =>
      let (increment, cursor) ← scanIncrement start cursor
      match increment, cursor.peek?.bind chompingOf? with
      | some n, some chomping => return ⟨chomping, some n, cursor.forward 1⟩
      | increment, _ => return ⟨.clip, increment, cursor⟩

/-- The cursor behind the indentation of a line: blanks up to the column `indent`, or all blanks
while the indentation is not known. -/
def Cursor.passIndent (cursor : Cursor) (indent : Nat) : Cursor :=
  let blanks := (cursor.run (· = ' ')).length
  if indent = 0 then cursor.forward blanks
  else cursor.forward (min blanks (indent - cursor.mark.column))

/-- Reads empty lines and the indentation of the line behind them.  Gives the line ends, the widest
indentation, and the cursor. -/
def scanEmptyLines (start : Mark) (indent : Nat) :
    (fuel : Nat) → (cursor : Cursor) → (breaks : List Char) → (widest : Nat) →
      Except Fault (List Char × Nat × Cursor)
  | 0, cursor, breaks, widest => .ok (breaks, widest, cursor)
  | fuel + 1, cursor, breaks, widest =>
      let cursor := cursor.passIndent indent
      let column := cursor.mark.column
      let widest := max widest column
      match cursor.peek? with
      | none => .ok (breaks, widest, cursor)
      | some c =>
          if c = '\t' ∧ (indent = 0 ∨ column < indent) then
            .error (.within .blockScalar start .tabInIndentation cursor.mark)
          else if isBreak c then
            scanEmptyLines start indent fuel cursor.passBreak (breaks ++ [breakText c]) widest
          else .ok (breaks, widest, cursor)

/-- Reads the lines of a block scalar.  `ending` holds the end of the line before, `empty` the ends
of empty lines behind it, and `afterBlank` tells that the line before began with a blank. -/
def scanBlockLines (isLiteral : Bool) (chomping : Chomping) (start : Mark) (indent : Nat) :
    (fuel : Nat) → (cursor : Cursor) → (text ending empty : List Char) → (afterBlank : Bool) →
      Except Fault Scanned
  | 0, cursor, text, _, _, _ => .ok ⟨text, cursor, true⟩
  | fuel + 1, cursor, text, ending, empty, afterBlank =>
      match cursor.peek? with
      | some c =>
          if cursor.mark.column = indent then
            let isBlank := isGap c
            let joint :=
              if !isLiteral && ending = ['\n'] && !afterBlank && !isBlank then
                if empty.isEmpty then [' '] else []
              else ending
            let line := cursor.run fun c => !isBreak c
            let behind := cursor.forward line.length
            let ending := (behind.peek?.map breakText).toList
            match scanEmptyLines start indent (fuel + 1) behind.passBreak [] 0 with
            | .error fault => .error fault
            | .ok (breaks, _, next) =>
                scanBlockLines isLiteral chomping start indent fuel next
                  (text ++ joint ++ empty ++ line) ending breaks isBlank
          else .ok ⟨text ++ tail chomping ending empty, cursor, true⟩
      | none => .ok ⟨text ++ tail chomping ending empty, cursor, true⟩
where
  /-- What the chomping leaves of the line ends behind the last line. -/
  tail (chomping : Chomping) (ending empty : List Char) : List Char :=
    match chomping with
    | .strip => []
    | .clip => ending
    | .keep => ending ++ empty

/-- Reads a block scalar inside a block with the given indentation. -/
def scanBlock (isLiteral : Bool) (parent : Int) (cursor : Cursor) : Except Fault Scanned := do
  let start := cursor.mark
  let header ← scanHeader start (cursor.forward 1)
  let cursor := header.cursor.passGap.passComment
  if !cursor.atLineEnd then
    throw (.within .blockScalar start .missingDirectiveEnd cursor.mark)
  let cursor := cursor.passBreak
  let fuel := cursor.rest.length + 1
  let given := (header.increment.map fun n => (max parent 0).toNat + n).getD 0
  let (empty, widest, cursor) ← scanEmptyLines start given fuel cursor [] 0
  let indent := if given = 0 then max (max widest (parent + 1).toNat) 1 else given
  scanBlockLines isLiteral header.chomping start indent fuel cursor [] [] empty false

end LintCorpus.Yaml
