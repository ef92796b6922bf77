import LintCorpus.Yaml.Property
import LintCorpus.Yaml.Scalar

/-!
The tokens of a YAML text.  Indentation becomes tokens of its own, and a colon turns what stands
before it into a key afterwards: up to then the token that may become a key is pending, and nothing
from it on can be used.
-/

namespace LintCorpus.Yaml

inductive Token where
  | directive (directive : Directive)
  | documentStart
  | documentEnd
  | blockSequenceStart
  | blockMappingStart
  | blockEnd
  | flowSequenceStart
  | flowSequenceEnd
  | flowMappingStart
  | flowMappingEnd
  | blockEntry
  | flowEntry
  | key
  | value
  | aliasTo (name : String)
  | anchor (name : String)
  | tag (tag : TagText)
  | scalar (text : String) (style : Style)
  | streamEnd
deriving DecidableEq, Repr

/-- A token, with the marks before and behind it. -/
structure Located where
  token : Token
  start : Mark
  stop : Mark
deriving DecidableEq, Repr

/-- A token that may become a key. -/
structure PendingKey where
  number : Nat
  mark : Mark
  /-- It has to become a key, because it stands at the indentation of its block. -/
  isRequired : Bool
deriving DecidableEq, Repr

/-- How far a text is read. -/
structure Scan where
  cursor : Cursor
  /-- The tokens, the last one first. -/
  tokens : List Located
  /-- The indentation of the block; below zero outside of all blocks. -/
  indent : Int
  /-- The indentations of the blocks around it. -/
  outer : List Int
  /-- The pending key of the flow collection, or of the block when there is none. -/
  pending : Option PendingKey
  /-- The pending keys of what lies around the flow collection, one for each collection. -/
  outerPending : List (Option PendingKey)
  /-- A key may begin here. -/
  keyAllowed : Bool
  isDone : Bool
deriving DecidableEq, Repr

namespace Scan

/-- The cursor is inside a flow collection. -/
def inFlow (scan : Scan) : Bool :=
  !scan.outerPending.isEmpty

def column (scan : Scan) : Int :=
  scan.cursor.mark.column

def addMark (scan : Scan) (token : Token) : Scan :=
  { scan with tokens := ⟨token, scan.cursor.mark, scan.cursor.mark⟩ :: scan.tokens }

def add (scan : Scan) (token : Token) (cursor : Cursor) : Scan :=
  { scan with
    cursor := cursor
    tokens := ⟨token, scan.cursor.mark, cursor.mark⟩ :: scan.tokens }

/-- Adds tokens before the one with the given number. -/
def insert (scan : Scan) (number : Nat) (added : List Located) : Scan :=
  let later := scan.tokens.length - number
  { scan with tokens := scan.tokens.take later ++ added.reverse ++ scan.tokens.drop later }

def closeBlocks (scan : Scan) (column : Int) : Scan :=
  if scan.inFlow then scan
  else
    let ended := ((scan.indent :: scan.outer).takeWhile (column < ·)).length
    let left := (scan.indent :: scan.outer).drop ended
    { scan with
      tokens := List.replicate ended ⟨.blockEnd, scan.cursor.mark, scan.cursor.mark⟩ ++ scan.tokens
      indent := left.headD (-1)
      outer := left.tail }

def openBlock (scan : Scan) (column : Int) : Option Scan :=
  if scan.inFlow || column ≤ scan.indent then none
  else some { scan with indent := column, outer := scan.indent :: scan.outer }

def openBlockHere (scan : Scan) (token : Token) : Scan :=
  match scan.openBlock scan.column with
  | some opened => opened.addMark token
  | none => scan

/-- The fault of a key without a colon. -/
def missingColon (scan : Scan) (key : PendingKey) : Fault :=
  .within .simpleKey key.mark .missingColon scan.cursor.mark

/-- The pending key is given up, unless it has to become one. -/
def dropPending (scan : Scan) : Except Fault Scan :=
  match scan.pending with
  | some key => if key.isRequired then .error (scan.missingColon key)
      else .ok { scan with pending := none }
  | none => .ok scan

/-- The token at the cursor may become a key, if one is allowed here. -/
def savePending (scan : Scan) : Except Fault Scan := do
  if !scan.keyAllowed then return scan
  let scan ← scan.dropPending
  return { scan with
    pending := some {
      number := scan.tokens.length
      mark := scan.cursor.mark
      isRequired := !scan.inFlow && scan.indent = scan.column } }

/-- The longest key, in bytes. -/
def maxKeyLength : Nat := 1024

/-- The pending key cannot become a key any more: its line has ended, or it is too long. -/
def isStale (scan : Scan) (key : PendingKey) : Bool :=
  key.mark.line < scan.cursor.mark.line || key.mark.index + maxKeyLength < scan.cursor.mark.index

/-- Gives up a pending key that is stale, unless it has to become one. -/
def refresh (scan : Scan) (pending : Option PendingKey) : Except Fault (Option PendingKey) :=
  match pending with
  | some key =>
      if scan.isStale key then
        if key.isRequired then .error (scan.missingColon key) else .ok none
      else .ok (some key)
  | none => .ok none

/-- Gives up all stale pending keys, the outermost first. -/
def refreshAll (scan : Scan) : Except Fault Scan := do
  let outer ← scan.outerPending.reverse.mapM scan.refresh
  let pending ← scan.refresh scan.pending
  return { scan with pending := pending, outerPending := outer.reverse }

/-- Passes over blanks, comments and line ends.  A line may begin with a byte order mark, and a tab
is a blank where no key may begin. -/
def toNextToken : (fuel : Nat) → Scan → Scan
  | 0, scan => scan
  | fuel + 1, scan =>
      let cursor := scan.cursor
      let cursor :=
        if cursor.mark.column = 0 ∧ cursor.peek?.any (·.toNat = 0xFEFF) then cursor.forward 1
        else cursor
      let tabs := scan.inFlow || !scan.keyAllowed
      let cursor := (cursor.passRun fun c => c = ' ' || (tabs && c = '\t')).passComment
      if cursor.peek?.any isBreak then
        toNextToken fuel { scan with
          cursor := cursor.passBreak
          keyAllowed := scan.keyAllowed || !scan.inFlow }
      else { scan with cursor := cursor }

/-- The end of the text, which ends a line. -/
def scanStreamEnd (scan : Scan) : Except Fault Scan := do
  let mark := scan.cursor.mark
  let mark : Mark := if mark.column = 0 then mark else ⟨mark.index, mark.line + 1, 0⟩
  let scan := { scan with cursor := ⟨scan.cursor.rest, mark⟩ }
  let scan ← (scan.closeBlocks (-1)).dropPending
  return { scan.addMark .streamEnd with keyAllowed := false, isDone := true }

def scanDirectiveLine (scan : Scan) : Except Fault Scan := do
  let scan ← (scan.closeBlocks (-1)).dropPending
  let (directive, cursor) ← scanDirective scan.cursor
  return { scan.add (.directive directive) cursor with keyAllowed := false }

/-- The mark of a document's beginning or end. -/
def scanDocumentMark (scan : Scan) (token : Token) : Except Fault Scan := do
  let scan ← (scan.closeBlocks (-1)).dropPending
  return { scan.add token (scan.cursor.forward 3) with keyAllowed := false }

/-- The beginning of a flow collection. -/
def scanFlowStart (scan : Scan) (token : Token) : Except Fault Scan := do
  let scan ← scan.savePending
  return { scan.add token (scan.cursor.forward 1) with
    pending := none
    outerPending := scan.pending :: scan.outerPending
    keyAllowed := true }

def scanFlowEnd (scan : Scan) (token : Token) : Except Fault Scan := do
  let scan ← scan.dropPending
  let scan := { scan.add token (scan.cursor.forward 1) with keyAllowed := false }
  match scan.outerPending with
  | [] => return scan
  | pending :: outer => return { scan with pending := pending, outerPending := outer }

/-- The comma between the entries of a flow collection. -/
def scanFlowEntry (scan : Scan) : Except Fault Scan := do
  let scan ← scan.dropPending
  return { scan.add .flowEntry (scan.cursor.forward 1) with keyAllowed := true }

/-- The dash before an entry of a block sequence. -/
def scanBlockEntry (scan : Scan) : Except Fault Scan := do
  if !scan.inFlow && !scan.keyAllowed then
    throw (.plain .blockEntryNotAllowed scan.cursor.mark)
  let scan ← (scan.openBlockHere .blockSequenceStart).dropPending
  return { scan.add .blockEntry (scan.cursor.forward 1) with keyAllowed := true }

/-- The question mark before a key. -/
def scanKey (scan : Scan) : Except Fault Scan := do
  if !scan.inFlow && !scan.keyAllowed then
    throw (.plain .mappingKeyNotAllowed scan.cursor.mark)
  let scan ← (scan.openBlockHere .blockMappingStart).dropPending
  return { scan.add .key (scan.cursor.forward 1) with keyAllowed := !scan.inFlow }

def resolveKey (scan : Scan) (key : PendingKey) : Scan :=
  let token : Located := ⟨.key, key.mark, key.mark⟩
  match scan.openBlock key.mark.column with
  | some opened => opened.insert key.number [⟨.blockMappingStart, key.mark, key.mark⟩, token]
  | none => scan.insert key.number [token]

/-- The colon before a value. -/
def scanValue (scan : Scan) : Except Fault Scan :=
  let behind := scan.cursor.forward 1
  match scan.pending with
  | some key =>
      .ok { (scan.resolveKey key).add .value behind with pending := none, keyAllowed := false }
  | none =>
      if !scan.inFlow && !scan.keyAllowed then
        .error (.plain .mappingValueNotAllowed scan.cursor.mark)
      else
        .ok { (scan.openBlockHere .blockMappingStart).add .value behind with
          keyAllowed := !scan.inFlow }

/-- A token that may begin a key, with the cursor behind it. -/
def scanContent (scan : Scan) (read : Cursor → Except Fault (Token × Cursor)) :
    Except Fault Scan := do
  let scan ← scan.savePending
  let (token, cursor) ← read scan.cursor
  return { scan.add token cursor with keyAllowed := false }

def scanBlockScalar (scan : Scan) (isLiteral : Bool) : Except Fault Scan := do
  let scan ← scan.dropPending
  let scalar ← scanBlock isLiteral scan.indent scan.cursor
  let style := if isLiteral then Style.literal else .folded
  return { scan.add (.scalar (String.ofList scalar.text) style) scalar.cursor with
    keyAllowed := true }

def scanQuotedScalar (scan : Scan) (isDouble : Bool) : Except Fault Scan :=
  scan.scanContent fun cursor => do
    let scalar ← scanQuoted isDouble cursor
    let style := if isDouble then Style.doubleQuoted else .singleQuoted
    return (.scalar (String.ofList scalar.text) style, scalar.cursor)

/-- A plain scalar.  A key may follow it on a new line. -/
def scanPlainScalar (scan : Scan) : Except Fault Scan := do
  let scan ← scan.savePending
  let scalar ← scanPlain scan.inFlow scan.indent scan.cursor
  return { scan.add (.scalar (String.ofList scalar.text) .plain) scalar.cursor with
    keyAllowed := scalar.atNewLine }

/-- A character that no plain scalar begins with. -/
def isIndicator (c : Char) : Bool :=
  "-?:,[]{}#&*!|>'\"%@\x60".toList.contains c

def atPlainScalar (scan : Scan) : Bool :=
  match scan.cursor.peek? with
  | none => false
  | some c =>
      (!isSpace c && !isIndicator c) ||
        (c = '-' && !(scan.cursor.at? 1).any isGap) ||
        (!scan.inFlow && (c = '?' || c = ':') && !scan.cursor.spaceAt 1)

/-- Reads the token at the cursor. -/
def scanToken (scan : Scan) : Except Fault Scan :=
  let cursor := scan.cursor
  let marked := scan.inFlow || cursor.spaceAt 1
  match cursor.peek? with
  | none => scan.scanStreamEnd
  | some c =>
      if cursor.mark.column = 0 ∧ c = '%' then scan.scanDirectiveLine
      else if cursor.atDocumentMark '-' then scan.scanDocumentMark .documentStart
      else if cursor.atDocumentMark '.' then scan.scanDocumentMark .documentEnd
      else if c = '[' then scan.scanFlowStart .flowSequenceStart
      else if c = '{' then scan.scanFlowStart .flowMappingStart
      else if c = ']' then scan.scanFlowEnd .flowSequenceEnd
      else if c = '}' then scan.scanFlowEnd .flowMappingEnd
      else if c = ',' then scan.scanFlowEntry
      else if c = '-' ∧ cursor.spaceAt 1 then scan.scanBlockEntry
      else if c = '?' ∧ marked then scan.scanKey
      else if c = ':' ∧ marked then scan.scanValue
      else if c = '*' then
        scan.scanContent fun cursor => do
          let (name, cursor) ← scanName .aliasName cursor
          return (.aliasTo name, cursor)
      else if c = '&' then
        scan.scanContent fun cursor => do
          let (name, cursor) ← scanName .anchor cursor
          return (.anchor name, cursor)
      else if c = '!' then
        scan.scanContent fun cursor => do
          let (tag, cursor) ← scanTag scan.inFlow cursor
          return (.tag tag, cursor)
      else if c = '|' ∧ !scan.inFlow then scan.scanBlockScalar true
      else if c = '>' ∧ !scan.inFlow then scan.scanBlockScalar false
      else if c = '\'' then scan.scanQuotedScalar false
      else if c = '"' then scan.scanQuotedScalar true
      else if scan.atPlainScalar then scan.scanPlainScalar
      else .error (.within .nextToken cursor.mark .strayCharacter cursor.mark)

/-- Reads the next token, with the tokens of the indentation before it. -/
def next (scan : Scan) : Except Fault Scan := do
  let scan ← (toNextToken (scan.cursor.rest.length + 1) scan).refreshAll
  (← (scan.closeBlocks scan.column).scanToken).refreshAll

/-- The number of the first token that may still become a key. -/
def firstPending (scan : Scan) : Nat :=
  (scan.pending :: scan.outerPending).foldl
    (fun least pending => (pending.map fun key => min least key.number).getD least)
    scan.tokens.length

def ofText (cs : List Char) : Scan where
  cursor := .ofText cs
  tokens := []
  indent := -1
  outer := []
  pending := none
  outerPending := []
  keyAllowed := true
  isDone := false

end Scan

/-- A character that no text may hold. -/
structure Intruder where
  /-- The bytes before it. -/
  offset : Nat
  /-- The bytes before the piece of text that it lies in. -/
  piece : Nat
deriving DecidableEq, Repr

/-- A text is looked at in pieces of at most so many bytes. -/
def pieceSize : Nat := 16384

/-- The first character that no text may hold, behind `offset` bytes, in a text whose last piece
begins behind `piece` bytes. -/
def intruder? (piece offset : Nat) : List Char → Option Intruder
  | [] => none
  | c :: cs =>
      let next := offset + c.utf8Size
      let piece := if piece + pieceSize < next then offset else piece
      if isPrintable c then intruder? piece next cs else some ⟨offset, piece⟩

namespace Intruder

def fault (intruder : Intruder) : Fault :=
  .plain (.controlCharacter intruder.offset) .start

/-- How many characters are looked at before a token begins. -/
def lookahead : Nat := 4

def isBefore (intruder : Intruder) (mark : Mark) : Bool :=
  intruder.piece < mark.index + lookahead

end Intruder

namespace Scan

/-- Reads tokens up to the end of the text or to a fault. -/
def run (intruder : Option Intruder) : (fuel : Nat) → Scan → Scan × Option Fault
  | 0, scan => (scan, none)
  | fuel + 1, scan =>
      if scan.isDone then (scan, none)
      else
        let next := scan.next
        let mark :=
          match next with
          | .ok next => next.cursor.mark
          | .error fault => fault.mark
        match intruder.filter (·.isBefore mark), next with
        | some intruder, _ => (scan, some intruder.fault)
        | none, .ok next => run intruder fuel next
        | none, .error fault => (scan, some fault)

end Scan

/-- The tokens of a text that can be used, and the fault that ends them. -/
def tokens (cs : List Char) : List Located × Option Fault :=
  let (scan, fault) := Scan.run (intruder? 0 0 cs) (cs.length + 2) (Scan.ofText cs)
  match fault with
  | none => (scan.tokens.reverse, none)
  | some fault => (scan.tokens.reverse.take scan.firstPending, some fault)

end LintCorpus.Yaml
