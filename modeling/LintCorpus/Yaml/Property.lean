import LintCorpus.Text.Numeral
import LintCorpus.Yaml.Cursor

/-!
Names, tags and directives: what a node may carry before its content, and what a document may carry
before its root.
-/

namespace LintCorpus.Yaml

/-- Reads the name of an anchor, or of an alias to one, behind its mark. -/
def scanName (activity : Activity) (cursor : Cursor) : Except Fault (String × Cursor) :=
  let name := (cursor.forward 1).run isNameChar
  let behind := (cursor.forward 1).forward name.length
  let isEnded := behind.spaceAt 0 ||
    behind.peek?.any fun c => ['?', ':', ',', ']', '}', '%', '@', '\x60'].contains c
  if name.isEmpty || !isEnded then
    .error (.within activity cursor.mark .missingAnchorName behind.mark)
  else .ok (String.ofList name, behind)

/-- A tag.  Its bytes can be escaped one by one, so that they need not be a text. -/
abbrev Tag := List UInt8

/-- A tag as it is written: a handle that stands for a beginning, and an ending. -/
structure TagText where
  handle : List Char
  suffix : Tag
deriving DecidableEq, Repr

/-- A character that may stand in a tag by itself. -/
def isUriChar (isVerbatim : Bool) (c : Char) : Bool :=
  isNameChar c || ";/?:@&=+$.%!~*'()".toList.contains c ||
    (isVerbatim && (c = ',' || c = '[' || c = ']'))

/-- The byte that an escape at the cursor stands for. -/
def octet? (cursor : Cursor) : Option Nat :=
  if cursor.has '%' then
    (Text.numeral? 16 ((cursor.rest.drop 1).take 2)).filter fun _ => 3 ≤ (cursor.rest.take 3).length
  else none

/-- The number of bytes of a character, by its first byte. -/
def octetWidth (octet : Nat) : Nat :=
  if octet < 0x80 then 1
  else if octet / 0x20 = 0x6 then 2
  else if octet / 0x10 = 0xE then 3
  else if octet / 0x08 = 0x1E then 4
  else 0

/-- Reads the escaped bytes of a character behind its first byte. -/
def scanTrailingOctets (fault : Cause → Mark → Fault) :
    (count : Nat) → Cursor → Except Fault (List UInt8 × Cursor)
  | 0, cursor => .ok ([], cursor)
  | count + 1, cursor =>
      match octet? cursor with
      | none => .error (fault .missingUriOctet cursor.mark)
      | some octet =>
          if octet / 0x40 = 2 then do
            let (octets, cursor) ← scanTrailingOctets fault count (cursor.forward 3)
            return (octet.toUInt8 :: octets, cursor)
          else .error (fault .wrongTrailingOctet cursor.mark)

/-- Reads the escaped bytes of a character.  The first byte tells how many follow it. -/
def scanOctets (fault : Cause → Mark → Fault) (cursor : Cursor) :
    Except Fault (List UInt8 × Cursor) :=
  match octet? cursor with
  | none => .error (fault .missingUriOctet cursor.mark)
  | some octet =>
      match octetWidth octet with
      | 0 => .error (fault .wrongLeadingOctet cursor.mark)
      | width + 1 => do
          let (octets, cursor) ← scanTrailingOctets fault width (cursor.forward 3)
          return (octet.toUInt8 :: octets, cursor)

/-- Reads the characters of a tag. -/
def scanUriChars (isVerbatim : Bool) (fault : Cause → Mark → Fault) :
    (fuel : Nat) → Cursor → Except Fault (List UInt8 × Cursor)
  | 0, cursor => .ok ([], cursor)
  | fuel + 1, cursor =>
      match cursor.peek? with
      | none => .ok ([], cursor)
      | some c =>
          if c = '%' then do
            let (octets, cursor) ← scanOctets fault cursor
            let (more, cursor) ← scanUriChars isVerbatim fault fuel cursor
            return (octets ++ more, cursor)
          else if isUriChar isVerbatim c then do
            let (more, cursor) ← scanUriChars isVerbatim fault fuel (cursor.forward 1)
            return (Text.bytesOf [c] ++ more, cursor)
          else .ok ([], cursor)

/-- Reads the ending of a tag behind what is known of it.  Something has to be written, and what is
written counts up to its first zero byte. -/
def scanUri (isVerbatim inDirective : Bool) (head : List Char) (start : Mark) (cursor : Cursor) :
    Except Fault (Tag × Cursor) := do
  let fault := Fault.within (if inDirective then .tagDirectiveUri else .tagUri) start
  let (uri, behind) ← scanUriChars isVerbatim fault cursor.rest.length cursor
  if head.isEmpty && uri.isEmpty then throw (fault .missingTagUri behind.mark)
  return ((Text.bytesOf (head.drop 1) ++ uri).takeWhile (· ≠ 0), behind)

/-- Reads a handle: an exclamation mark, or a name between two of them.  In a tag, a name without
the second mark is the beginning of the ending. -/
def scanHandle (inDirective : Bool) (start : Mark) (cursor : Cursor) :
    Except Fault (List Char × Cursor) :=
  if !cursor.has '!' then
    .error (.within (if inDirective then .tagDirectiveMark else .tag) start .missingTagMark
      cursor.mark)
  else
    let name := (cursor.forward 1).run isNameChar
    let behind := (cursor.forward 1).forward name.length
    if behind.has '!' then .ok ('!' :: (name ++ ['!']), behind.forward 1)
    else if inDirective && !name.isEmpty then
      .error (.within .tagDirectiveHandle start .missingTagMark behind.mark)
    else .ok ('!' :: name, behind)

/-- Reads a tag between angle brackets. -/
def scanVerbatimTag (start : Mark) (cursor : Cursor) : Except Fault (TagText × Cursor) := do
  let (uri, cursor) ← scanUri true false [] start cursor
  if !cursor.has '>' then throw (.within .tag start .missingTagBracket cursor.mark)
  return (⟨[], uri⟩, cursor.forward 1)

/-- Reads a tag that begins with a handle. -/
def scanShorthandTag (start : Mark) (cursor : Cursor) : Except Fault (TagText × Cursor) := do
  let (handle, cursor) ← scanHandle false start cursor
  if 2 ≤ handle.length ∧ handle.getLast? = some '!' then
    let (uri, cursor) ← scanUri false false [] start cursor
    return (⟨handle, uri⟩, cursor)
  else
    let (uri, cursor) ← scanUri false false handle start cursor
    if uri.isEmpty then return (⟨[], Text.bytesOf ['!']⟩, cursor)
    else return (⟨['!'], uri⟩, cursor)

/-- Reads a tag.  A blank has to follow it, or a comma in a flow collection. -/
def scanTag (inFlow : Bool) (cursor : Cursor) : Except Fault (TagText × Cursor) := do
  let start := cursor.mark
  let (tag, cursor) ←
    if cursor.hasAt 1 '<' then scanVerbatimTag start (cursor.forward 2)
    else scanShorthandTag start cursor
  if !cursor.spaceAt 0 && !(inFlow && cursor.has ',') then
    throw (.within .tag start .missingTagEnd cursor.mark)
  return (tag, cursor)

inductive Directive where
  | version (major minor : Nat)
  | tag (handle : List Char) (front : Tag)
deriving DecidableEq, Repr

/-- The most digits of a part of a version. -/
def maxVersionDigits : Nat := 9

/-- Reads a part of a version. -/
def scanVersionNumber (start : Mark) (cursor : Cursor) : Except Fault (Nat × Cursor) :=
  let digits := cursor.run Char.isDigit
  let fault (cause : Cause) (mark : Mark) := Fault.within .versionDirective start cause mark
  if maxVersionDigits < digits.length then
    .error (fault .longVersionNumber (cursor.forward maxVersionDigits).mark)
  else
    match Text.numeral? 10 digits with
    | some n => .ok (n, cursor.forward digits.length)
    | none => .error (fault .missingVersionNumber cursor.mark)

def scanVersion (start : Mark) (cursor : Cursor) : Except Fault (Directive × Cursor) := do
  let (major, cursor) ← scanVersionNumber start cursor.passGap
  if !cursor.has '.' then throw (.within .versionDirective start .missingVersionPoint cursor.mark)
  let (minor, cursor) ← scanVersionNumber start (cursor.forward 1)
  return (.version major minor, cursor)

/-- Reads a handle and what it stands for. -/
def scanTagDirective (start : Mark) (cursor : Cursor) : Except Fault (Directive × Cursor) := do
  let (handle, cursor) ← scanHandle true start cursor.passGap
  if !cursor.peek?.any isGap then
    throw (.within .tagDirective start .missingTagSpace cursor.mark)
  let (front, cursor) ← scanUri true true [] start cursor.passGap
  if !cursor.spaceAt 0 then throw (.within .tagDirective start .missingTagEnd cursor.mark)
  return (.tag handle front, cursor)

/-- Reads a directive, up to the end of its line. -/
def scanDirective (cursor : Cursor) : Except Fault (Directive × Cursor) := do
  let start := cursor.mark
  let fault (cause : Cause) (mark : Mark) := Fault.within .directive start cause mark
  let name := (cursor.forward 1).run isNameChar
  let cursor := (cursor.forward 1).forward name.length
  if name.isEmpty then throw (fault .missingDirectiveName cursor.mark)
  if !cursor.spaceAt 0 then throw (fault .oddDirectiveName cursor.mark)
  let (directive, cursor) ←
    if name = "YAML".toList then scanVersion start cursor
    else if name = "TAG".toList then scanTagDirective start cursor
    else throw (fault .unknownDirective cursor.mark)
  let cursor := cursor.passGap.passComment
  if !cursor.atLineEnd then throw (fault .missingDirectiveEnd cursor.mark)
  return (directive, cursor.passBreak)

end LintCorpus.Yaml
