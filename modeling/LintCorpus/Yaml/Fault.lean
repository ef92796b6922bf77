/-!
Faults of YAML texts: what is wrong, where, and what was being read.
-/

namespace LintCorpus.Yaml

/-- A place in a text: the bytes and the lines before it, and the characters of its line before
it. -/
structure Mark where
  index : Nat
  line : Nat
  column : Nat
deriving DecidableEq, Repr

namespace Mark

/-- The beginning of a text. -/
def start : Mark := ⟨0, 0, 0⟩

/-- The mark is at the first character of the first line. -/
def isStart (mark : Mark) : Bool :=
  mark.line = 0 && mark.column = 0

/-- Both marks are on the same line and column. -/
def samePlace (a b : Mark) : Bool :=
  a.line = b.line && a.column = b.column

/-- The mark in words, counted from one.  Nothing is said of the beginning of a text. -/
def suffix (mark : Mark) : String :=
  if mark.isStart then ""
  else " at line " ++ toString (mark.line + 1) ++ " column " ++ toString (mark.column + 1)

end Mark

/-- What can be wrong with the form of a text. -/
inductive Cause where
  /-- A character that no text may hold, with the bytes before it. -/
  | controlCharacter (offset : Nat)
  | blockEntryNotAllowed
  | mappingKeyNotAllowed
  | mappingValueNotAllowed
  | missingColon
  | strayCharacter
  | unknownDirective
  | missingDirectiveName
  | oddDirectiveName
  | missingDirectiveEnd
  | missingVersionPoint
  | longVersionNumber
  | missingVersionNumber
  | missingTagMark
  | missingTagSpace
  | missingTagEnd
  | missingTagBracket
  | missingTagUri
  | missingUriOctet
  | wrongLeadingOctet
  | wrongTrailingOctet
  | missingAnchorName
  | zeroIndentation
  | tabInIndentation
  | tabBeforeText
  | documentMarkInQuotes
  | endInQuotes
  | unknownEscape
  | missingHexDigit
  | wrongCharacterCode
  | colonInFlowText
  | missingDocumentStart
  | duplicateVersion
  | incompatibleVersion
  | duplicateTagDirective
  | undefinedTagHandle
  | missingNodeContent
  | missingDash
  | missingKey
  | missingFlowSequenceEnd
  | missingFlowMappingEnd
  | unknownAnchor
deriving DecidableEq, Repr

def Cause.message : Cause → String
  | controlCharacter _ => "control characters are not allowed"
  | blockEntryNotAllowed => "block sequence entries are not allowed in this context"
  | mappingKeyNotAllowed => "mapping keys are not allowed in this context"
  | mappingValueNotAllowed => "mapping values are not allowed in this context"
  | missingColon => "could not find expected ':'"
  | strayCharacter => "found character that cannot start any token"
  | unknownDirective => "found unknown directive name"
  | missingDirectiveName => "could not find expected directive name"
  | oddDirectiveName => "found unexpected non-alphabetical character"
  | missingDirectiveEnd => "did not find expected comment or line break"
  | missingVersionPoint => "did not find expected digit or '.' character"
  | longVersionNumber => "found extremely long version number"
  | missingVersionNumber => "did not find expected version number"
  | missingTagMark => "did not find expected '!'"
  | missingTagSpace => "did not find expected whitespace"
  | missingTagEnd => "did not find expected whitespace or line break"
  | missingTagBracket => "did not find the expected '>'"
  | missingTagUri => "did not find expected tag URI"
  | missingUriOctet => "did not find URI escaped octet"
  | wrongLeadingOctet => "found an incorrect leading UTF-8 octet"
  | wrongTrailingOctet => "found an incorrect trailing UTF-8 octet"
  | missingAnchorName => "did not find expected alphabetic or numeric character"
  | zeroIndentation => "found an indentation indicator equal to 0"
  | tabInIndentation => "found a tab character where an indentation space is expected"
  | tabBeforeText => "found a tab character that violates indentation"
  | documentMarkInQuotes => "found unexpected document indicator"
  | endInQuotes => "found unexpected end of stream"
  | unknownEscape => "found unknown escape character"
  | missingHexDigit => "did not find expected hexadecimal number"
  | wrongCharacterCode => "found invalid Unicode character escape code"
  | colonInFlowText => "found unexpected ':'"
  | missingDocumentStart => "did not find expected <document start>"
  | duplicateVersion => "found duplicate %YAML directive"
  | incompatibleVersion => "found incompatible YAML document"
  | duplicateTagDirective => "found duplicate %TAG directive"
  | undefinedTagHandle => "found undefined tag handle"
  | missingNodeContent => "did not find expected node content"
  | missingDash => "did not find expected '-' indicator"
  | missingKey => "did not find expected key"
  | missingFlowSequenceEnd => "did not find expected ',' or ']'"
  | missingFlowMappingEnd => "did not find expected ',' or '\x7d'"
  | unknownAnchor => "unknown anchor"

/-- What was being read when a fault was noticed. -/
inductive Activity where
  | simpleKey
  | nextToken
  | directive
  | versionDirective
  | tagDirective
  | tagDirectiveMark
  | tagDirectiveHandle
  | tagDirectiveUri
  | tag
  | tagUri
  | anchor
  | aliasName
  | blockScalar
  | quotedScalar
  | escape
  | plainScalar
  | node
  | blockNode
  | flowNode
  | blockCollection
  | blockMapping
  | flowSequence
  | flowMapping
deriving DecidableEq, Repr

def Activity.message : Activity → String
  | simpleKey => "while scanning a simple key"
  | nextToken => "while scanning for the next token"
  | directive => "while scanning a directive"
  | versionDirective => "while scanning a %YAML directive"
  | tagDirective => "while scanning a %TAG directive"
  | tagDirectiveMark => "while scanning a tag directive"
  | tagDirectiveHandle => "while parsing a tag directive"
  | tagDirectiveUri => "while parsing a %TAG directive"
  | tag => "while scanning a tag"
  | tagUri => "while parsing a tag"
  | anchor => "while scanning an anchor"
  | aliasName => "while scanning an alias"
  | blockScalar => "while scanning a block scalar"
  | quotedScalar => "while scanning a quoted scalar"
  | escape => "while parsing a quoted scalar"
  | plainScalar => "while scanning a plain scalar"
  | node => "while parsing a node"
  | blockNode => "while parsing a block node"
  | flowNode => "while parsing a flow node"
  | blockCollection => "while parsing a block collection"
  | blockMapping => "while parsing a block mapping"
  | flowSequence => "while parsing a flow sequence"
  | flowMapping => "while parsing a flow mapping"

structure Fault where
  cause : Cause
  /-- Where it was noticed. -/
  mark : Mark
  /-- What was being read, and where that began. -/
  during : Option (Activity × Mark)
deriving DecidableEq, Repr

def Fault.within (activity : Activity) (start : Mark) (cause : Cause) (mark : Mark) : Fault :=
  ⟨cause, mark, some (activity, start)⟩

def Fault.plain (cause : Cause) (mark : Mark) : Fault :=
  ⟨cause, mark, none⟩

def Fault.message (fault : Fault) : String :=
  let place :=
    match fault.cause with
    | .controlCharacter offset =>
        if offset = 0 then "" else " at position " ++ toString offset
    | _ => fault.mark.suffix
  let context :=
    match fault.during with
    | none => ""
    | some (activity, start) =>
        ", " ++ activity.message ++ if start.samePlace fault.mark then "" else start.suffix
  fault.cause.message ++ place ++ context

end LintCorpus.Yaml
