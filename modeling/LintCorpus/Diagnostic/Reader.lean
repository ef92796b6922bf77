import LintCorpus.Diagnostic.Console
import LintCorpus.Diagnostic.ExportFixes
import LintCorpus.Files
import LintCorpus.Yaml.Node
import LintCorpus.Yaml.Value

/-!
Reading a document of exported fixes.  The nodes are read in the order of the text, so that
whatever is wrong first is what is reported, also before a place where the document breaks off.

Fields that a diagnostic does not know are kept until its end, because some of them make up its
message; they have to be of the kinds that plain scalars, sequences and mappings have.

Diagnostics are loaded from a file in either of the formats in which they are stored.
-/

namespace LintCorpus.ExportFixes

open Yaml

/-- A step from a node to a part of it. -/
inductive Step where
  | item (index : Nat)
  | field (key : String)
  /-- The key is not written in place. -/
  | unknown
deriving DecidableEq, Repr

/-- The way from the root to a node, the last step first. -/
abbrev Path := List Step

def pathText : Path → String
  | [] => "."
  | .item index :: path => pathText path ++ "[" ++ toString index ++ "]"
  | [.field key] => key
  | .field key :: path => pathText path ++ "." ++ key
  | [.unknown] => "?"
  | .unknown :: path => pathText path ++ ".?"

/-- Why a text holds no exported fixes. -/
inductive Problem where
  /-- The text is not well formed. -/
  | form (fault : Fault)
  /-- A node is not what is expected; its place is told when it is known. -/
  | content (message : String) (place : Option (Mark × Path))
  /-- Collections are nested too deeply. -/
  | tooDeep (mark : Mark)
  /-- Aliases are followed too often. -/
  | tooManyAliases
  /-- Nothing is left to be read. -/
  | ended
  /-- There is more than one document. -/
  | moreDocuments
deriving DecidableEq, Repr

def Problem.message : Problem → String
  | form fault => fault.message
  | content message none => message
  | content message (some (mark, path)) =>
      (if path.isEmpty then "" else pathText path ++ ": ") ++ message ++ mark.suffix
  | tooDeep mark => "recursion limit exceeded" ++ mark.suffix
  | tooManyAliases => "repetition limit exceeded"
  | ended => "EOF while parsing a value"
  | moreDocuments =>
      "deserializing from YAML containing more than one document is not supported"

/-- Reading nodes, with the number of aliases that were followed. -/
abbrev Decode := StateT Nat (Except Problem)

/-- What is wrong with a node whose place is not told yet. -/
def wrong {α : Type} (message : String) : Decode α :=
  throw (.content message none)

/-- Tells the place of what is wrong, if it is not told yet. -/
def located {α : Type} (mark : Mark) (path : Path) (decode : Decode α) : Decode α := fun aliases =>
  match decode aliases with
  | .error (.content message none) => .error (.content message (some (mark, path)))
  | result => result

def brokenOff {α : Type} (doc : Document) : Decode α :=
  throw ((doc.fault.map Problem.form).getD .ended)

def partCount (doc : Document) : Nat :=
  (doc.root.map Node.size).getD 0

/-- How often the aliases of a document may be followed, for each of its parts. -/
def aliasesPerPart : Nat := 100

/-- The node itself, or the one that it refers to. -/
def resolve (doc : Document) : Node → Decode Node
  | .cut => brokenOff doc
  | .aliasTo _ number => do
      let aliases := (← get) + 1
      set aliases
      if partCount doc * aliasesPerPart < aliases then throw .tooManyAliases
      match doc.root.bind (Node.find? number) with
      | some node => return node
      | none => brokenOff doc
  | node => return node

/-- A collection that breaks off is an error at its end. -/
def checkClosed (doc : Document) (isClosed : Bool) : Decode Unit :=
  if isClosed then return () else brokenOff doc

def wrongType {α : Type} (doc : Document) (path : Path) (expected : String) : Node → Decode α
  | .cut => brokenOff doc
  | .aliasTo _ _ => brokenOff doc
  | .scalar properties text style =>
      located properties.mark path <|
        match Value.ofScalar properties.tag text style with
        | .ok value => wrong ("invalid type: " ++ value.describe ++ ", expected " ++ expected)
        | .error message => wrong message
  | .sequence properties _ _ =>
      located properties.mark path (wrong ("invalid type: sequence, expected " ++ expected))
  | .mapping properties _ _ =>
      located properties.mark path (wrong ("invalid type: map, expected " ++ expected))

def readText (doc : Document) (expected : String) (path : Path) (node : Node) : Decode String := do
  match ← resolve doc node with
  | .scalar _ text _ => return text
  | node => wrongType doc path expected node

/-- The scalar is written as nothing. -/
def isNothing (properties : Properties) (text : String) (style : Style) : Decode Bool :=
  if style ≠ .plain then return false
  else
    match properties.tag with
    | none => return text.isEmpty || isNullText text
    | some tag =>
        if tag = nullTag then
          if isNullText text then return true else wrong (wrongValue text "null")
        else return false

/-- Reads a value that may be left open. -/
def readOptional {α : Type} (doc : Document) (read : Node → Decode α) (node : Node) :
    Decode (Option α) := do
  let node ← resolve doc node
  match node with
  | .scalar properties text style =>
      if ← isNothing properties text style then return none
      return some (← read node)
  | _ => return some (← read node)

/-- Reads an offset: a plain scalar, or a literal one that is tagged as an integer. -/
def readOffset (doc : Document) (path : Path) (node : Node) : Decode Nat := do
  let node ← resolve doc node
  match node with
  | .scalar properties text style =>
      if style = .plain ∨ (style = .literal ∧ properties.tag = some intTag) then
        match natOf? Text.maxOffset text.toList with
        | some offset => return offset
        | none => wrongType doc path "usize" node
      else wrongType doc path "usize" node
  | node => wrongType doc path "usize" node

def readKey (doc : Document) (path : Path) (key : Node) : Decode String :=
  readText doc "field identifier" path key

/-- The way to the value behind a key. -/
def valuePath (path : Path) : Node → Path
  | .scalar _ text _ => .field text :: path
  | _ => .unknown :: path

/-- Passes over a node that is not of interest. -/
def ignore (doc : Document) (node : Node) : Decode Unit :=
  if node.isWhole then return () else brokenOff doc

/-- What is wrong when a field is there twice. -/
def duplicateField {α : Type} (key : String) : Decode α :=
  wrong ("duplicate field `" ++ key ++ "`")

/-- The fields of a message that were read so far, where a field may be there without a value. -/
structure MessageFields where
  message : Option (Option String)
  filePath : Option (Option String)
  fileOffset : Option (Option Nat)

def MessageFields.none : MessageFields := ⟨.none, .none, .none⟩

def MessageFields.done (fields : MessageFields) : ExportedMessage :=
  ⟨fields.message.join, fields.filePath.join, fields.fileOffset.join⟩

def readMessageEntry (doc : Document) (path : Path) (fields : MessageFields)
    (entry : Node × Node) : Decode MessageFields := do
  let key ← readKey doc path entry.1
  let path := valuePath path entry.1
  let text := readOptional doc (readText doc "a string" path) entry.2
  match key with
  | "Message" =>
      if fields.message.isSome then duplicateField key
      return { fields with message := some (← text) }
  | "FilePath" =>
      if fields.filePath.isSome then duplicateField key
      return { fields with filePath := some (← text) }
  | "FileOffset" =>
      if fields.fileOffset.isSome then duplicateField key
      return { fields with fileOffset := some (← readOptional doc (readOffset doc path) entry.2) }
  | _ =>
      ignore doc entry.2
      return fields

def readMessage (doc : Document) (path : Path) (node : Node) : Decode ExportedMessage := do
  match ← resolve doc node with
  | .mapping properties entries isClosed =>
      located properties.mark path do
        let fields ← entries.foldlM (readMessageEntry doc path) .none
        checkClosed doc isClosed
        return fields.done
  | .scalar _ "" .plain => return .empty
  | node => wrongType doc path "struct ExportedMessage" node

/-- A value whose kind is not known beforehand. -/
inductive Content where
  | scalar (value : Value)
  | sequence
  | mapping
deriving DecidableEq, Repr

/-- The kind of the value in a message. -/
def Content.describe : Content → String
  | scalar value => value.describe
  | sequence => "sequence"
  | mapping => "map"

/-- A named tag of the document makes a node something that cannot be read. -/
def checkTag (properties : Properties) : Decode Unit :=
  if properties.tag.any isNamedTag then
    wrong "untagged and internally tagged enums do not support enum input"
  else return ()

/-- Integers of more than 64 bits cannot be kept. -/
def checkSize (value : Value) : Decode Unit :=
  let isHuge : Bool :=
    match value with
    | .nat n => Text.maxOffset < n
    | .minus n => maxNegative < n
    | _ => false
  if isHuge then wrong ("invalid type: " ++ value.describe ++ ", expected any value")
  else return ()

mutual

/-- Reads a node of any kind, in which collections may be nested `depth` deep. -/
def readContent (doc : Document) (depth : Nat) (path : Path) (node : Node) : Decode Content := do
  match ← resolve doc node with
  | .cut => brokenOff doc
  | .aliasTo _ _ => brokenOff doc
  | .scalar properties text style =>
      located properties.mark path do
        checkTag properties
        match Value.ofScalar properties.tag text style with
        | .ok value =>
            checkSize value
            return .scalar value
        | .error message => wrong message
  | .sequence properties items isClosed =>
      located properties.mark path do
        checkTag properties
        match depth with
        | 0 => throw (.tooDeep properties.mark)
        | depth + 1 =>
            readItems doc depth path 0 items
            checkClosed doc isClosed
            return .sequence
  | .mapping properties entries isClosed =>
      located properties.mark path do
        checkTag properties
        match depth with
        | 0 => throw (.tooDeep properties.mark)
        | depth + 1 =>
            readEntries doc depth path entries
            checkClosed doc isClosed
            return .mapping
termination_by (depth, 0)

def readItems (doc : Document) (depth : Nat) (path : Path) (index : Nat) :
    List Node → Decode Unit
  | [] => return ()
  | item :: items => do
      discard (readContent doc depth (.item index :: path) item)
      readItems doc depth path (index + 1) items
termination_by items => (depth, items.length + 1)

def readEntries (doc : Document) (depth : Nat) (path : Path) : List (Node × Node) → Decode Unit
  | [] => return ()
  | (key, value) :: entries => do
      discard (readContent doc depth path key)
      discard (readContent doc depth (valuePath path key) value)
      readEntries doc depth path entries
termination_by entries => (depth, entries.length + 1)

end

/-- The text of a field that was kept, which may be nothing. -/
def textOf (content : Content) : Decode (Option String) :=
  match content with
  | .scalar .null => return none
  | .scalar (.text s) => return some s
  | content => wrong ("invalid type: " ++ content.describe ++ ", expected a string")

/-- The offset of a field that was kept, which may be nothing. -/
def offsetOf (content : Content) : Decode (Option Nat) :=
  match content with
  | .scalar .null => return none
  | .scalar (.nat n) => return some n
  | .scalar (.minus 0) => return some 0
  | .scalar (.minus n) =>
      wrong ("invalid value: " ++ (Value.minus n).describe ++ ", expected usize")
  | content => wrong ("invalid type: " ++ content.describe ++ ", expected usize")

def takeField (fields : MessageFields) (entry : String × Content) : Decode MessageFields := do
  match entry.1 with
  | "Message" =>
      if fields.message.isSome then duplicateField entry.1
      return { fields with message := some (← textOf entry.2) }
  | "FilePath" =>
      if fields.filePath.isSome then duplicateField entry.1
      return { fields with filePath := some (← textOf entry.2) }
  | "FileOffset" =>
      if fields.fileOffset.isSome then duplicateField entry.1
      return { fields with fileOffset := some (← offsetOf entry.2) }
  | _ => return fields

/-- The fields of a diagnostic that were read so far, and the ones that were kept. -/
structure DiagnosticFields where
  name : Option String
  level : Option (Option String)
  nested : Option (Option ExportedMessage)
  kept : List (String × Content)

/-- How deeply the collections of a kept field may be nested: three levels less than all. -/
def keptDepth : Nat := 125

def readDiagnosticEntry (doc : Document) (path : Path) (fields : DiagnosticFields)
    (entry : Node × Node) : Decode DiagnosticFields := do
  let key ← readKey doc path entry.1
  let path := valuePath path entry.1
  match key with
  | "DiagnosticName" =>
      if fields.name.isSome then duplicateField key
      return { fields with name := some (← readText doc "a string" path entry.2) }
  | "Level" =>
      if fields.level.isSome then duplicateField key
      let level ← readOptional doc (readText doc "a string" path) entry.2
      return { fields with level := some level }
  | "DiagnosticMessage" =>
      if fields.nested.isSome then duplicateField key
      return { fields with nested := some (← readOptional doc (readMessage doc path) entry.2) }
  | _ =>
      let content ← readContent doc keptDepth path entry.2
      return { fields with kept := fields.kept ++ [(key, content)] }

def DiagnosticFields.done (fields : DiagnosticFields) : Decode ExportedDiagnostic := do
  match fields.name with
  | none => wrong "missing field `DiagnosticName`"
  | some name =>
      let inline ← fields.kept.foldlM takeField .none
      return ⟨name, fields.level.join, fields.nested.join, inline.done⟩

def readDiagnostic (doc : Document) (path : Path) (node : Node) : Decode ExportedDiagnostic := do
  let none : DiagnosticFields := ⟨none, none, none, []⟩
  match ← resolve doc node with
  | .mapping properties entries isClosed =>
      located properties.mark path do
        let fields ← entries.foldlM (readDiagnosticEntry doc path) none
        checkClosed doc isClosed
        fields.done
  | .scalar properties "" .plain => located properties.mark path none.done
  | node => wrongType doc path "struct ExportedDiagnostic" node

def readDiagnosticsFrom (doc : Document) (path : Path) (index : Nat) :
    List Node → Decode (List ExportedDiagnostic)
  | [] => return []
  | item :: items => do
      let diagnostic ← readDiagnostic doc (.item index :: path) item
      return diagnostic :: (← readDiagnosticsFrom doc path (index + 1) items)

/-- Reads the sequence of diagnostics, which may be left empty. -/
def readDiagnostics (doc : Document) (path : Path) (node : Node) :
    Decode (List ExportedDiagnostic) := do
  match ← resolve doc node with
  | .sequence _ items isClosed =>
      let diagnostics ← readDiagnosticsFrom doc path 0 items
      checkClosed doc isClosed
      return diagnostics
  | .scalar _ "" .plain => return []
  | node => wrongType doc path "a sequence" node

/-- Reads an entry of the root, of which the diagnostics alone are of interest. -/
def readRootEntry (doc : Document) (found : Option (List ExportedDiagnostic))
    (entry : Node × Node) : Decode (Option (List ExportedDiagnostic)) := do
  let key ← readKey doc [] entry.1
  match key with
  | "Diagnostics" =>
      if found.isSome then duplicateField key
      return some (← readDiagnostics doc (valuePath [] entry.1) entry.2)
  | _ =>
      ignore doc entry.2
      return found

def readRoot (doc : Document) : Decode (List ExportedDiagnostic) := do
  match doc.root with
  | none => return []
  | some root =>
      match ← resolve doc root with
      | .mapping properties entries isClosed =>
          located properties.mark [] do
            let found ← entries.foldlM (readRootEntry doc) none
            checkClosed doc isClosed
            return found.getD []
      | .scalar _ "" .plain => return []
      | node => wrongType doc [] "struct ExportFixes" node

def read (text : String) : Except Problem (List ExportedDiagnostic) := do
  let doc := Document.ofText text.toList
  let diagnostics ← (readRoot doc).run' 0
  match doc.fault with
  | some fault => throw (.form fault)
  | none => if doc.hasMore then throw .moreDocuments else return diagnostics

end LintCorpus.ExportFixes

namespace LintCorpus

def Corpus.readExportFixes (corpus : Corpus) (text : String) :
    Except ExportFixes.Problem (List Diagnostic) :=
  (ExportFixes.read text).map fun exported => exported.map (·.resolve corpus)

/-- What is said of a text that holds no exported fixes. -/
def ExportFixes.Problem.report (problem : ExportFixes.Problem) : String :=
  "invalid export-fixes document: " ++ problem.message

/-- Why no diagnostics were loaded. -/
inductive LoadFailure where
  /-- The file cannot be read. -/
  | file (failure : FileFailure)
  /-- The text of the file holds no exported fixes. -/
  | document (problem : ExportFixes.Problem)
deriving DecidableEq, Repr

/-- The failure in words, from the outermost cause to the innermost one. -/
def LoadFailure.causes : LoadFailure → List String
  | file failure => [failure.message, failure.error.message]
  | document problem => [problem.report, problem.message]

namespace Corpus

def readDiagnostics (corpus : Corpus) (format : DiagnosticFormat) (text : String) :
    Except LoadFailure (List Diagnostic) :=
  match format with
  | .text => .ok (Console.read text)
  | .yaml => (corpus.readExportFixes text).mapError .document

def loadDiagnostics {m : Type → Type} [Monad m] [MonadFiles m] (corpus : Corpus) (path : String)
    (format : DiagnosticFormat) : m (Except LoadFailure (List Diagnostic)) := do
  match ← Files.readText path with
  | .error error => return .error (.file ⟨path, error⟩)
  | .ok text => return corpus.readDiagnostics format text

end Corpus

end LintCorpus
