import Mathlib.Data.List.Forall2
import Mathlib.Data.List.ReduceOption
import LintCorpus.Diagnostic.Reader

/-!
What a document of exported fixes holds, said of its nodes.  A mapping gives its fields in any
order, among others that are passed over; a diagnostic has its message in a mapping of its own or
beside its other fields.  The reader finds in such a document what the notices say
(`read_of_holds`).
-/

namespace LintCorpus.ExportFixes

open Yaml

/-- What an analyzer has to say about a place, which is a byte offset into a file. -/
structure Notice where
  path : String
  offset : Nat
  check : String
  severity : Severity
  message : String
deriving DecidableEq, Repr

/-- No tag of the document itself stands before the node. -/
def Untagged (properties : Properties) : Prop :=
  properties.tag.any isNamedTag = false

/-- A scalar that is written with these characters, whatever it stands for. -/
def IsKey (node : Node) (key : String) : Prop :=
  ∃ properties style, node = .scalar properties key style

/-- A scalar that stands for a text. -/
def IsText (node : Node) (s : String) : Prop :=
  ∃ properties style, node = .scalar properties s style ∧ Untagged properties ∧
    Value.ofScalar properties.tag s style = .ok (.text s)

/-- A plain scalar that stands for a number. -/
def IsNumber (node : Node) (n : Nat) : Prop :=
  ∃ properties text, node = .scalar properties text .plain ∧ Untagged properties ∧
    Value.ofScalar properties.tag text .plain = .ok (.nat n)

/-- The value is no integer, or one of 64 bits. -/
def IsSmall : Value → Prop
  | .nat n => n ≤ Text.maxOffset
  | .minus n => n ≤ maxNegative
  | _ => True

/-- A node that can be kept until it is known whether it belongs to a message.  Collections are
nested at most `depth` deep in it. -/
inductive Keepable : (depth : Nat) → Node → Prop where
  | scalar {depth : Nat} {properties : Properties} {text : String} {style : Style} {value : Value}
      (htag : Untagged properties) (hvalue : Value.ofScalar properties.tag text style = .ok value)
      (hsmall : IsSmall value) : Keepable depth (.scalar properties text style)
  | sequence {depth : Nat} {properties : Properties} {items : List Node}
      (htag : Untagged properties) (hitems : ∀ item ∈ items, Keepable depth item) :
      Keepable (depth + 1) (.sequence properties items true)
  | mapping {depth : Nat} {properties : Properties} {entries : List (Node × Node)}
      (htag : Untagged properties) (hkeys : ∀ entry ∈ entries, Keepable depth entry.1)
      (hvalues : ∀ entry ∈ entries, Keepable depth entry.2) :
      Keepable (depth + 1) (.mapping properties entries true)

/-- An entry of a mapping gives one of the fields, or it is another one, whose key is none of
theirs. -/
inductive EntryForm {κ : Type} (name : κ → String) (fills : κ → Node → Prop)
    (other : Node → Prop) : Option κ → Node × Node → Prop where
  | field {field : κ} {key value : Node} (hkey : IsKey key (name field))
      (hvalue : fills field value) : EntryForm name fills other (some field) (key, value)
  | other {text : String} {key value : Node} (hkey : IsKey key text)
      (htext : ∀ field, text ≠ name field) (hvalue : other value) :
      EntryForm name fills other none (key, value)

/-- The entries give each of the fields once, in any order. -/
def Gives {κ ε : Type} (form : Option κ → ε → Prop) (fields : List κ) (entries : List ε) : Prop :=
  ∃ given, List.Forall₂ form given entries ∧ given.reduceOption.Perm fields

/-- A mapping with these fields. -/
def MappingForm {κ : Type} (form : Option κ → Node × Node → Prop) (fields : List κ)
    (node : Node) : Prop :=
  ∃ properties entries, node = .mapping properties entries true ∧ Gives form fields entries

/-- The fields of a message. -/
inductive MessageKey where
  | message
  | path
  | offset
deriving DecidableEq, Repr

def MessageKey.all : List MessageKey :=
  [message, path, offset]

def MessageKey.name : MessageKey → String
  | message => "Message"
  | path => "FilePath"
  | offset => "FileOffset"

/-- The node is the value of the notice for a field of its message. -/
def Notice.FillsMessage (notice : Notice) : MessageKey → Node → Prop
  | .message, node => IsText node notice.message
  | .path, node => IsText node notice.path
  | .offset, node => IsNumber node notice.offset

def MessageEntry (notice : Notice) : Option MessageKey → Node × Node → Prop :=
  EntryForm MessageKey.name notice.FillsMessage fun node => node.isWhole = true

/-- The fields of a diagnostic, where those of its message may stand beside the others. -/
inductive DiagnosticKey where
  | check
  | level
  | nested
  | inline (key : MessageKey)
deriving DecidableEq, Repr

def DiagnosticKey.name : DiagnosticKey → String
  | check => "DiagnosticName"
  | level => "Level"
  | nested => "DiagnosticMessage"
  | inline key => key.name

/-- The node is the value of the notice for a field.  The level may be written in letters of either
case. -/
def Notice.Fills (notice : Notice) : DiagnosticKey → Node → Prop
  | .check, node => IsText node notice.check
  | .level, node => ∃ level, IsText node level ∧
      Text.lowercaseAscii level.toList = notice.severity.name.toList
  | .nested, node => MappingForm (MessageEntry notice) MessageKey.all node
  | .inline key, node => notice.FillsMessage key node

def DiagnosticEntry (notice : Notice) : Option DiagnosticKey → Node × Node → Prop :=
  EntryForm DiagnosticKey.name notice.Fills (Keepable keptDepth)

/-- The message is a mapping of its own. -/
def nestedLayout : List DiagnosticKey :=
  [.check, .level, .nested]

/-- The fields of the message stand beside those of the diagnostic. -/
def inlineLayout : List DiagnosticKey :=
  [.check, .level, .inline .message, .inline .path, .inline .offset]

/-- The node says what the notice says, in one of the layouts. -/
def DiagnosticForm (notice : Notice) (node : Node) : Prop :=
  MappingForm (DiagnosticEntry notice) nestedLayout node ∨
    MappingForm (DiagnosticEntry notice) inlineLayout node

/-- A sequence of the notices, in their order. -/
def SequenceForm (notices : List Notice) (node : Node) : Prop :=
  ∃ properties items, node = .sequence properties items true ∧
    List.Forall₂ DiagnosticForm notices items

def RootEntry (notices : List Notice) : Option Unit → Node × Node → Prop :=
  EntryForm (fun _ => "Diagnostics") (fun _ => SequenceForm notices) fun node =>
    node.isWhole = true

/-- The document is whole, and its diagnostics are the notices. -/
structure Holds (doc : Document) (notices : List Notice) : Prop where
  fault : doc.fault = none
  single : doc.hasMore = false
  root : ∃ node, doc.root = some node ∧ MappingForm (RootEntry notices) [()] node

end LintCorpus.ExportFixes
