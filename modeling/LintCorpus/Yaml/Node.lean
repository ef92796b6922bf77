import LintCorpus.Yaml.Token

/-!
The nodes of a YAML document.

A document that breaks off keeps the nodes that were read before: a collection without its end is
not closed, and a node that is not there is cut off.  What lies behind the break is a fault of the
document, so that whoever reads the nodes may find something wrong before it.
-/

namespace LintCorpus.Yaml

/-- What a node carries beside its content. -/
structure Properties where
  mark : Mark
  /-- The number by which aliases refer to the node. -/
  anchor : Option Nat
  tag : Option Tag
deriving DecidableEq, Repr

/-- The properties of a node that carries nothing. -/
def Properties.bare (mark : Mark) : Properties := ⟨mark, none, none⟩

inductive Node where
  /-- The document broke off here. -/
  | cut
  /-- A reference to the node with this number. -/
  | aliasTo (mark : Mark) (number : Nat)
  | scalar (properties : Properties) (text : String) (style : Style)
  | sequence (properties : Properties) (items : List Node) (isClosed : Bool)
  | mapping (properties : Properties) (entries : List (Node × Node)) (isClosed : Bool)
deriving Repr

namespace Node

/-- A node without content. -/
def empty (mark : Mark) : Node :=
  .scalar (.bare mark) "" .plain

mutual

/-- The last node with the number, if there is one. -/
def find? (number : Nat) : Node → Option Node
  | .cut => none
  | .aliasTo _ _ => none
  | .scalar properties text style =>
      if properties.anchor = some number then some (.scalar properties text style) else none
  | .sequence properties items isClosed =>
      (findInItems? number items).or
        (if properties.anchor = some number then some (.sequence properties items isClosed)
          else none)
  | .mapping properties entries isClosed =>
      (findInEntries? number entries).or
        (if properties.anchor = some number then some (.mapping properties entries isClosed)
          else none)

def findInItems? (number : Nat) : List Node → Option Node
  | [] => none
  | item :: items => (findInItems? number items).or (find? number item)

def findInEntries? (number : Nat) : List (Node × Node) → Option Node
  | [] => none
  | (key, value) :: entries =>
      (findInEntries? number entries).or ((find? number value).or (find? number key))

end

mutual

/-- How many parts a node has: itself, its end if it is a collection, and the parts of its
content. -/
def size : Node → Nat
  | .cut => 0
  | .aliasTo _ _ => 1
  | .scalar _ _ _ => 1
  | .sequence _ items isClosed => 1 + itemsSize items + if isClosed then 1 else 0
  | .mapping _ entries isClosed => 1 + entriesSize entries + if isClosed then 1 else 0

def itemsSize : List Node → Nat
  | [] => 0
  | item :: items => size item + itemsSize items

def entriesSize : List (Node × Node) → Nat
  | [] => 0
  | (key, value) :: entries => size key + size value + entriesSize entries

end

mutual

/-- The node is read to its end. -/
def isWhole : Node → Bool
  | .cut => false
  | .aliasTo _ _ => true
  | .scalar _ _ _ => true
  | .sequence _ items isClosed => itemsWhole items && isClosed
  | .mapping _ entries isClosed => entriesWhole entries && isClosed

/-- All items are read to their ends. -/
def itemsWhole : List Node → Bool
  | [] => true
  | item :: items => isWhole item && itemsWhole items

/-- All entries are read to their ends. -/
def entriesWhole : List (Node × Node) → Bool
  | [] => true
  | (key, value) :: entries => isWhole key && isWhole value && entriesWhole entries

end

mutual

def same : Node → Node → Bool
  | .cut, .cut => true
  | .aliasTo mark number, .aliasTo mark' number' => mark = mark' && number = number'
  | .scalar properties text style, .scalar properties' text' style' =>
      properties = properties' && text = text' && style = style'
  | .sequence properties items isClosed, .sequence properties' items' isClosed' =>
      properties = properties' && itemsSame items items' && isClosed = isClosed'
  | .mapping properties entries isClosed, .mapping properties' entries' isClosed' =>
      properties = properties' && entriesSame entries entries' && isClosed = isClosed'
  | _, _ => false

def itemsSame : List Node → List Node → Bool
  | [], [] => true
  | item :: items, item' :: items' => same item item' && itemsSame items items'
  | _, _ => false

def entriesSame : List (Node × Node) → List (Node × Node) → Bool
  | [], [] => true
  | (key, value) :: entries, (key', value') :: entries' =>
      same key key' && same value value' && entriesSame entries entries'
  | _, _ => false

end

mutual

theorem same_iff : (a b : Node) → (same a b = true ↔ a = b)
  | .cut, b => by cases b <;> simp [same]
  | .aliasTo _ _, b => by cases b <;> simp [same]
  | .scalar _ _ _, b => by cases b <;> simp [same, and_assoc]
  | .sequence _ items _, b => by cases b <;> simp [same, itemsSame_iff items, and_assoc]
  | .mapping _ entries _, b => by cases b <;> simp [same, entriesSame_iff entries, and_assoc]

theorem itemsSame_iff : (as bs : List Node) → (itemsSame as bs = true ↔ as = bs)
  | [], bs => by cases bs <;> simp [itemsSame]
  | item :: items, bs => by cases bs <;> simp [itemsSame, same_iff item, itemsSame_iff items]

theorem entriesSame_iff : (as bs : List (Node × Node)) → (entriesSame as bs = true ↔ as = bs)
  | [], bs => by cases bs <;> simp [entriesSame]
  | (key, value) :: entries, bs => by
      cases bs <;>
        simp [entriesSame, same_iff key, same_iff value, entriesSame_iff entries, Prod.ext_iff]

end

instance : DecidableEq Node := fun a b =>
  decidable_of_iff (same a b = true) (same_iff a b)

end Node

/-- What is left of the tokens, and what is known of the document so far.  Without tokens the
document has broken off. -/
structure Reader where
  tokens : List Located
  /-- Why the tokens end. -/
  fault : Option Fault
  /-- The names of anchors with their numbers, the last one first. -/
  anchors : List (String × Nat)
  handles : List (List Char × Tag)
deriving DecidableEq, Repr

namespace Reader

/-- Passes over a token. -/
def skip (reader : Reader) : Reader :=
  { reader with tokens := reader.tokens.tail }

/-- The next token. -/
def token? (reader : Reader) : Option Token :=
  reader.tokens.head?.map (·.token)

/-- The next token is one of those. -/
def isAt (reader : Reader) (tokens : List Token) : Bool :=
  reader.token?.any tokens.contains

/-- The document breaks off with a fault. -/
def fail (reader : Reader) (fault : Fault) : Reader :=
  { reader with tokens := [], fault := some fault }

/-- The document has broken off. -/
def isBroken (reader : Reader) : Bool :=
  reader.tokens.isEmpty

/-- Gives an anchor the number of names that are known. -/
def addAnchor (reader : Reader) (name : String) : Nat × Reader :=
  let number := ((reader.anchors.map (·.1)).eraseDups).length
  (number, { reader with anchors := (name, number) :: reader.anchors })

/-- The tag that is written so; there is none when the handle stands for nothing. -/
def resolveTag? (reader : Reader) (tag : TagText) : Option Tag :=
  if tag.handle.isEmpty then some tag.suffix
  else (reader.handles.find? (·.1 = tag.handle)).map fun entry => entry.2 ++ tag.suffix

/-- The anchor and the tag that were read before a node, with the mark of the tag. -/
structure Found where
  start : Mark
  anchor : Option String
  tag : Option (TagText × Mark)

/-- Reads an anchor and a tag, in either order. -/
def properties (reader : Reader) (mark : Mark) : Found × Reader :=
  match reader.tokens with
  | ⟨.anchor name, start, _⟩ :: ⟨.tag tag, tagStart, _⟩ :: rest =>
      (⟨start, some name, some (tag, tagStart)⟩, { reader with tokens := rest })
  | ⟨.anchor name, start, _⟩ :: rest => (⟨start, some name, none⟩, { reader with tokens := rest })
  | ⟨.tag tag, start, _⟩ :: ⟨.anchor name, _, _⟩ :: rest =>
      (⟨start, some name, some (tag, start)⟩, { reader with tokens := rest })
  | ⟨.tag tag, start, _⟩ :: rest =>
      (⟨start, none, some (tag, start)⟩, { reader with tokens := rest })
  | _ => (⟨mark, none, none⟩, reader)

/-- The properties of a node, where its anchor gets a number. -/
def register (reader : Reader) (start : Mark) (anchor : Option String) (tag : Option Tag) :
    Properties × Reader :=
  match anchor with
  | none => (⟨start, none, tag⟩, reader)
  | some name =>
      let (number, reader) := reader.addAnchor name
      (⟨start, some number, tag⟩, reader)

mutual

def node (fuel : Nat) (isBlock mayBeFlat : Bool) (reader : Reader) : Node × Reader :=
  match fuel, reader.tokens with
  | 0, _ => (.cut, reader)
  | _, [] => (.cut, reader)
  | _, ⟨.aliasTo name, start, _⟩ :: _ =>
      match reader.anchors.find? (·.1 = name) with
      | some entry => (.aliasTo start entry.2, reader.skip)
      | none => (.cut, reader.fail (.plain .unknownAnchor start))
  | fuel + 1, first :: _ =>
      let (found, reader) := reader.properties first.start
      if reader.isBroken then (.cut, reader)
      else
        match found.tag with
        | none => content fuel isBlock mayBeFlat found.start found.anchor none reader
        | some (tag, mark) =>
            match reader.resolveTag? tag with
            | some tag => content fuel isBlock mayBeFlat found.start found.anchor (some tag) reader
            | none => (.cut, reader.fail (.within .node found.start .undefinedTagHandle mark))

/-- Reads the content of a node behind its properties. -/
def content (fuel : Nat) (isBlock mayBeFlat : Bool) (start : Mark) (anchor : Option String)
    (tag : Option Tag) (reader : Reader) : Node × Reader :=
  match fuel, reader.tokens with
  | 0, _ => (.cut, reader)
  | _, [] => (.cut, reader)
  | fuel + 1, ⟨token, mark, _⟩ :: _ =>
      let (properties, inside) := reader.register start anchor tag
      if mayBeFlat && token = .blockEntry then
        let (items, isClosed, reader) := flatItems fuel inside
        (.sequence properties items isClosed, reader)
      else
        match token with
        | .scalar text style => (.scalar properties text style, inside.skip)
        | .flowSequenceStart =>
            let (items, isClosed, reader) := flowItems fuel mark true inside.skip
            (.sequence properties items isClosed, reader)
        | .flowMappingStart =>
            let (entries, isClosed, reader) := flowEntries fuel mark true inside.skip
            (.mapping properties entries isClosed, reader)
        | token =>
            if isBlock && token = .blockSequenceStart then
              let (items, isClosed, reader) := blockItems fuel mark inside.skip
              (.sequence properties items isClosed, reader)
            else if isBlock && token = .blockMappingStart then
              let (entries, isClosed, reader) := blockEntries fuel mark inside.skip
              (.mapping properties entries isClosed, reader)
            else if anchor.isSome || tag.isSome then (.scalar properties "" .plain, inside)
            else
              let activity := if isBlock then Activity.blockNode else .flowNode
              (.cut, reader.fail (.within activity start .missingNodeContent mark))

/-- Reads a node of a block, which is empty when one of the tokens follows that `ends` lists. -/
def blockPart (fuel : Nat) (mayBeFlat : Bool) (ends : List Token) (mark : Mark) (reader : Reader) :
    Node × Reader :=
  match fuel with
  | 0 => (.cut, reader)
  | fuel + 1 =>
      if reader.isAt ends then (.empty mark, reader) else node fuel true mayBeFlat reader

def blockItems (fuel : Nat) (start : Mark) (reader : Reader) : List Node × Bool × Reader :=
  match fuel, reader.tokens with
  | 0, _ => ([], false, reader)
  | _, [] => ([], false, reader)
  | fuel + 1, ⟨.blockEntry, _, stop⟩ :: _ =>
      let (item, reader) := blockPart fuel false [.blockEntry, .blockEnd] stop reader.skip
      let (items, isClosed, reader) := blockItems fuel start reader
      (item :: items, isClosed, reader)
  | _, ⟨.blockEnd, _, _⟩ :: _ => ([], true, reader.skip)
  | _, ⟨_, mark, _⟩ :: _ =>
      ([], false, reader.fail (.within .blockCollection start .missingDash mark))

/-- Reads the items of a block sequence that is not indented. -/
def flatItems (fuel : Nat) (reader : Reader) : List Node × Bool × Reader :=
  match fuel, reader.tokens with
  | 0, _ => ([], false, reader)
  | _, [] => ([], false, reader)
  | fuel + 1, ⟨.blockEntry, _, stop⟩ :: _ =>
      let (item, reader) :=
        blockPart fuel false [.blockEntry, .key, .value, .blockEnd] stop reader.skip
      let (items, isClosed, reader) := flatItems fuel reader
      (item :: items, isClosed, reader)
  | _, _ :: _ => ([], true, reader)

/-- Reads the value of an entry of a block mapping. -/
def blockValue (fuel : Nat) (reader : Reader) : Node × Reader :=
  match fuel, reader.tokens with
  | 0, _ => (.cut, reader)
  | _, [] => (.cut, reader)
  | fuel + 1, ⟨.value, _, stop⟩ :: _ =>
      blockPart fuel true [.key, .value, .blockEnd] stop reader.skip
  | _, ⟨_, mark, _⟩ :: _ => (.empty mark, reader)

def blockEntries (fuel : Nat) (start : Mark) (reader : Reader) :
    List (Node × Node) × Bool × Reader :=
  match fuel, reader.tokens with
  | 0, _ => ([], false, reader)
  | _, [] => ([], false, reader)
  | fuel + 1, ⟨.key, _, stop⟩ :: _ =>
      let (key, reader) := blockPart fuel true [.key, .value, .blockEnd] stop reader.skip
      let (value, reader) := blockValue fuel reader
      let (entries, isClosed, reader) := blockEntries fuel start reader
      ((key, value) :: entries, isClosed, reader)
  | _, ⟨.blockEnd, _, _⟩ :: _ => ([], true, reader.skip)
  | _, ⟨_, mark, _⟩ :: _ =>
      ([], false, reader.fail (.within .blockMapping start .missingKey mark))

/-- Reads a node of a flow collection, which is empty when one of the tokens follows that `ends`
lists. -/
def flowPart (fuel : Nat) (ends : List Token) (reader : Reader) : Node × Reader :=
  match fuel, reader.tokens with
  | 0, _ => (.cut, reader)
  | _, [] => (.cut, reader)
  | fuel + 1, ⟨token, mark, _⟩ :: _ =>
      if ends.contains token then (.empty mark, reader) else node fuel false false reader

/-- Reads the value of an entry of a flow collection, which is empty without a colon. -/
def flowValue (fuel : Nat) (ends : List Token) (reader : Reader) : Node × Reader :=
  match fuel, reader.tokens with
  | 0, _ => (.cut, reader)
  | _, [] => (.cut, reader)
  | fuel + 1, ⟨.value, _, _⟩ :: _ => flowPart fuel ends reader.skip
  | _, ⟨_, mark, _⟩ :: _ => (.empty mark, reader)

/-- Reads the items of a flow sequence.  A comma stands before every item but the first. -/
def flowItems (fuel : Nat) (start : Mark) (isFirst : Bool) (reader : Reader) :
    List Node × Bool × Reader :=
  match fuel, reader.tokens with
  | 0, _ => ([], false, reader)
  | _, [] => ([], false, reader)
  | _, ⟨.flowSequenceEnd, _, _⟩ :: _ => ([], true, reader.skip)
  | fuel + 1, ⟨token, mark, _⟩ :: _ =>
      if isFirst then moreFlowItems fuel start reader
      else if token = .flowEntry then moreFlowItems fuel start reader.skip
      else ([], false, reader.fail (.within .flowSequence start .missingFlowSequenceEnd mark))

def moreFlowItems (fuel : Nat) (start : Mark) (reader : Reader) : List Node × Bool × Reader :=
  match fuel, reader.tokens with
  | 0, _ => ([], false, reader)
  | _, [] => ([], false, reader)
  | _, ⟨.flowSequenceEnd, _, _⟩ :: _ => ([], true, reader.skip)
  | fuel + 1, ⟨.key, mark, _⟩ :: _ =>
      let (item, reader) := flowPair fuel mark reader.skip
      let (items, isClosed, reader) := flowItems fuel start false reader
      (item :: items, isClosed, reader)
  | fuel + 1, _ :: _ =>
      let (item, reader) := node fuel false false reader
      let (items, isClosed, reader) := flowItems fuel start false reader
      (item :: items, isClosed, reader)

/-- Reads an item of a flow sequence that is an entry of its own.  A missing key takes the token
that stands in its place. -/
def flowPair (fuel : Nat) (mark : Mark) (reader : Reader) : Node × Reader :=
  match fuel, reader.tokens with
  | 0, _ => (.cut, reader)
  | _, [] => (.mapping (.bare mark) [] false, reader)
  | fuel + 1, ⟨token, _, stop⟩ :: _ =>
      let (key, reader) :=
        if [Token.value, .flowEntry, .flowSequenceEnd].contains token then
          (Node.empty stop, reader.skip)
        else node fuel false false reader
      let (value, reader) := flowValue fuel [.flowEntry, .flowSequenceEnd] reader
      (.mapping (.bare mark) [(key, value)] (!reader.isBroken), reader)

/-- Reads the entries of a flow mapping.  A comma stands before every entry but the first. -/
def flowEntries (fuel : Nat) (start : Mark) (isFirst : Bool) (reader : Reader) :
    List (Node × Node) × Bool × Reader :=
  match fuel, reader.tokens with
  | 0, _ => ([], false, reader)
  | _, [] => ([], false, reader)
  | _, ⟨.flowMappingEnd, _, _⟩ :: _ => ([], true, reader.skip)
  | fuel + 1, ⟨token, mark, _⟩ :: _ =>
      if isFirst then moreFlowEntries fuel start reader
      else if token = .flowEntry then moreFlowEntries fuel start reader.skip
      else ([], false, reader.fail (.within .flowMapping start .missingFlowMappingEnd mark))

/-- Reads the entries of a flow mapping from an entry on. -/
def moreFlowEntries (fuel : Nat) (start : Mark) (reader : Reader) :
    List (Node × Node) × Bool × Reader :=
  match fuel, reader.tokens with
  | 0, _ => ([], false, reader)
  | _, [] => ([], false, reader)
  | _, ⟨.flowMappingEnd, _, _⟩ :: _ => ([], true, reader.skip)
  | fuel + 1, ⟨.key, _, _⟩ :: _ =>
      let (key, reader) := flowPart fuel [.value, .flowEntry, .flowMappingEnd] reader.skip
      let (value, reader) := flowValue fuel [.flowEntry, .flowMappingEnd] reader
      let (entries, isClosed, reader) := flowEntries fuel start false reader
      ((key, value) :: entries, isClosed, reader)
  | fuel + 1, _ :: _ =>
      let (key, reader) := node fuel false false reader
      let value :=
        match reader.tokens with
        | ⟨_, mark, _⟩ :: _ => Node.empty mark
        | [] => .cut
      let (entries, isClosed, reader) := flowEntries fuel start false reader
      ((key, value) :: entries, isClosed, reader)

end

/-- The handles that every document knows. -/
def defaultHandles : List (List Char × Tag) :=
  [(['!'], Text.bytesOf ['!']), (['!', '!'], Text.bytesOf "tag:yaml.org,2002:".toList)]

/-- Reads the directives before a document.  A version may be given once, and a handle once. -/
def directives (hasVersion : Bool) : (fuel : Nat) → Reader → Reader
  | 0, reader => reader
  | fuel + 1, reader =>
      match reader.tokens with
      | ⟨.directive (.version major minor), mark, _⟩ :: _ =>
          if hasVersion then reader.fail (.plain .duplicateVersion mark)
          else if major ≠ 1 ∨ (minor ≠ 1 ∧ minor ≠ 2) then
            reader.fail (.plain .incompatibleVersion mark)
          else directives true fuel reader.skip
      | ⟨.directive (.tag handle front), mark, _⟩ :: _ =>
          if reader.handles.any (·.1 = handle) then
            reader.fail (.plain .duplicateTagDirective mark)
          else
            directives hasVersion fuel
              { reader.skip with handles := reader.handles ++ [(handle, front)] }
      | _ => { reader with handles := reader.handles ++ defaultHandles }

/-- Reads the root of a document behind its mark, which may be left out. -/
def rootBehindMark (fuel : Nat) (reader : Reader) : Node × Reader :=
  match reader.tokens with
  | ⟨.directive _, mark, _⟩ :: _ => (.empty mark, reader)
  | ⟨.documentStart, mark, _⟩ :: _ => (.empty mark, reader)
  | ⟨.documentEnd, mark, _⟩ :: _ => (.empty mark, reader)
  | ⟨.streamEnd, mark, _⟩ :: _ => (.empty mark, reader)
  | _ => node fuel true false reader

/-- Reads the root of a document; there is none in an empty text. -/
def root? (fuel : Nat) (reader : Reader) : Option Node × Reader :=
  match reader.token? with
  | none => (some .cut, reader)
  | some .streamEnd => (none, reader)
  | some (.directive _) => explicit reader
  | some .documentStart => explicit reader
  | some _ =>
      let (root, reader) := node fuel true false (directives false fuel reader)
      (some root, reader)
where
  /-- Reads the root behind directives and the mark of the document. -/
  explicit (reader : Reader) : Option Node × Reader :=
    let reader := directives false fuel reader
    match reader.tokens with
    | [] => (some .cut, reader)
    | ⟨.documentStart, _, _⟩ :: _ =>
        let (root, reader) := rootBehindMark fuel reader.skip
        (some root, reader)
    | ⟨_, mark, _⟩ :: _ => (some .cut, reader.fail (.plain .missingDocumentStart mark))

end Reader

structure Document where
  /-- The root; there is none in an empty text. -/
  root : Option Node
  /-- Why the document breaks off. -/
  fault : Option Fault
  /-- Something follows the document. -/
  hasMore : Bool
deriving DecidableEq, Repr

def Document.ofText (cs : List Char) : Document :=
  let (tokens, fault) := tokens cs
  let fuel := 8 * (tokens.length + 1)
  let (root, reader) := Reader.root? fuel ⟨tokens, fault, [], []⟩
  match reader.tokens with
  | [] => ⟨root, reader.fault, false⟩
  | next :: more =>
      let rest := if next.token = .documentEnd then more else next :: more
      let rest := rest.dropWhile (·.token = .documentEnd)
      ⟨root, none, (rest.head?.map (·.token)) ≠ some .streamEnd⟩

end LintCorpus.Yaml
