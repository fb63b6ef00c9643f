/-
SchemaDoc.Yaml.Node — the graph of a YAML document.

Tokens are read into tagged nodes, which refer to their parts by number. An
alias is the number of the node that it names, so that a node may be a part of
several others, and of itself. An empty place is a node without text. The
document is refused by the first token that does not fit, before any later
trouble of the text itself is met; so it is where a collection starts that
there is no room for.

§1 nodes, §2 the state of reading, §3 properties, §4 nodes from tokens,
§5 documents.
-/
import SchemaDoc.Room
import SchemaDoc.Yaml.Complaint
import SchemaDoc.Yaml.Tag
import SchemaDoc.Yaml.Token.Lexer

namespace SchemaDoc.Yaml

/-! ## §1 Nodes -/

/-- The number of a node. -/
abbrev NodeId := Nat

/-- A node of a document. -/
inductive Node where
  | scalar (tag : Tag) (text : String)
  | sequence (tag : Tag) (items : List NodeId)
  | mapping (tag : Tag) (entries : List (NodeId × NodeId))

namespace Node

def tag : Node → Tag
  | scalar t _ => t
  | sequence t _ => t
  | mapping t _ => t

/-- The node with another tag. -/
def withTag (tag : Tag) : Node → Node
  | scalar _ text => scalar tag text
  | sequence _ items => sequence tag items
  | mapping _ entries => mapping tag entries

/-- The node of an empty place. -/
def empty : Node := .scalar .null ""

end Node

/-- The nodes of a document by their numbers. -/
abbrev Graph := Array Node

/-- The node of a number. -/
def Graph.node (g : Graph) (id : NodeId) : Node := g.getD id .empty

namespace Node

/-! ## §2 The state of reading -/

/-- What reading has met so far. -/
structure Reader where
  /-- The tokens that are left. -/
  tokens : List Token
  /-- What is wrong with the text behind them. -/
  trouble : Option Trouble
  /-- The meaning of the tag handles. -/
  handles : List (String × String)
  nodes : Graph := #[]
  /-- The anchors with their nodes. -/
  anchors : List (String × NodeId) := []
  /-- The room for collections inside this one. -/
  room : Room := none

/-- A part of the graph read from tokens. -/
abbrev Reading := StateT Reader (Except Trouble)

/-- The next token; where there is none, the text is in trouble. -/
def peek : Reading Token := do
  match (← get).tokens, (← get).trouble with
  | t :: _, _ => return t
  | [], some trouble => throw trouble
  | [], none => return .streamEnd

/-- Passes over the next token. -/
def advance : Reading Unit := modify fun r => { r with tokens := r.tokens.drop 1 }

/-- Refuses the document. -/
def reject {α : Type} (c : Complaint) : Reading α := throw (.complaint c)

/-- Gives a node a number. -/
def add (node : Node) : Reading NodeId :=
  modifyGet fun r => (r.nodes.size, { r with nodes := r.nodes.push node })

/-- Gives a number another node. -/
def replace (id : NodeId) (node : Node) : Reading Unit :=
  modify fun r => { r with nodes := r.nodes.setIfInBounds id node }

/-- A new node of an empty place. -/
def addEmpty : Reading NodeId := add empty

/-! ## §3 Properties -/

/-- The full name of a tag. -/
def tagName (handle : Option String) (suffix : String) : Reading String := do
  match handle with
  | none => return suffix
  | some h =>
    match (← get).handles.lookup h with
    | some replacement => return replacement ++ suffix
    | none => reject .unknownHandle

/-- An anchor, if one is next. -/
def anchor? : Reading (Option String) := do
  match ← peek with
  | .anchor name =>
    advance
    return some name
  | _ => return none

/-- A tag, if one is next. -/
def tag? : Reading (Option (Option String × String)) := do
  match ← peek with
  | .tag handle suffix =>
    advance
    return some (handle, suffix)
  | _ => return none

/-- The anchor and the tag of a node. -/
structure Properties where
  anchor : Option String
  tag : Option String

/-- A node has an anchor or a tag. -/
def Properties.isAny (p : Properties) : Bool := p.anchor.isSome || p.tag.isSome

/-- Anchor and tag in either order. What a handle means is asked behind both. -/
def properties : Reading Properties := do
  let before ← anchor?
  let tag ← tag?
  let behind ← if before.isNone && tag.isSome then anchor? else pure none
  let name ← tag.mapM fun (handle, suffix) => tagName handle suffix
  return ⟨before.or behind, name⟩

/-- An anchor must be new. -/
def checkAnchor (p : Properties) : Reading Unit := do
  match p.anchor with
  | some name => if ((← get).anchors.lookup name).isSome then reject .repeatedAnchor
  | none => return

/-- A new node behind its properties. -/
def addNode (p : Properties) (node : Node) : Reading NodeId := do
  let id ← add node
  match p.anchor with
  | some name => modify fun r => { r with anchors := (name, id) :: r.anchors }
  | none => pure ()
  return id

/-- The node that an alias names. -/
def aliased (name : String) : Reading NodeId := do
  match (← get).anchors.lookup name with
  | some id => return id
  | none => reject .unknownAnchor

/-- The tag of a collection: an exclamation mark alone asks for the usual one. -/
def collectionTag (usual : Tag) : Option String → Tag
  | none => usual
  | some name => if name = "!" then usual else .ofName name

/-- The tag of a scalar: by its text if it is plain or carries an exclamation mark alone. -/
def scalarTag (plain : Bool) (text : String) : Option String → Tag
  | none => if plain then .ofText text else .text
  | some name => if name = "!" then .ofText text else .ofName name

/-! ## §4 Nodes from tokens -/

/-- What is read one collection further in. -/
def within {α : Type} (inner : Reading α) : Reading α := do
  let outer := (← get).room
  outer.enter (throw (.fault .tooDeep)) fun room => do
    modify fun r => { r with room := room }
    let a ← inner
    modify fun r => { r with room := outer }
    return a

/-- A sequence with its items. -/
def readSequence (p : Properties) (items : Reading (List NodeId)) : Reading NodeId := within do
  let tag := collectionTag .sequence p.tag
  let id ← addNode p (.sequence tag [])
  let ids ← items
  replace id (.sequence tag ids)
  return id

/-- A mapping with its entries. -/
def readMapping (p : Properties) (entries : Reading (List (NodeId × NodeId))) :
    Reading NodeId := within do
  let tag := collectionTag .mapping p.tag
  let id ← addNode p (.mapping tag [])
  let ids ← entries
  replace id (.mapping tag ids)
  return id

mutual

/-- A node. Block collections may be read where `block` says so, and a sequence that is not indented
where `indentless` does. A collection has its number before its parts are read. -/
def read : Nat → Bool → Bool → Reading NodeId
  | 0, _, _ => reject .unexpectedToken
  | fuel + 1, block, indentless => do
    match ← peek with
    | .alias name =>
      advance
      aliased name
    | _ =>
      let p ← properties
      let token ← peek
      checkAnchor p
      match token with
      | .scalar text plain =>
        advance
        addNode p (.scalar (scalarTag plain text p.tag) text)
      | .flowSequenceStart => readSequence p (advance *> flowItems fuel true)
      | .flowMappingStart => readMapping p (advance *> flowEntries fuel true)
      | token =>
        if indentless && token == .blockEntry then readSequence p (indentlessItems fuel)
        else if block && token == .blockSequenceStart then
          readSequence p (advance *> blockItems fuel)
        else if block && token == .blockMappingStart then
          readMapping p (advance *> blockEntries fuel)
        else if p.isAny then addNode p (.scalar (scalarTag true "" p.tag) "")
        else reject .unexpectedToken

/-- A node, or an empty place before one of the given tokens. -/
def readUnless : Nat → Bool → Bool → List Token → Reading NodeId
  | 0, _, _, _ => reject .unexpectedToken
  | fuel + 1, block, indentless, ends => do
    if ends.contains (← peek) then addEmpty
    else read fuel block indentless

/-- The entries of a block sequence with its end. -/
def blockItems : Nat → Reading (List NodeId)
  | 0 => reject .unexpectedToken
  | fuel + 1 => do
    match ← peek with
    | .blockEntry =>
      advance
      let item ← readUnless fuel true false [.blockEntry, .blockEnd]
      return item :: (← blockItems fuel)
    | .blockEnd =>
      advance
      return []
    | _ => reject .unexpectedToken

/-- The entries of a sequence that is not indented, up to the first token that is none. -/
def indentlessItems : Nat → Reading (List NodeId)
  | 0 => reject .unexpectedToken
  | fuel + 1 => do
    match ← peek with
    | .blockEntry =>
      advance
      let item ← readUnless fuel true false [.blockEntry, .key, .value, .blockEnd]
      return item :: (← indentlessItems fuel)
    | _ => return []

/-- The entries of a block mapping with its end. -/
def blockEntries : Nat → Reading (List (NodeId × NodeId))
  | 0 => reject .unexpectedToken
  | fuel + 1 => do
    match ← peek with
    | .key =>
      advance
      let key ← readUnless fuel true true [.key, .value, .blockEnd]
      let value ← blockValue fuel
      return (key, value) :: (← blockEntries fuel)
    | .blockEnd =>
      advance
      return []
    | _ => reject .unexpectedToken

/-- The value of a block mapping's entry, empty if there is no colon. -/
def blockValue : Nat → Reading NodeId
  | 0 => reject .unexpectedToken
  | fuel + 1 => do
    if (← peek) == .value then
      advance
      readUnless fuel true true [.key, .value, .blockEnd]
    else addEmpty

/-- The items of a sequence in brackets with the closing one. An item with a key is a mapping of
one entry. -/
def flowItems : Nat → Bool → Reading (List NodeId)
  | 0, _ => reject .unexpectedToken
  | fuel + 1, first => do
    if (← peek) == .flowSequenceEnd then
      advance
      return []
    if !first then
      if (← peek) != .flowEntry then reject .unexpectedToken
      advance
    match ← peek with
    | .flowSequenceEnd =>
      advance
      return []
    | .key =>
      advance
      let item ← readMapping ⟨none, none⟩ do
        let key ← readUnless fuel false false [.value, .flowEntry, .flowSequenceEnd]
        let value ← flowValue fuel .flowSequenceEnd
        return [(key, value)]
      return item :: (← flowItems fuel false)
    | _ =>
      let item ← read fuel false false
      return item :: (← flowItems fuel false)

/-- The entries of a mapping in braces with the closing one. -/
def flowEntries : Nat → Bool → Reading (List (NodeId × NodeId))
  | 0, _ => reject .unexpectedToken
  | fuel + 1, first => do
    if (← peek) == .flowMappingEnd then
      advance
      return []
    if !first then
      if (← peek) != .flowEntry then reject .unexpectedToken
      advance
    match ← peek with
    | .flowMappingEnd =>
      advance
      return []
    | .key =>
      advance
      let key ← readUnless fuel false false [.value, .flowEntry, .flowMappingEnd]
      let value ← flowValue fuel .flowMappingEnd
      return (key, value) :: (← flowEntries fuel false)
    | _ =>
      let key ← read fuel false false
      let value ← addEmpty
      return (key, value) :: (← flowEntries fuel false)

/-- The value of an entry inside brackets, empty if there is no colon. -/
def flowValue : Nat → Token → Reading NodeId
  | 0, _ => reject .unexpectedToken
  | fuel + 1, closing => do
    if (← peek) == .value then
      advance
      readUnless fuel false false [.flowEntry, closing]
    else addEmpty

end

/-! ## §5 Documents -/

/-- The meaning of the handles that need no directive. -/
def usualHandles : List (String × String) := [("!", "!"), ("!!", tagRoot)]

/-- The directives before a document: one version, and each handle once. -/
def directives : Nat → Bool → List (String × String) → Reading (List (String × String))
  | 0, _, handles => return handles
  | fuel + 1, versioned, handles => do
    match ← peek with
    | .version major =>
      if versioned then reject .repeatedDirective
      if major != 1 then reject .badVersion
      advance
      directives fuel true handles
    | .handle h replacement =>
      if (handles.lookup h).isSome then reject .repeatedDirective
      advance
      directives fuel versioned ((h, replacement) :: handles)
    | .otherDirective =>
      advance
      directives fuel versioned handles
    | _ => return handles

/-- Passes over the markers of document ends. -/
def skipDocumentEnds : Nat → Reading Unit
  | 0 => return
  | fuel + 1 => do
    if (← peek) == .documentEnd then
      advance
      skipDocumentEnds fuel

/-- The token is one of those that start a document by name. -/
def startsDocument : Token → Bool
  | .version _ | .handle _ _ | .otherDirective | .documentStart => true
  | _ => false

/-- The content of a document behind its start marker, which may be missing. -/
def documentContent (fuel : Nat) : Reading NodeId := do
  let t ← peek
  if startsDocument t || t == .documentEnd || t == .streamEnd then addEmpty
  else read fuel true false

/-- The directives and the marker at the start of a document. -/
def documentStart (fuel : Nat) : Reading Unit := do
  let handles ← directives fuel false []
  if (← peek) != .documentStart then reject .unexpectedToken
  advance
  modify fun r => { r with handles := handles ++ usualHandles }

/-- The only document of a text, if there is one. -/
def document : Reading (Option NodeId) := do
  let fuel := 4 * (← get).tokens.length + 8
  let first ← peek
  if first == .streamEnd then return none
  let root ←
    if startsDocument first then do
      documentStart fuel
      documentContent fuel
    else read fuel true false
  skipDocumentEnds fuel
  if (← peek) == .streamEnd then return some root
  documentStart fuel
  reject .severalDocuments

end Node

/-- The nodes of a document and the number of its root, if the text holds a document. -/
structure Document where
  nodes : Graph
  root : Option NodeId

/-- The document that tokens write. -/
def Document.ofTokens (lexed : Lexer.Lexed) (room : Room := none) : Except Trouble Document := do
  let reader : Node.Reader :=
    { tokens := lexed.tokens, trouble := lexed.trouble, handles := Node.usualHandles, room := room }
  let (root, reader) ← Node.document.run reader
  return ⟨reader.nodes, root⟩

end SchemaDoc.Yaml
