/-
SchemaDoc.Yaml.Content — what the nodes of a document become.

A scalar becomes a value at once. A collection is noted where it is met, and
its own parts are looked at later, collection by collection in the order in
which they were met: so of several troubles the one nearest to the root is
reported, the first of those at equal depth. What a node has become it stays,
wherever else it is a part.

§1 parts and contents, §2 the state of building, §3 nodes, §4 collections.
-/
import SchemaDoc.Yaml.Merge
import SchemaDoc.Yaml.Scalar

namespace SchemaDoc.Yaml

/-! ## §1 Parts and contents -/

/-- What a node has become: a scalar, or a collection known by the number of its node. -/
inductive Part where
  | scalar (s : Scalar)
  | collection (id : NodeId)

/-- The parts of a collection. -/
inductive Content where
  | sequence (parts : List Part)
  | pairs (parts : List (Part × Part))
  | set (members : List Scalar)
  | mapping (entries : List (Scalar × Part))

/-- The parts of a content in order. -/
def Content.parts : Content → List Part
  | .sequence parts => parts
  | .pairs parts => parts.flatMap fun (a, b) => [a, b]
  | .set _ => []
  | .mapping entries => entries.map (·.2)

/-! ## §2 The state of building -/

/-- What building has met so far. -/
structure Builder where
  nodes : Graph
  /-- What is known of each node. -/
  parts : Array (Option Part)
  /-- The collections whose parts have not been looked at, the last one first. -/
  waiting : List NodeId := []
  contents : Array (Option Content)
  /-- What tells this reading of the document from others: the marks of what is not a number end in
  it. -/
  reading : Mark
  /-- The room for merges inside merges, and for values of mappings that stand for them. -/
  room : Room := none

/-- A part of a document built from its nodes. -/
abbrev Building := StateT Builder (Except Trouble)

/-- Refuses the document. -/
def Building.reject {α : Type} (c : Complaint) : Building α := throw (.complaint c)

/-! ## §3 Nodes -/

namespace Graph

/-- The text of a node that should be a scalar: of a mapping, that of its value key. -/
def scalarText (g : Graph) : Nat → NodeId → Except Trouble String
  | 0, _ => .error (.fault .tooDeep)
  | fuel + 1, id =>
    match g.node id with
    | .scalar _ text => .ok text
    | .sequence _ _ => .error (.complaint .wrongForm)
    | .mapping _ entries =>
      match entries.find? fun (key, _) => (g.node key).tag == .value with
      | some (_, value) => scalarText g fuel value
      | none => .error (.complaint .wrongForm)

/-- How many nodes are looked at for the text of one: where more are asked for than there are, they
do not end, and where there is no room for more, they are given up. -/
def reach (g : Graph) : Room → Nat
  | none => g.size + 1
  | some n => min (g.size + 1) (n + 1)

/-- The scalar that a node becomes. A timestamp is read from the node itself, not from the value key
of a mapping. -/
def scalar (g : Graph) (reading : Mark) (id : NodeId) (room : Room := none) :
    Except Trouble Scalar := do
  let node := g.node id
  let text ← g.scalarText (g.reach room) id
  match node.tag, node with
  | .timestamp, .mapping _ _ => throw (.fault (.noTimestampText .sequence))
  | tag, _ => scalarOf (id :: reading) tag text

end Graph

namespace Building

/-- A tag that asks for a collection. -/
def asksForParts : Tag → Bool
  | .sequence | .mapping | .set | .orderedMap | .pairList => true
  | _ => false

/-- A tag that asks for a scalar. -/
def asksForScalar : Tag → Bool
  | .null | .bool | .integer | .number | .binary | .timestamp | .text => true
  | _ => false

/-- Keeps what a node has become. -/
def keep (id : NodeId) (part : Part) : Building Unit :=
  modify fun b => { b with parts := b.parts.setIfInBounds id (some part) }

/-- What a node becomes. -/
def partOf (id : NodeId) : Building Part := do
  let b ← get
  match b.parts.getD id none with
  | some part => return part
  | none =>
    let tag := (b.nodes.node id).tag
    if asksForParts tag then
      modify fun b => { b with waiting := id :: b.waiting }
      keep id (.collection id)
      return .collection id
    else if asksForScalar tag then
      match b.nodes.scalar b.reading id b.room with
      | .ok s =>
        keep id (.scalar s)
        return .scalar s
      | .error t => throw t
    else reject .unknownTag

/-- What a key becomes, which must be a scalar. -/
def keyOf (id : NodeId) : Building Scalar := do
  match ← partOf id with
  | .scalar s => return s
  | .collection _ => reject .badKey

/-! ## §4 Collections -/

/-- The entries of a mapping, merges carried out. -/
def entriesOf (id : NodeId) : Building (List (Scalar × Part)) := do
  let b ← get
  match (Merging.merged id b.room).run b.nodes with
  | .error t => throw t
  | .ok (entries, nodes) =>
    modify fun b => { b with nodes := nodes }
    entries.mapM fun (key, value) => do
      let k ← keyOf key
      let v ← partOf value
      return (k, v)

/-- The members of a list of mappings of one entry. -/
def pairsOf (items : List NodeId) : Building (List (Part × Part)) :=
  items.mapM fun item => do
    match (← get).nodes.node item with
    | .mapping _ [(key, value)] =>
      let a ← partOf key
      let b ← partOf value
      return (a, b)
    | _ => reject .wrongForm

/-- The members of a set: keys that are the same are one member. -/
def membersOf (entries : List (Scalar × Part)) : List Scalar :=
  (Entries.ofList (entries.map fun (key, _) => (key, .null))).map (·.1)

/-- The content of a collection. -/
def contentOf (id : NodeId) : Building Content := do
  let node := (← get).nodes.node id
  match node.tag, node with
  | .sequence, .sequence _ items => return .sequence (← items.mapM partOf)
  | .orderedMap, .sequence _ items | .pairList, .sequence _ items => return .pairs (← pairsOf items)
  | .mapping, .mapping _ _ => return .mapping (← entriesOf id)
  | .set, .mapping _ _ => return .set (membersOf (← entriesOf id))
  | _, _ => reject .wrongForm

/-- Looks at the parts of collections in the order in which they were met. -/
def fill : Nat → List NodeId → Building Unit
  | 0, _ => return
  | fuel + 1, [] => do
    let met := (← get).waiting.reverse
    if met.isEmpty then return
    modify fun b => { b with waiting := [] }
    fill fuel met
  | fuel + 1, id :: rest => do
    let content ← contentOf id
    modify fun b => { b with contents := b.contents.setIfInBounds id (some content) }
    fill fuel rest

/-- What the root of a document becomes, all contents being known then. A collection waits once. -/
def root (id : NodeId) : Building Part := do
  let part ← partOf id
  fill (2 * (← get).nodes.size + 2) []
  return part

end Building

end SchemaDoc.Yaml
