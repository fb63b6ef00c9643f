/-
SchemaDoc.Yaml.Document — the value of a YAML document.

The contents of a document's collections refer to one another. A collection
from which no way leads back to itself is a plain value, shared wherever it is
a part. Any other is a value that holds itself: it is marked, and laid out to
a depth beyond any use of it, where it is cut off.

§1 plain values, §2 values that hold themselves, §3 texts.
-/
import SchemaDoc.Yaml.Content

namespace SchemaDoc.Yaml

/-! ## §1 Plain values -/

/-- The contents of the collections of a document, by the numbers of their nodes. -/
abbrev Contents := Array (Option Content)

namespace Contents

/-- The collections that are parts of a collection. -/
def links (cs : Contents) (id : NodeId) : List NodeId :=
  match cs.getD id none with
  | some content => content.parts.filterMap fun
    | .collection part => some part
    | .scalar _ => none
  | none => []

/-- What is known of the value of each collection: nothing, that it leads to one that holds itself,
or the value. -/
abbrev Known := Array (Option (Option Value))

/-- The value of a part, given the values of collections. -/
def partValue? (valueOf : NodeId → StateM Known (Option Value)) : Part → StateM Known (Option Value)
  | .scalar s => return some (.scalar s)
  | .collection id => valueOf id

/-- The value of a content, if all its parts have one. -/
def contentValue? (valueOf : NodeId → StateM Known (Option Value)) :
    Content → StateM Known (Option Value)
  | .sequence parts => do
    let values ← parts.mapM (partValue? valueOf)
    return (values.mapM id).map .sequence
  | .pairs parts => do
    let values ← parts.mapM fun (a, b) => do
      let first ← partValue? valueOf a
      let second ← partValue? valueOf b
      return do return Value.pair (← first) (← second)
    return (values.mapM id).map .sequence
  | .set members => return some (.set members)
  | .mapping entries => do
    let values ← entries.mapM fun (key, part) => do
      let value ← partValue? valueOf part
      return value.map fun v => (key, v)
    return (values.mapM id).map fun es => .mapping (Entries.ofList es)

/-- The value of a collection that leads to none that holds itself. A collection that is met again
before its value is known does. -/
def plain? (cs : Contents) : Nat → NodeId → StateM Known (Option Value)
  | 0, _ => return none
  | fuel + 1, id => do
    match (← get).getD id none with
    | some known => return known
    | none =>
      modify fun known => known.setIfInBounds id (some none)
      match cs.getD id none with
      | some content =>
        let value ← contentValue? (plain? cs fuel) content
        modify fun known => known.setIfInBounds id (some value)
        return value
      | none => return none

/-! ## §2 Values that hold themselves -/

/-- The collections among the remaining ones that are reached from the pending ones. -/
def reached (cs : Contents) (remaining pending : List NodeId) : List NodeId :=
  match _found : pending.find? remaining.contains with
  | none => []
  | some id => id :: reached cs (remaining.erase id) (cs.links id ++ pending)
termination_by remaining.length
decreasing_by
  have member := List.contains_iff_mem.mp (List.find?_some _found)
  have := List.length_erase_of_mem member
  have := List.length_pos_of_mem member
  omega

/-- The parts of each of the remaining collections from which a way leads back to it. -/
def ways (cs : Contents) (remaining : List NodeId) : Array (List NodeId) :=
  remaining.foldl (fun found id =>
    let back := (cs.links id).eraseDups.filter fun part =>
      (cs.reached remaining [part]).contains id
    found.setIfInBounds id back) (Array.replicate cs.size [])

/-- A value under its mark, if it holds itself. -/
def marked (holdsItself : Bool) (mark : Nat) (v : Value) : Value :=
  if holdsItself then .looped mark v else v

/-- The value of a collection whose parts have the given values; the given parts lead back to it. The
pairs of a list hold themselves where the list does through them. -/
def layer (cs : Contents) (back : List NodeId) (values : Array Value) (id : NodeId) : Value :=
  let valueOf : Part → Value
    | .scalar s => .scalar s
    | .collection part => values.getD part .null
  let leadsBack : Part → Bool
    | .scalar _ => false
    | .collection part => back.contains part
  marked (!back.isEmpty) id <| match cs.getD id none with
    | some (.sequence parts) => .sequence (parts.map valueOf)
    | some (.pairs parts) => .sequence (parts.zipIdx.map fun ((a, b), i) =>
        marked (leadsBack a || leadsBack b) (cs.size * (i + 1) + id) (.pair (valueOf a) (valueOf b)))
    | some (.set members) => .set members
    | some (.mapping entries) =>
      .mapping (Entries.ofList (entries.map fun (key, part) => (key, valueOf part)))
    | none => .null

/-- The values of the remaining collections laid out a number of times over. -/
def unrolled (cs : Contents) (remaining : List NodeId) (ways : Array (List NodeId)) :
    Nat → Array Value → Array Value
  | 0, values => values
  | times + 1, values =>
    let next := remaining.foldl (fun next id =>
      next.setIfInBounds id (cs.layer (ways.getD id []) values id)) values
    cs.unrolled remaining ways times next

/-- How often values are laid out that hold themselves: more often than there are collections, so that
on the way inwards each is come to before the first is cut off. -/
def layers (cs : Contents) : Nat := cs.size + 1000

/-- Where a collection is cut off that holds itself. -/
def cut (id : NodeId) : Value := .looped id .null

/-- The value of a collection. -/
def value (cs : Contents) (id : NodeId) : Value :=
  let (plain, known) := (cs.plain? (cs.size + 1) id).run (Array.replicate cs.size none)
  match plain with
  | some v => v
  | none =>
    let remaining := (List.range cs.size).filter fun id =>
      match known.getD id none with
      | some none => true
      | _ => false
    let values := known.mapIdx fun id k => (k.join).getD (cut id)
    (cs.unrolled remaining (cs.ways remaining) cs.layers values).getD id .null

end Contents

/-! ## §3 Texts -/

/-- The value of a document; null if there is none. What is not a number and has no name has a mark
of its own that ends in the given one. -/
def Document.value (d : Document) (reading : Mark) (room : Room := none) :
    Except Trouble Value := do
  match d.root with
  | none => return .null
  | some id =>
    let unknown := d.nodes.size
    let (part, b) ← (Building.root id).run
      { nodes := d.nodes
        parts := Array.replicate unknown none
        contents := Array.replicate unknown none
        reading := reading
        room := room }
    match part with
    | .scalar s => return .scalar s
    | .collection id => return Contents.value b.contents id

/-- The value of the document that a text holds. -/
def read (reading : Mark) (s : List Char) (room : Room := none) : Except Trouble Value := do
  let d ← Document.ofTokens (tokens s) room
  d.value reading room

end SchemaDoc.Yaml
