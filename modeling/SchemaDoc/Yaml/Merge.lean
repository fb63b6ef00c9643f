/-
SchemaDoc.Yaml.Merge — merge keys.

A key marked as a merge brings the entries of another mapping, or of several,
into its own: those of merges first, in order, then its own. Of several
mappings under one key the entries of the later ones come first. A mapping
with its merges carried out takes the place of the node, for every part of the
document that shares it; a merge leads to further ones, and may lead back.
-/
import SchemaDoc.Yaml.Node

namespace SchemaDoc.Yaml

/-- A computation that changes the nodes of a document. -/
abbrev Merging := StateT Graph (Except Trouble)

namespace Merging

/-- The entries of a mapping. -/
def entriesOf (id : NodeId) : Merging (List (NodeId × NodeId)) := do
  match (← get).node id with
  | .mapping _ entries => return entries
  | _ => return []

/-- Gives a mapping other entries. -/
def setEntries (id : NodeId) (entries : List (NodeId × NodeId)) : Merging Unit :=
  modify fun g => g.setIfInBounds id (.mapping (g.node id).tag entries)

/-- A key that is the mark of a value becomes a text. -/
def settleKey (g : Graph) (key : NodeId) : Graph :=
  if (g.node key).tag = .value then g.setIfInBounds key ((g.node key).withTag .text) else g

/-- Puts what merges have brought before the entries of a mapping. -/
def finish (id : NodeId) (brought : List (NodeId × NodeId)) : Merging Unit := do
  let own ← entriesOf id
  modify fun g => own.foldl (fun g (key, _) => settleKey g key) g
  setEntries id (brought ++ own)

/-- What is merged one mapping further in, with the room that is left there. -/
def within {α : Type} (room : Room) (inner : Room → Merging α) : Merging α :=
  room.enter (throw (.fault .tooDeep)) inner

/-- Carries out the merges of a mapping from the first one on. Each step takes a merge key away, so
that their count bounds the steps that nest. -/
def carryOut : Nat → NodeId → List (NodeId × NodeId) → (room : Room := none) → Merging Unit
  | 0, id, brought, _ => finish id brought
  | fuel + 1, id, brought, room => do
    let g ← get
    let entries ← entriesOf id
    let isOwn := fun (entry : NodeId × NodeId) => (g.node entry.1).tag != .merge
    match entries.dropWhile isOwn with
    | [] => finish id brought
    | (_, target) :: rest =>
      setEntries id (entries.takeWhile isOwn ++ rest)
      match g.node target with
      | .mapping _ _ =>
        within room fun room => carryOut fuel target [] room
        let more ← entriesOf target
        carryOut fuel id (brought ++ more) room
      | .sequence _ items =>
        let parts ← items.mapM fun item => do
          match (← get).node item with
          | .mapping _ _ =>
            within room fun room => carryOut fuel item [] room
            entriesOf item
          | _ => throw (.complaint .wrongForm)
        carryOut fuel id (brought ++ parts.reverse.flatten) room
      | .scalar _ _ => throw (.complaint .wrongForm)

/-- The count of the entries of all mappings. -/
def countEntries (g : Graph) : Nat :=
  g.foldl (fun n node => match node with
    | .mapping _ entries => n + entries.length
    | _ => n) 0

/-- The entries of a mapping with its merges carried out. -/
def merged (id : NodeId) (room : Room := none) : Merging (List (NodeId × NodeId)) := do
  carryOut (countEntries (← get)) id [] room
  entriesOf id

end Merging

end SchemaDoc.Yaml
