/-
SchemaDoc.Schema.Alike — when values are one value to a schema.

Scalars are alike as keys are the same, but a truth value is never alike a
number. Sequences are alike item by item, whether they are lists, pairs or
runs of bytes; mappings are alike key by key in any order.

A list of values is looked at in sorted order, neighbour by neighbour; only if
its values have no order is each compared with all before it. The two ways
differ where the order is no total one.
-/
import SchemaDoc.Value.Order
import SchemaDoc.Value.Sorting

namespace SchemaDoc

/-- Two scalars are one value to a schema. -/
def Scalar.alike : Scalar → Scalar → Bool
  | .bool a, .bool b => a == b
  | .bool _, _ => false
  | _, .bool _ => false
  | s, t => s.same t

namespace Value

/-- The items of a value that is a sequence to a schema. -/
def parts? (v : Value) : Option (List Value) :=
  match v.bare with
  | .sequence items => some items
  | .pair first second => some [first, second]
  | .bytes bs => some (bs.map fun b => .integer b.toNat)
  | _ => none

/-- A run of bytes and some items are alike one by one. -/
def areBytes : List UInt8 → List Value → Bool
  | [], [] => true
  | b :: bs, .scalar s :: items => (Scalar.integer b.toNat).alike s && areBytes bs items
  | _, _ => false

mutual

/-- Two values are one value to a schema. -/
def alike : Value → Value → Bool
  | .scalar (.bytes bs), v => match v.parts? with
    | some items => areBytes bs items
    | none => false
  | .scalar s, v => match v with
    | .scalar t => s.alike t
    | _ => false
  | .sequence xs, v => match v.parts? with
    | some ys => alikeItems xs ys
    | none => false
  | .pair a b, v => match v.parts? with
    | some [x, y] => a.alike x && b.alike y
    | _ => false
  | .set ss, v => match v.bare with
    | .set ts => ss.length == ts.length && ss.all (·.among ts)
    | _ => false
  | .mapping es, v => match v.bare with
    | .mapping fs => es.length == fs.length && alikeEntries es fs
    | _ => false
  | .looped mark body, v => match v with
    | .looped other _ => mark == other || body.alike v
    | _ => body.alike v

/-- Two lists of values are alike item by item. -/
def alikeItems : List Value → List Value → Bool
  | [], [] => true
  | x :: xs, y :: ys => x.alike y && alikeItems xs ys
  | _, _ => false

/-- Every entry has a counterpart under its key. -/
def alikeEntries : List (Scalar × Value) → List (Scalar × Value) → Bool
  | [], _ => true
  | (k, v) :: rest, fs => match Entries.get? fs k with
    | some w => v.alike w && alikeEntries rest fs
    | none => false

end

/-- The order of the values of a list: truth values have none. -/
def comesBefore? (v w : Value) : Option Bool :=
  if v.kind = .bool || w.kind = .bool then none else v.less? w

/-- No two neighbours of a list are alike. -/
def differFromNext : List Value → Bool
  | v :: w :: rest => !v.alike w && differFromNext (w :: rest)
  | _ => true

/-- No value of a list is alike a later one. -/
def differFromAll : List Value → Bool
  | [] => true
  | v :: rest => !rest.any (alike v) && differFromAll rest

/-- The values of a list are told apart. -/
def areDistinct (items : List Value) : Bool :=
  match Sorting.sorted? comesBefore? items with
  | some sorted => differFromNext sorted
  | none => differFromAll items

end Value

end SchemaDoc
