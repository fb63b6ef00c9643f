/-
SchemaDoc.Value.Members — what a value contains.

Sequences and sets contain their members, mappings their keys, texts other
texts and bytes other bytes. Values of other kinds contain nothing and cannot
be asked.
-/
import SchemaDoc.Fault

namespace SchemaDoc

/-- A value of a sequence is the same as a scalar. -/
def Value.isScalar (s : Scalar) : Value → Bool
  | .scalar t => s.same t
  | _ => false

/-- One list occurs in another without a gap. -/
def occursIn {α : Type} [BEq α] (needle : List α) : List α → Bool
  | [] => needle.isEmpty
  | c :: rest => needle.isPrefixOf (c :: rest) || occursIn needle rest

/-- A scalar is contained in a value. -/
def Value.contains (v : Value) (name : Scalar) : Except Fault Bool :=
  match v with
  | .sequence items => .ok (items.any (Value.isScalar name))
  | .pair first second => .ok (first.isScalar name || second.isScalar name)
  | .set members => .ok (name.among members)
  | .mapping entries => .ok (Entries.has entries name)
  | .looped _ body => body.contains name
  | .text s => match name with
    | .text t => .ok (occursIn (Text.codes t.toList) (Text.codes s.toList))
    | n => .error (.notInText n.kind)
  | .bytes bs => match name.toInt? with
    | some n => if 0 ≤ n ∧ n < 256 then .ok (bs.any fun b => b.toNat == n.toNat)
      else .error .notByte
    | none => match name with
      | .bytes part => .ok (occursIn part bs)
      | n => .error (.notBytes n.kind)
  | v => .error (.noMembers v.kind)

namespace Value

mutual

/-- The count of a value's parts, itself included, inside the values of some marks; where one of them
starts again it counts as one. -/
def sizeIn (around : List Nat) : Value → Nat
  | .scalar _ => 1
  | .sequence items => sizeOfItems around items + 1
  | .pair first second => first.sizeIn around + second.sizeIn around + 1
  | .set members => members.length + 1
  | .mapping entries => sizeOfEntries around entries + 1
  | .looped mark body => if around.contains mark then 1 else body.sizeIn (mark :: around)

/-- The count of the parts of all items. -/
def sizeOfItems (around : List Nat) : List Value → Nat
  | [] => 0
  | v :: rest => v.sizeIn around + sizeOfItems around rest

/-- The count of the parts of all values of a mapping. -/
def sizeOfEntries (around : List Nat) : List (Scalar × Value) → Nat
  | [] => 0
  | (_, v) :: rest => v.sizeIn around + sizeOfEntries around rest

end

/-- The count of a value's parts, itself included. -/
def size (v : Value) : Nat := v.sizeIn []

end Value

end SchemaDoc
