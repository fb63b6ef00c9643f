/-
SchemaDoc.Descriptor.Basic — one documented field and its line.

A line reads `{type} name description`. The type expression is a label, an
optional range `{low..high}` and an optional list `="a,b"` of allowed values.
The name carries its default after an equals sign and stands in brackets when
the field is optional. Optional facts are tested by `Value.isGiven`, so a
bound of zero or a default of `false` is written as if it were absent.

§1 type expressions, §2 name expressions, §3 loose fields, §4 descriptors.
-/
import SchemaDoc.Descriptor.Literal
import SchemaDoc.Value.Arithmetic

namespace SchemaDoc

/-! ## §1 Type expressions -/

namespace Expression

/-- A bound as it stands in a range: nothing if it is not given. -/
def boundText (bound : Value) : Except Fault String :=
  if bound.isGiven then bound.plainText else .ok ""

/-- The range, if one of its bounds is given. -/
def sizeSuffix (low high : Value) : Except Fault String :=
  if low.isGiven || high.isGiven then do
    let l ← boundText low
    let h ← boundText high
    return "\x7b" ++ l ++ ".." ++ h ++ "\x7d"
  else .ok ""

/-- The allowed values as plain text. Bytes are allowed one by one, as numbers. -/
def allowedText : Value → Except Fault String
  | .text s => .ok s
  | .bytes bs => .ok (",".intercalate (bs.map fun b => toString b.toNat))
  | v => v.plainText

/-- The list of allowed values, if given. -/
def allowedSuffix (allowed : Value) : Except Fault String :=
  if allowed.isGiven then do
    let t ← allowedText allowed
    return "=\"" ++ t ++ "\""
  else .ok ""

/-- Label, range and allowed values in this order. -/
def ofType (label : String) (low high allowed : Value) : Except Fault String := do
  let size ← sizeSuffix low high
  let values ← allowedSuffix allowed
  return label ++ size ++ values

/-! ## §2 Name expressions -/

/-- A name with its default behind an equals sign, if one is given. -/
def withDefault (name : Value) (default : Option Value) : Except Fault Value :=
  match default.filter Value.isGiven with
  | some d => do
    let json ← d.compactJson
    name.extend ("=" ++ json)
  | none => .ok name

/-- The name with its default, in brackets if it is optional. A name that is no text stays as it is
where nothing is added. -/
def ofName (name : Value) (required : Bool) (default : Option Value) : Except Fault Value := do
  let named ← withDefault name default
  if required then return named
  let shown ← named.displayText
  return .text ("[" ++ shown ++ "]")

/-- A line from its three parts. -/
def lineOf (typeText nameText description : String) : String :=
  "\x7b" ++ typeText ++ "\x7d " ++ nameText ++ " " ++ description

end Expression

/-! ## §3 Loose fields -/

/-- The facts of a field as they may be written by hand, each any value. -/
structure LooseField where
  name : Value
  label : Value
  low : Value := .null
  high : Value := .null
  allowed : Value := .null
  required : Value := .bool false
  default : Option Value := none
  description : Value := .null

namespace LooseField

/-- The label, which a text must be; the fault is that of joining a text to it. -/
def labelText (f : LooseField) : Except Fault String :=
  match f.label.bare with
  | .text s => .ok s
  | .sequence _ => .error (.cannotJoin .sequence .text)
  | .bytes _ => .error (.cannotJoin .bytes .text)
  | .pair _ _ => .error (.cannotJoin .pair .text)
  | v => .error (.cannotAdd v.kind .text)

/-- The type expression; the range is written before the label is looked at. -/
def typeExpression (f : LooseField) : Except Fault String := do
  let size ← Expression.sizeSuffix f.low f.high
  let label ← f.labelText
  let values ← Expression.allowedSuffix f.allowed
  return label ++ size ++ values

/-- The name expression; the field is required if the fact is a filled value. -/
def nameExpression (f : LooseField) : Except Fault Value :=
  Expression.ofName f.name f.required.isFilled f.default

/-- The description, nothing if it is not given. -/
def descriptionText (f : LooseField) : Except Fault String :=
  if f.description.isGiven then f.description.displayText else .ok ""

/-- The line of the field. -/
def line (f : LooseField) : Except Fault String := do
  let t ← f.typeExpression
  let n ← f.nameExpression
  let shown ← n.displayText
  let d ← f.descriptionText
  return Expression.lineOf t shown d

end LooseField

/-! ## §4 Descriptors -/

/-- One documented field: its nesting depth, its name, whether it is required, its type expression,
its default if the schema has one, and its description. The walk over a schema counts the depth up
from the value that it starts with. -/
structure Descriptor where
  depth : Value
  name : Value
  required : Bool
  typeExpression : String
  default : Option Value := none
  description : String := ""

namespace Descriptor

/-- The pad of a line unless another is asked for. -/
def defaultPad : Value := .text " "

/-- The name behind as many pads as its depth. -/
def paddedName (d : Descriptor) (pad : Value) : Except Fault Value := do
  let space ← pad.mul d.depth
  space.add d.name

/-- The line of a descriptor. -/
def render (d : Descriptor) (pad : Value) : Except Fault String := do
  let padded ← d.paddedName pad
  let n ← Expression.ofName padded d.required d.default
  let shown ← n.displayText
  return Expression.lineOf d.typeExpression shown d.description

end Descriptor

end SchemaDoc
