/-
SchemaDoc.Descriptor.Literal — how bounds, allowed values and defaults are written.

Bounds and allowed values are written as plain text: texts without quotes,
sequences without brackets, whole numbers without a fraction. Defaults are
written as compact JSON, again with whole numbers without a fraction. An
integer of too many digits is not written at all.
-/
import SchemaDoc.Json.Printer

namespace SchemaDoc

/-- The digits of an integer, unless there are too many. -/
def Decimal.limitedText (n : Int) : Except Fault String :=
  if Decimal.isTooLong n then .error (.tooManyDigits none) else .ok (Decimal.integerText n)

/-- A scalar as plain text. -/
def Scalar.plainText : Scalar → Except Fault String
  | .null => .ok "null"
  | .bool b => .ok (if b then "true" else "false")
  | .integer n => Decimal.limitedText n
  | .number x => match x.toInt? with
    | some n => Decimal.limitedText n
    | none => .ok (Decimal.numberText x)
  | s => .ok s.display

namespace Value

mutual

/-- A value as plain text: items joined by commas at every depth, a mapping by a fixed phrase. -/
def plainText : Value → Except Fault String
  | .scalar s => s.plainText
  | .sequence items => do
    let parts ← plainTexts items
    return ",".intercalate parts
  | .pair first second => do
    let a ← plainText first
    let b ← plainText second
    return a ++ "," ++ b
  | .set members => (Value.set members).displayText
  | .mapping _ => .ok "[object Object]"
  | .looped _ body => plainText body

/-- The plain texts of the items of a sequence. -/
def plainTexts : List Value → Except Fault (List String)
  | [] => .ok []
  | v :: rest => do
    let part ← plainText v
    let parts ← plainTexts rest
    return part :: parts

end

/-- A whole double becomes the integer it is. -/
def wholeScalar : Scalar → Scalar
  | .number x => match x.toInt? with
    | some n => .integer n
    | none => .number x
  | s => s

mutual

/-- Every whole double of a value becomes an integer; keys stay as they are. -/
def withWholeNumbers : Value → Value
  | .scalar s => .scalar (wholeScalar s)
  | .sequence items => .sequence (itemsWithWholeNumbers items)
  | .pair first second => .sequence [withWholeNumbers first, withWholeNumbers second]
  | .set members => .set members
  | .mapping entries => .mapping (entriesWithWholeNumbers entries)
  | .looped mark body => .looped mark body

/-- `withWholeNumbers` on the items of a sequence. -/
def itemsWithWholeNumbers : List Value → List Value
  | [] => []
  | v :: rest => withWholeNumbers v :: itemsWithWholeNumbers rest

/-- `withWholeNumbers` on the values of a mapping. -/
def entriesWithWholeNumbers : List (Scalar × Value) → List (Scalar × Value)
  | [] => []
  | (k, v) :: rest => (k, withWholeNumbers v) :: entriesWithWholeNumbers rest

end

/-- A value as compact JSON. -/
def compactJson (v : Value) : Except Fault String :=
  (Json.render Json.compact v.withWholeNumbers).map String.ofList

end Value

end SchemaDoc
