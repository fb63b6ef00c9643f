/-
SchemaDoc.Schema.Demand — what a dialect demands of a schema.

The rules of a dialect speak of a schema as a value: which type it has, which
keywords it may carry, and what is demanded of the value under each of them.
A demand may be that the value is a schema itself. A breach is a demand that a
value does not meet; its message shows the value, and so a value that has no
text cannot be reported.

§1 types, §2 demands, §3 breaches.
-/
import SchemaDoc.Schema.Dialect
import SchemaDoc.Value.Text

namespace SchemaDoc

/-! ## §1 Types -/

/-- The types of values that schemas tell apart. -/
inductive JsonType where
  | array | boolean | integer | null | number | object | string
  deriving DecidableEq

/-- The name of a type in a schema. -/
def JsonType.name : JsonType → String
  | .array => "array"
  | .boolean => "boolean"
  | .integer => "integer"
  | .null => "null"
  | .number => "number"
  | .object => "object"
  | .string => "string"

/-- All types, in the order of their names. -/
def JsonType.all : List JsonType := [.array, .boolean, .integer, .null, .number, .object, .string]

/-- A type, or the schemas as one. -/
inductive TypeChoice where
  | type (t : JsonType)
  | schema

/-- A type is shown by its name, the schemas by the reference to themselves. -/
def TypeChoice.shown : TypeChoice → String
  | .type t => Text.quote t.name
  | .schema => "\x7b'$ref': '#'\x7d"

/-! ## §2 Demands -/

/-- The form of a name in a schema. -/
inductive NameForm where
  /-- An identifier without a fragment, up to an empty one. -/
  | identifier
  /-- A letter, then letters, digits and some marks. -/
  | anchor2019
  /-- A letter or an underscore, then letters, digits and fewer marks. -/
  | anchor2020

/-- The form as a regular expression. -/
def NameForm.pattern : NameForm → String
  | .identifier => "^[^#]*#?$"
  | .anchor2019 => "^[A-Za-z][-A-Za-z0-9.:_]*$"
  | .anchor2020 => "^[A-Za-z_][-A-Za-z0-9._]*$"

/-- A text without one line feed at its end. -/
def withoutLastBreak (s : List Char) : List Char :=
  if s.getLast? = some '\n' then s.dropLast else s

/-- A text has a form; a line feed at its end does not count. -/
def NameForm.admits (f : NameForm) (s : List Char) : Bool :=
  match f with
  | .identifier =>
    let rest := s.dropWhile (· ≠ '#')
    rest.isEmpty || withoutLastBreak rest == ['#']
  | .anchor2019 => match withoutLastBreak s with
    | [] => false
    | c :: rest => c.isAlpha && rest.all fun c => c.isAlphanum || ['-', '.', ':', '_'].contains c
  | .anchor2020 => match withoutLastBreak s with
    | [] => false
    | c :: rest =>
      (c.isAlpha || c == '_') && rest.all fun c => c.isAlphanum || ['-', '.', '_'].contains c

/-- What is demanded of a value in a schema. -/
inductive Demand where
  | types (choices : List TypeChoice)
  /-- A text out of some, which are the names of the types. -/
  | typeName
  | notNegative
  | positive
  | notEmpty
  | distinct
  | form (f : NameForm)
  /-- A text is a regular expression. -/
  | pattern
  | schema
  /-- The demands of one of the alternatives. -/
  | anyOf (alternatives : List (List Demand))
  /-- Demands on every item of a sequence. -/
  | items (demands : List Demand)
  /-- Demands on every value of a mapping. -/
  | values (demands : List Demand)
  /-- Demands on every key of a mapping. -/
  | keys (demands : List Demand)

/-- A rule for a schema as a whole. -/
inductive Clause where
  | types (choices : List JsonType)
  /-- The demands on the value under a keyword. -/
  | keyword (name : String) (demands : List Demand)
  /-- A keyword needs another beside it. -/
  | needs (name other : String)

/-! ## §3 Breaches -/

/-- A demand that is not met. -/
inductive Breach where
  | types (choices : List TypeChoice)
  | typeName
  | notNegative
  | positive
  | notEmpty
  | distinct
  | form (f : NameForm)
  | pattern
  | anyOf
  | needs (name other : String)

/-- The wording of a breach by a value. -/
def Breach.message (value : Value) : Breach → String
  | types choices =>
    value.literal ++ " is not of type " ++ ", ".intercalate (choices.map TypeChoice.shown)
  | typeName => value.literal ++ " is not one of ["
      ++ ", ".intercalate (JsonType.all.map fun t => Text.quote t.name) ++ "]"
  | notNegative => value.literal ++ " is less than the minimum of 0"
  | positive => value.literal ++ " is less than or equal to the minimum of 0"
  | notEmpty => value.literal ++ " should be non-empty"
  | distinct => value.literal ++ " has non-unique elements"
  | form f => value.literal ++ " does not match " ++ Text.quote f.pattern
  | pattern => value.literal ++ " is not a 'regex'"
  | anyOf => value.literal ++ " is not valid under any of the given schemas"
  | needs name other => Text.quote other ++ " is a dependency of " ++ Text.quote name

/-- The wording of a breach shows the value. -/
def Breach.showsValue : Breach → Bool
  | needs .. => false
  | _ => true

/-- A breach with the value that commits it and the way to that value from the root. -/
structure Violation where
  place : List Scalar
  value : Value
  breach : Breach

namespace Violation

/-- The same violation, seen from one step further up. -/
def under (step : Scalar) (v : Violation) : Violation := { v with place := step :: v.place }

/-- The same violation, seen from the mapping that has the value under a key. Null is no step. -/
def underKey (key : Scalar) (v : Violation) : Violation :=
  match key with
  | .null => v
  | k => v.under k

/-- The place of a violation in words. -/
def location (v : Violation) : Except Fault String := do
  let steps ← v.place.mapM Scalar.displayText
  let joined := "/".intercalate steps
  return if joined.isEmpty then "<root>" else joined

/-- What is wrong at the place. -/
def reason (v : Violation) : String := v.breach.message v.value

end Violation

end SchemaDoc
