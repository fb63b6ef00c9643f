/-
SchemaDoc.Schema.Check — whether a schema conforms to its dialect.

A schema is checked against the rules of the dialect that it names; one that
names none, or none that is known, is checked as a schema of draft 4. The rules
are gone through in their order and the first violation ends the check.

§1 demands on one value, §2 the first violation, §3 the dialect of a schema,
§4 the check.
-/
import SchemaDoc.Failure
import SchemaDoc.Pattern.Syntax
import SchemaDoc.Schema.Alike
import SchemaDoc.Schema.Rules
import SchemaDoc.Uri.Parts
import SchemaDoc.Value.Members
import SchemaDoc.Value.Sets

namespace SchemaDoc

/-! ## §1 Demands on one value -/

/-- Dialects in which a number without a fraction is an integer, however it is written. -/
def Dialect.integersByValue : Dialect → Bool
  | .draft3 | .draft4 => false
  | _ => true

namespace Value

/-- A value is of a type. -/
def isOfType (d : Dialect) (v : Value) : JsonType → Bool
  | .array => v.kind == .sequence
  | .boolean => v.kind == .bool
  | .integer => match v with
    | .integer _ => true
    | .number x => d.integersByValue && x.toInt?.isSome
    | _ => false
  | .null => v.kind == .null
  | .number => v.kind == .integer || v.kind == .number
  | .object => v.kind == .mapping
  | .string => v.kind == .text

/-- How a number compares with zero. -/
def signOf : Value → Option Ordering
  | .integer n => some (compare n 0)
  | .number x => x.compareInt? 0
  | _ => none

end Value

/-! ## §2 The first violation -/

namespace Schema

/-- What a check of a value finds. -/
abbrev Finding := Except Fault (Option Violation)

/-- A breach at the value itself, unless a demand is met. A breach that cannot be worded is a
fault. -/
def verdict (met : Bool) (v : Value) (b : Breach) : Finding :=
  if met then .ok none
  else if b.showsValue && !v.hasText then .error (.tooManyDigits none)
  else .ok (some ⟨[], v, b⟩)

/-- How far a check goes. Whether a value meets an alternative is told only when all its demands have
been looked at, so that a fault in any of them counts. -/
inductive Extent where
  | toFirst
  | whole
  deriving DecidableEq

/-- What is found first, where the check goes on behind a violation if it is to be whole. -/
def Extent.andThen (e : Extent) (here : Finding) (next : Unit → Finding) : Finding :=
  match here with
  | .error f => .error f
  | .ok none => next ()
  | .ok (some found) => match e with
    | .toFirst => .ok (some found)
    | .whole => (next ()).map fun _ => some found

/-- What is found first among some findings. -/
def Extent.first (e : Extent) : List Finding → Finding
  | [] => .ok none
  | here :: rest => e.andThen here fun _ => e.first rest

mutual

/-- The first violation of a dialect's rules by a schema. -/
def violation? (d : Dialect) (e : Extent) (v : Value) : Finding := clauses? d e v (Rules.of d)
termination_by (sizeOf v, 1, 0)

/-- The first violation of some rules. -/
def clauses? (d : Dialect) (e : Extent) (v : Value) : List Clause → Finding
  | [] => .ok none
  | c :: rest => e.andThen (clause? d e v c) fun _ => clauses? d e v rest
termination_by cs => (sizeOf v, 0, sizeOf cs)

/-- The violation of a rule. Keywords are those of mappings; other values have none. -/
def clause? (d : Dialect) (e : Extent) (v : Value) : Clause → Finding
  | .types choices =>
    verdict (choices.any (v.isOfType d)) v (.types (choices.map TypeChoice.type))
  | .keyword name demands =>
    match h : v.get? name with
    | some w => do
      have := Value.sizeOf_get? h
      return (← demands? d e w demands).map (·.under (.text name))
    | none => .ok none
  | .needs name other => verdict (!v.has name || v.has other) v (.needs name other)
termination_by c => (sizeOf v, 0, sizeOf c)

/-- The first violation of some demands. -/
def demands? (d : Dialect) (e : Extent) (v : Value) : List Demand → Finding
  | [] => .ok none
  | x :: rest => e.andThen (demand? d e v x) fun _ => demands? d e v rest
termination_by ds => (sizeOf v, 2, sizeOf ds)

/-- The violation of a demand. A demand on texts, numbers, sequences or mappings is met by values
of other types. -/
def demand? (d : Dialect) (e : Extent) (v : Value) : Demand → Finding
  | .types choices => do verdict (← isOneOf d v choices) v (.types choices)
  | .typeName => verdict (JsonType.all.any fun t => v.isScalar (.text t.name)) v .typeName
  | .notNegative => verdict (v.signOf != some .lt) v .notNegative
  | .positive => verdict (v.signOf != some .lt && v.signOf != some .eq) v .positive
  | .notEmpty => match v with
    | .sequence [] => verdict false v .notEmpty
    | _ => .ok none
  | .distinct => match v.bare with
    | .sequence items => verdict (Value.areDistinct items) v .distinct
    | _ => .ok none
  | .form f => match v with
    | .text s => verdict (f.admits s.toList) v (.form f)
    | _ => .ok none
  | .pattern => match v with
    | .text s => do verdict (← Pattern.judge s) v .pattern
    | _ => .ok none
  | .schema => violation? d e v
  | .anyOf alternatives => do verdict (← meetsOne d v alternatives) v .anyOf
  | .items demands => match _h : v.bare with
    | .sequence items => items? d e demands 0 items
    | _ => .ok none
  | .values demands => match _h : v.bare with
    | .mapping entries => e.first ((Sets.inKeyOrder (values d e demands entries)).map (·.2))
    | _ => .ok none
  | .keys demands => match _h : v.bare with
    | .mapping entries => keys? d e demands entries
    | _ => .ok none
termination_by x => (sizeOf v, 2, sizeOf x)
decreasing_by
  all_goals first
    | decreasing_tactic
    | (have hb := Value.sizeOf_bare v
       rw [_h] at hb
       simp only [Value.sequence.sizeOf_spec, Value.mapping.sizeOf_spec] at hb
       exact Prod.Lex.left _ _ (by omega))

/-- A value is of one of some types, the schemas among them. -/
def isOneOf (d : Dialect) (v : Value) : List TypeChoice → Except Fault Bool
  | [] => .ok false
  | .type t :: rest => if v.isOfType d t then .ok true else isOneOf d v rest
  | .schema :: rest => do
    match ← violation? d .whole v with
    | none => return true
    | some _ => isOneOf d v rest
termination_by cs => (sizeOf v, 2, sizeOf cs)

/-- A value meets the demands of one of the alternatives. -/
def meetsOne (d : Dialect) (v : Value) : List (List Demand) → Except Fault Bool
  | [] => .ok false
  | demands :: rest => do
    match ← demands? d .whole v demands with
    | none => return true
    | some _ => meetsOne d v rest
termination_by alternatives => (sizeOf v, 2, sizeOf alternatives)

/-- The first violation among the items of a sequence from a place on. -/
def items? (d : Dialect) (e : Extent) (demands : List Demand) (place : Nat) :
    List Value → Finding
  | [] => .ok none
  | v :: rest =>
    e.andThen ((demands? d e v demands).map fun found => found.map (·.under (.integer place)))
      fun _ => items? d e demands (place + 1) rest
termination_by items => (sizeOf items, 2, 0)

/-- What is found at each value of a mapping. -/
def values (d : Dialect) (e : Extent) (demands : List Demand) :
    List (Scalar × Value) → List (Scalar × Finding)
  | [] => []
  | (k, v) :: rest =>
    (k, (demands? d e v demands).map fun found => found.map (·.underKey k))
      :: values d e demands rest
termination_by entries => (sizeOf entries, 2, 0)

/-- The first violation among the keys of a mapping. -/
def keys? (d : Dialect) (e : Extent) (demands : List Demand) : List (Scalar × Value) → Finding
  | [] => .ok none
  | (k, _) :: rest =>
    e.andThen (demands? d e (.scalar k) demands) fun _ => keys? d e demands rest
termination_by entries => (sizeOf entries, 2, 0)

end

attribute [simp] clauses? clause? demands? demand? isOneOf meetsOne items? values keys?

/-! ## §3 The dialect of a schema -/

/-- The key under which a schema names its dialect. -/
def dialectKey : Scalar := .text "$schema"

/-- The name that a schema gives its dialect. A value that contains the key without having a value
under it has no parts of that name. -/
def dialectName? (schema : Value) : Except Fault (Option Value) :=
  match schema.bare with
  | .bool _ => .ok none
  | .mapping entries => .ok (Entries.get? entries dialectKey)
  | v => do
    if ← v.contains dialectKey then .error (.noNamedParts v.kind) else return none

/-- Bytes as a text of ASCII. -/
def asciiOf (bs : List UInt8) : Except Fault String :=
  match bs.zipIdx.find? fun (b, _) => 128 ≤ b.toNat with
  | some (b, place) => .error (.notAscii b place)
  | none => .ok (String.ofList (bs.map fun b => Char.ofNat b.toNat))

/-- The dialect of a name: an address without its empty fragment. An address in bytes is read, but
no dialect has it. -/
def dialectOf (name : Value) : Except Fault Dialect :=
  match name with
  | .text s => do
    let parts ← (Uri.split s.toList).mapError .malformedUri
    return (Dialect.ofIdentifier? (String.ofList parts.toList)).getD .draft4
  | .bytes bs => do
    let s ← asciiOf bs
    let _ ← (Uri.split s.toList).mapError .malformedUri
    return .draft4
  | .scalar s => if (Value.scalar s).isFilled then .error (.noAttribute s.kind "decode")
    else .ok .draft4
  | v => if v.kind == .pair then .error (.noAttribute v.kind "decode")
    else .error (.unhashable v.kind)

/-- The dialect that a schema is checked against. -/
def dialect (schema : Value) : Except Fault Dialect := do
  match ← dialectName? schema with
  | some name => dialectOf name
  | none => return .draft4

/-! ## §4 The check -/

/-- Refuses a schema that does not conform to its dialect. -/
def check (schema : Value) : Except Failure Unit := do
  let d ← orFail (dialect schema)
  match ← orFail (violation? d .toFirst schema) with
  | none => return ()
  | some v =>
    let location ← orFail v.location
    throw (.invalidSchema location v.reason)

end Schema

end SchemaDoc
