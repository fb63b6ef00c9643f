/-
SchemaDoc.Schema.Dialect — the dialects of JSON Schema.

A dialect decides how a schema names itself, how it names places inside it,
and which of its keywords hold further schemas. The tables here are those of
the six published dialects.

§1 dialects, §2 keywords that hold schemas, §3 places that are schemas.
-/
import SchemaDoc.Value.Basic

namespace SchemaDoc

/-! ## §1 Dialects -/

/-- A published dialect. -/
inductive Dialect where
  | draft3
  | draft4
  | draft6
  | draft7
  | draft2019
  | draft2020
  deriving DecidableEq

namespace Dialect

/-- The scheme of a dialect's identifier and its place among the schemas of its publisher. -/
def address : Dialect → String × String
  | draft3 => ("http", "draft-03")
  | draft4 => ("http", "draft-04")
  | draft6 => ("http", "draft-06")
  | draft7 => ("http", "draft-07")
  | draft2019 => ("https", "draft/2019-09")
  | draft2020 => ("https", "draft/2020-12")

/-- The identifier of a dialect, without a fragment. -/
def identifier (d : Dialect) : String :=
  d.address.1 ++ "://" ++ "json-schema.org/" ++ d.address.2 ++ "/schema"

/-- All dialects. -/
def all : List Dialect := [draft3, draft4, draft6, draft7, draft2019, draft2020]

/-- The dialect of an identifier without a fragment. -/
def ofIdentifier? (identifier : String) : Option Dialect :=
  all.find? fun d => d.identifier == identifier

/-! ## §2 Keywords that hold schemas -/

/-- The keywords whose value is a schema. -/
def valueKeywords : Dialect → List String
  | draft3 => []
  | draft4 => ["not"]
  | draft6 => ["additionalItems", "additionalProperties", "contains", "not", "propertyNames"]
  | draft7 => ["additionalItems", "additionalProperties", "contains", "else", "if", "not",
      "propertyNames", "then"]
  | draft2019 => ["additionalItems", "additionalProperties", "contains", "contentSchema", "else",
      "if", "not", "propertyNames", "then", "unevaluatedItems", "unevaluatedProperties"]
  | draft2020 => ["additionalProperties", "contains", "contentSchema", "else", "if", "items", "not",
      "propertyNames", "then", "unevaluatedItems", "unevaluatedProperties"]

/-- The keywords whose value is a sequence of schemas. -/
def sequenceKeywords : Dialect → List String
  | draft3 => ["extends"]
  | draft2020 => ["allOf", "anyOf", "oneOf", "prefixItems"]
  | _ => ["allOf", "anyOf", "oneOf"]

/-- The keywords whose value is a mapping to schemas. -/
def mappingKeywords : Dialect → List String
  | draft2019 | draft2020 => ["$defs", "definitions", "dependentSchemas", "patternProperties",
      "properties"]
  | _ => ["definitions", "patternProperties", "properties"]

/-- The keyword `items` holds a schema or a sequence of them. -/
def hasMixedItems : Dialect → Bool
  | draft2020 => false
  | _ => true

/-- The keyword `dependencies` holds schemas if its first value is one. -/
def hasDependencies : Dialect → Bool
  | draft3 | draft4 | draft6 | draft7 => true
  | _ => false

/-- The keywords for additional members hold a schema if their value is a mapping. -/
def hasMixedAdditional : Dialect → Bool
  | draft3 | draft4 => true
  | _ => false

/-! ## §3 Places that are schemas -/

/-- The keywords under which a place is a schema. -/
def valueSegments : Dialect → List String
  | draft3 => ["additionalItems", "additionalProperties"]
  | draft4 => ["additionalItems", "additionalProperties", "not"]
  | d => d.valueKeywords

/-- The keywords below which every second place is a schema. -/
def childSegments (d : Dialect) : List String := d.mappingKeywords ++ d.sequenceKeywords

/-- The keywords below which every mapping is a schema. -/
def mixedSegments : Dialect → List String
  | draft2020 => []
  | draft2019 => ["items"]
  | _ => ["items", "dependencies"]

/-- The names that lead from a schema to a place in it make the place a schema; names that are
indices are `none`. -/
def leadsToSchema (d : Dialect) (isMapping : Bool) : List (Option String) → Bool
  | [] => true
  | none :: _ => false
  | some name :: rest =>
    if isMapping && d.mixedSegments.contains name then true
    else if d.valueSegments.contains name then d.leadsToSchema isMapping rest
    else if d.childSegments.contains name then
      match rest with
      | [] => false
      | _ :: rest => d.leadsToSchema isMapping rest
    else false

end Dialect

end SchemaDoc
