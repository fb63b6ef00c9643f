/-
SchemaDoc.Schema.Rules — the rules of each dialect for its schemas.

The clauses stand in the order in which the meta-schema of the dialect states
them: the first one that a schema breaks is the one that is reported.

§1 demands that recur, §2 drafts 3 to 7, §3 vocabularies of 2019-09,
§4 vocabularies of 2020-12, §5 the rules of a dialect.
-/
import SchemaDoc.Schema.Demand

namespace SchemaDoc.Rules

open Demand Clause

/-! ## §1 Demands that recur -/

/-- A value of a type. -/
def a (t : JsonType) : Demand := .types [.type t]

/-- A text. -/
def text : List Demand := [a .string]

/-- A truth value. -/
def truth : List Demand := [a .boolean]

/-- A number. -/
def number : List Demand := [a .number]

/-- A number above zero. -/
def factor : List Demand := [a .number, .positive]

/-- A whole number that is not negative. -/
def length : List Demand := [a .integer, .notNegative]

/-- A regular expression. -/
def regex : List Demand := [a .string, .pattern]

/-- Any sequence. -/
def sequence : List Demand := [a .array]

/-- A sequence of schemas with at least one of them. -/
def someSchemas : List Demand := [a .array, .notEmpty, .items [.schema]]

/-- Schemas under names. -/
def namedSchemas : List Demand := [a .object, .values [.schema]]

/-- Schemas under regular expressions. -/
def patternSchemas : List Demand := [a .object, .values [.schema], .keys [.pattern]]

/-- A schema or a sequence of schemas. -/
def schemaOrSome : List Demand := [.anyOf [[.schema], someSchemas]]

/-- A truth value or a schema. -/
def truthOrSchema : List Demand := [.anyOf [truth, [.schema]]]

/-- Different texts. -/
def names : List Demand := [a .array, .items text, .distinct]

/-- Different texts, at least one. -/
def someNames : List Demand := [a .array, .items text, .notEmpty, .distinct]

/-- Under each name a schema or a sequence of names. -/
def dependencies (names : List Demand) : List Demand :=
  [a .object, .values [.anyOf [[.schema], names]]]

/-- The name of a type, or different names of types, at least one. -/
def typeNames : List Demand :=
  [.anyOf [[.typeName], [a .array, .items [.typeName], .notEmpty, .distinct]]]

/-- Different values, at least one. -/
def someValues : List Demand := [a .array, .notEmpty, .distinct]

/-! ## §2 Drafts 3 to 7 -/

/-- A name or a schema, or different ones of them. -/
def draft3Types : List Demand :=
  [.types [.type .string, .type .array], .items [.types [.type .string, .schema]], .distinct]

/-- A schema or a sequence of schemas, in draft 3. -/
def draft3Schemas : List Demand := [.types [.schema, .type .array], .items [.schema]]

/-- The rules of draft 3. -/
def draft3 : List Clause := [
  .types [.object],
  .keyword "type" draft3Types,
  .keyword "properties" namedSchemas,
  .keyword "patternProperties" namedSchemas,
  .keyword "additionalProperties" [.types [.schema, .type .boolean]],
  .keyword "items" draft3Schemas,
  .keyword "additionalItems" [.types [.schema, .type .boolean]],
  .keyword "required" truth,
  .keyword "dependencies"
    [a .object, .values [.types [.type .string, .type .array, .schema], .items text]],
  .keyword "minimum" number,
  .keyword "maximum" number,
  .keyword "exclusiveMinimum" truth,
  .keyword "exclusiveMaximum" truth,
  .keyword "minItems" length,
  .keyword "maxItems" length,
  .keyword "uniqueItems" truth,
  .keyword "pattern" regex,
  .keyword "minLength" length,
  .keyword "maxLength" [a .integer],
  .keyword "enum" someValues,
  .keyword "title" text,
  .keyword "description" text,
  .keyword "format" text,
  .keyword "divisibleBy" factor,
  .keyword "disallow" draft3Types,
  .keyword "extends" draft3Schemas,
  .keyword "id" text,
  .keyword "$ref" text,
  .keyword "$schema" text,
  .needs "exclusiveMinimum" "minimum",
  .needs "exclusiveMaximum" "maximum"]

/-- The rules of draft 4. -/
def draft4 : List Clause := [
  .types [.object],
  .keyword "id" text,
  .keyword "$schema" text,
  .keyword "title" text,
  .keyword "description" text,
  .keyword "multipleOf" factor,
  .keyword "maximum" number,
  .keyword "exclusiveMaximum" truth,
  .keyword "minimum" number,
  .keyword "exclusiveMinimum" truth,
  .keyword "maxLength" length,
  .keyword "minLength" length,
  .keyword "pattern" regex,
  .keyword "additionalItems" truthOrSchema,
  .keyword "items" schemaOrSome,
  .keyword "maxItems" length,
  .keyword "minItems" length,
  .keyword "uniqueItems" truth,
  .keyword "maxProperties" length,
  .keyword "minProperties" length,
  .keyword "required" someNames,
  .keyword "additionalProperties" truthOrSchema,
  .keyword "definitions" namedSchemas,
  .keyword "properties" namedSchemas,
  .keyword "patternProperties" namedSchemas,
  .keyword "dependencies" (dependencies someNames),
  .keyword "enum" someValues,
  .keyword "type" typeNames,
  .keyword "format" text,
  .keyword "allOf" someSchemas,
  .keyword "anyOf" someSchemas,
  .keyword "oneOf" someSchemas,
  .keyword "not" [.schema],
  .needs "exclusiveMaximum" "maximum",
  .needs "exclusiveMinimum" "minimum"]

/-- The bounds of numbers and texts since draft 6. -/
def bounds : List Clause := [
  .keyword "multipleOf" factor,
  .keyword "maximum" number,
  .keyword "exclusiveMaximum" number,
  .keyword "minimum" number,
  .keyword "exclusiveMinimum" number,
  .keyword "maxLength" length,
  .keyword "minLength" length,
  .keyword "pattern" regex]

/-- What drafts 6 and 7 say between the bounds and the contents. -/
def structures : List Clause := [
  .keyword "additionalItems" [.schema],
  .keyword "items" schemaOrSome,
  .keyword "maxItems" length,
  .keyword "minItems" length,
  .keyword "uniqueItems" truth,
  .keyword "contains" [.schema],
  .keyword "maxProperties" length,
  .keyword "minProperties" length,
  .keyword "required" names,
  .keyword "additionalProperties" [.schema],
  .keyword "definitions" namedSchemas,
  .keyword "properties" namedSchemas,
  .keyword "patternProperties" patternSchemas,
  .keyword "dependencies" (dependencies names),
  .keyword "propertyNames" [.schema],
  .keyword "enum" sequence,
  .keyword "type" typeNames,
  .keyword "format" text]

/-- Combinations of schemas. -/
def combinations : List Clause := [
  .keyword "allOf" someSchemas,
  .keyword "anyOf" someSchemas,
  .keyword "oneOf" someSchemas,
  .keyword "not" [.schema]]

/-- The choice of schemas by a schema. -/
def conditions : List Clause := [
  .keyword "if" [.schema],
  .keyword "then" [.schema],
  .keyword "else" [.schema]]

/-- The rules of draft 6. -/
def draft6 : List Clause := [
  .types [.object, .boolean],
  .keyword "$id" text,
  .keyword "$schema" text,
  .keyword "$ref" text,
  .keyword "title" text,
  .keyword "description" text,
  .keyword "examples" sequence]
  ++ bounds ++ structures ++ combinations

/-- The rules of draft 7. -/
def draft7 : List Clause := [
  .types [.object, .boolean],
  .keyword "$id" text,
  .keyword "$schema" text,
  .keyword "$ref" text,
  .keyword "$comment" text,
  .keyword "title" text,
  .keyword "description" text,
  .keyword "readOnly" truth,
  .keyword "examples" sequence]
  ++ bounds ++ structures
  ++ [.keyword "contentMediaType" text, .keyword "contentEncoding" text]
  ++ conditions ++ combinations

/-! ## §3 Vocabularies of 2019-09 -/

/-- Names and references of 2019-09. -/
def core2019 : List Clause := [
  .types [.object, .boolean],
  .keyword "$id" [a .string, .form .identifier],
  .keyword "$schema" text,
  .keyword "$anchor" [a .string, .form .anchor2019],
  .keyword "$ref" text,
  .keyword "$recursiveRef" text,
  .keyword "$recursiveAnchor" truth,
  .keyword "$vocabulary" [a .object, .keys text, .values truth],
  .keyword "$comment" text,
  .keyword "$defs" namedSchemas]

/-- Keywords of 2019-09 that apply schemas. -/
def applicator2019 : List Clause := [
  .keyword "additionalItems" [.schema],
  .keyword "unevaluatedItems" [.schema],
  .keyword "items" schemaOrSome,
  .keyword "contains" [.schema],
  .keyword "additionalProperties" [.schema],
  .keyword "unevaluatedProperties" [.schema],
  .keyword "properties" namedSchemas,
  .keyword "patternProperties" patternSchemas,
  .keyword "dependentSchemas" namedSchemas,
  .keyword "propertyNames" [.schema]]
  ++ conditions ++ combinations

/-- Counts and the names that depend on others, since 2019-09. -/
def counts : List Clause := [
  .keyword "maxItems" length,
  .keyword "minItems" length,
  .keyword "uniqueItems" truth,
  .keyword "maxContains" length,
  .keyword "minContains" length,
  .keyword "maxProperties" length,
  .keyword "minProperties" length,
  .keyword "required" names,
  .keyword "dependentRequired" [a .object, .values names]]

/-- Keywords since 2019-09 that say nothing about values. -/
def annotations : List Clause := [
  .keyword "title" text,
  .keyword "description" text,
  .keyword "deprecated" truth,
  .keyword "readOnly" truth,
  .keyword "writeOnly" truth,
  .keyword "examples" sequence,
  .keyword "format" text]

/-- The rules of 2019-09. -/
def draft2019 : List Clause :=
  core2019 ++ applicator2019 ++ bounds ++ counts
  ++ [.keyword "enum" sequence, .keyword "type" typeNames]
  ++ annotations
  ++ [.keyword "contentMediaType" text, .keyword "contentEncoding" text,
    .keyword "contentSchema" [.schema],
    .keyword "definitions" namedSchemas, .keyword "dependencies" (dependencies names)]

/-! ## §4 Vocabularies of 2020-12 -/

/-- The name of a place in 2020-12. -/
def anchor : List Demand := [a .string, .form .anchor2020]

/-- Names and references of 2020-12. -/
def core2020 : List Clause := [
  .types [.object, .boolean],
  .keyword "$id" [a .string, .form .identifier],
  .keyword "$schema" text,
  .keyword "$ref" text,
  .keyword "$anchor" anchor,
  .keyword "$dynamicRef" text,
  .keyword "$dynamicAnchor" anchor,
  .keyword "$vocabulary" [a .object, .keys text, .values truth],
  .keyword "$comment" text,
  .keyword "$defs" namedSchemas]

/-- Keywords of 2020-12 that apply schemas. -/
def applicator2020 : List Clause := [
  .keyword "prefixItems" someSchemas,
  .keyword "items" [.schema],
  .keyword "contains" [.schema],
  .keyword "additionalProperties" [.schema],
  .keyword "properties" namedSchemas,
  .keyword "patternProperties" patternSchemas,
  .keyword "dependentSchemas" namedSchemas,
  .keyword "propertyNames" [.schema]]
  ++ conditions ++ combinations
  ++ [.keyword "unevaluatedItems" [.schema], .keyword "unevaluatedProperties" [.schema]]

/-- The rules of 2020-12. -/
def draft2020 : List Clause :=
  core2020 ++ applicator2020
  ++ [.keyword "type" typeNames, .keyword "enum" sequence]
  ++ bounds ++ counts ++ annotations
  ++ [.keyword "contentEncoding" text, .keyword "contentMediaType" text,
    .keyword "contentSchema" [.schema],
    .keyword "definitions" namedSchemas, .keyword "dependencies" (dependencies names),
    .keyword "$recursiveAnchor" anchor, .keyword "$recursiveRef" text]

/-! ## §5 The rules of a dialect -/

/-- The rules of a dialect for its schemas. -/
def of : Dialect → List Clause
  | .draft3 => draft3
  | .draft4 => draft4
  | .draft6 => draft6
  | .draft7 => draft7
  | .draft2019 => draft2019
  | .draft2020 => draft2020

end SchemaDoc.Rules
