/-
SchemaDoc.Fields — the documented fields of a schema.

The leaves under the properties of an object schema are documented depth
first, in the order of the document. A property that is an object contributes
its own properties one level deeper; a property that is an array contributes
its members one level deeper, under the array's name. An object among the
members of an array stays at the depth of the members. Whether a field is
required is decided by the object that owns it alone. The depth may start from
any value; it is counted up where a level is entered, and fails there if it is
no number.

§1 what a node is, §2 leaves, §3 required names, §4 the walk, §5 whole schemas.
-/
import SchemaDoc.Descriptor.Basic
import SchemaDoc.Failure
import SchemaDoc.Value.Members

namespace SchemaDoc

/-! ## §1 What a node is -/

/-- What a node of a schema contributes. -/
inductive Shape where
  /-- Nothing: it is no schema of a known type. -/
  | skipped
  /-- The fields of its properties. -/
  | object (properties : Option Value)
  /-- The fields of its members. -/
  | array (members : List Value)
  /-- One field. -/
  | leaf

/-- The types of leaves, arrays without members apart. -/
def scalarTypes : List String := ["string", "number", "integer", "boolean"]

/-- The members of an array schema: a single schema, or a sequence of them. -/
def Value.memberSchemas (v : Value) : List Value :=
  match v.bare with
  | .mapping entries => [.mapping entries]
  | .sequence items => items
  | .pair first second => [first, second]
  | _ => []

/-- What a node contributes is decided by its type and, for arrays, by given members. -/
def Value.shape (node : Value) : Shape :=
  match node.get? "type" with
  | some (.text kind) =>
    if kind = "object" then .object (node.get? "properties")
    else if kind = "array" then
      match node.get? "items" with
      | some items => if items.isGiven then .array items.memberSchemas else .leaf
      | none => .leaf
    else if kind ∈ scalarTypes then .leaf
    else .skipped
  | _ => .skipped

theorem Value.sizeOf_memberSchemas (v : Value) : sizeOf v.memberSchemas ≤ sizeOf v + 3 := by
  have h := Value.sizeOf_bare v
  unfold Value.memberSchemas
  split <;> simp_all <;> omega

theorem Value.shape_object_lt {node p : Value} (h : node.shape = .object (some p)) :
    sizeOf p < sizeOf node := by
  unfold Value.shape at h
  split at h
  · split at h
    · simp only [Shape.object.injEq] at h
      have := Value.sizeOf_get? h
      omega
    · split at h
      · split at h
        · split at h <;> cases h
        · cases h
      · split at h <;> cases h
  · cases h

theorem Value.shape_array_lt {node : Value} {ms : List Value} (h : node.shape = .array ms) :
    sizeOf ms < sizeOf node := by
  unfold Value.shape at h
  split at h
  · split at h
    · cases h
    · split at h
      · split at h
        · rename_i items hi
          split at h
          · cases h
            have := Value.sizeOf_get? hi
            have := Value.sizeOf_memberSchemas items
            omega
          · cases h
        · cases h
      · split at h <;> cases h
  · cases h

/-! ## §2 Leaves -/

namespace Descriptor

/-- The value under a key, or null. -/
def fact (node : Value) (key : String) : Value := (node.get? key).getD .null

/-- The title of a node, else its description, else nothing. -/
def descriptionOf (node : Value) : Except Fault String :=
  if (fact node "title").isGiven then (fact node "title").displayText
  else if (fact node "description").isGiven then (fact node "description").displayText
  else .ok ""

/-- The type of a text field with its format, else its pattern, behind a slash. -/
def textLabel (node : Value) : Except Fault String :=
  let qualifier := if (fact node "format").isGiven then fact node "format" else fact node "pattern"
  let kind := (fact node "type").display
  if qualifier.isGiven then qualifier.displayText.map fun q => kind ++ " / " ++ q else .ok kind

/-- A lower bound; an exclusive one is raised by one. -/
def lowerBound (node : Value) : Except Fault Value :=
  let bound := fact node "minimum"
  if bound.isGiven then
    if (fact node "exclusiveMinimum").isGiven then bound.add (.integer 1) else .ok bound
  else .ok .null

/-- An upper bound; an exclusive one is lowered by one. -/
def upperBound (node : Value) : Except Fault Value :=
  let bound := fact node "maximum"
  if bound.isGiven then
    if (fact node "exclusiveMaximum").isGiven then bound.sub (.integer 1) else .ok bound
  else .ok .null

/-- The fault of a type that is compared with the known types: one without a text has too many
digits, a sequence or mapping cannot be looked up among them, anything else is no leaf. -/
def notLeafFault (kind : Value) : Fault :=
  match kind.literalText, kind.kind with
  | .error f, _ => f
  | .ok _, .sequence => .unhashable .sequence
  | .ok _, .mapping => .unhashable .mapping
  | .ok shown, _ => .notLeaf shown

/-- The type expression of a leaf. -/
def leafType (node : Value) : Except Fault String :=
  match fact node "type" with
  | .text "string" => do
    let label ← textLabel node
    Expression.ofType label (fact node "minLength") (fact node "maxLength") (fact node "enum")
  | .text "number" | .text "integer" => do
    let low ← lowerBound node
    let high ← upperBound node
    Expression.ofType (fact node "type").display low high (fact node "enum")
  | .text "array" => Expression.ofType "array" (fact node "minItems") (fact node "maxItems") .null
  | .text "boolean" => Expression.ofType "boolean" .null .null .null
  | kind => .error (notLeafFault kind)

/-- The descriptor of a leaf. -/
def ofLeaf (name node depth : Value) (required : Bool) : Except Fault Descriptor :=
  if node.isMapping then do
    let t ← leafType node
    let d ← descriptionOf node
    return ⟨depth, name, required, t, node.get? "default", d⟩
  else .error (.noAttribute node.kind "get")

end Descriptor

/-! ## §3 Required names -/

/-- The members of a list of names, whatever its form. -/
def Value.listed (v : Value) : List Value :=
  match v.bare with
  | .sequence items => items
  | .pair first second => [first, second]
  | .set members => members.map .scalar
  | _ => []

/-- The names that an object requires, as texts: the members of its list of them. -/
def Value.requiredNames (node : Value) : Except Fault (List String) :=
  match node.get? "required" with
  | some names => names.listed.mapM Value.displayText
  | none => .ok []

/-- The required names as a set. -/
def Value.requiredSet (node : Value) : Except Fault Value :=
  node.requiredNames.map fun names => .set (names.map .text)

/-! ## §4 The walk -/

namespace Fields

mutual

/-- The fields of the properties of an object, at a depth; empty values hold no properties. -/
def ofProperties (depth required properties : Value) : Except Fault (List Descriptor) :=
  match _h : properties.bare with
  | .mapping entries => ofEntries depth required entries
  | v => if v.isFilled then .error (.noAttribute v.kind "items") else .ok []
termination_by (sizeOf properties, 0)
decreasing_by
  have hb := Value.sizeOf_bare properties
  rw [_h] at hb
  simp only [Value.mapping.sizeOf_spec] at hb
  exact Prod.Lex.left _ _ (by omega)

/-- The fields of a list of properties. -/
def ofEntries (depth required : Value) (entries : List (Scalar × Value)) :
    Except Fault (List Descriptor) :=
  match entries with
  | [] => .ok []
  | (name, node) :: rest => do
    let here ← ofProperty depth required name node
    let more ← ofEntries depth required rest
    return here ++ more
termination_by (sizeOf entries, 0)

/-- The fields of one property. -/
def ofProperty (depth required : Value) (name : Scalar) (node : Value) :
    Except Fault (List Descriptor) :=
  match _h : node.shape with
  | .skipped => .ok []
  | .object properties => do
    let deeper ← depth.add (.integer 1)
    let own ← node.requiredSet
    match _hp : properties with
    | none => return []
    | some p => ofProperties deeper own p
  | .array members => ofMembers depth (.scalar name) members
  | .leaf => do
    let isRequired ← required.contains name
    let d ← Descriptor.ofLeaf (.scalar name) node depth isRequired
    return [d]
termination_by (sizeOf node, 0)
decreasing_by
  · subst _hp
    exact Prod.Lex.left _ _ (Value.shape_object_lt _h)
  · exact Prod.Lex.left _ _ (Value.shape_array_lt _h)

/-- The fields of the members of an array that stands at a depth, under its name. -/
def ofMembers (depth name : Value) (members : List Value) : Except Fault (List Descriptor) :=
  match members with
  | [] => .ok []
  | member :: rest => do
    let deeper ← depth.add (.integer 1)
    let here ← ofMember deeper name member
    let more ← ofMembers depth name rest
    return here ++ more
termination_by (sizeOf members, 0)

/-- The fields of one member of an array: never required, unless a member is an object with
required names of its own. -/
def ofMember (depth name member : Value) : Except Fault (List Descriptor) :=
  match _h : member.shape with
  | .skipped => .ok []
  | .object properties => do
    let own ← member.requiredSet
    match _hp : properties with
    | none => return []
    | some p => ofProperties depth own p
  | .array members => ofMembers depth name members
  | .leaf => do
    let d ← Descriptor.ofLeaf name member depth false
    return [d]
termination_by (sizeOf member, 0)
decreasing_by
  · subst _hp
    exact Prod.Lex.left _ _ (Value.shape_object_lt _h)
  · exact Prod.Lex.left _ _ (Value.shape_array_lt _h)

end

end Fields

/-! ## §5 Whole schemas -/

/-- The root of a schema is a mapping of type object. -/
def Value.objectRoot (schema : Value) : Except Failure (List (Scalar × Value)) :=
  match schema.bare with
  | .mapping entries =>
    match Entries.get? entries (.text "type") with
    | some (.text "object") => .ok entries
    | _ => .error .notObject
  | _ => .error .notObject

/-- The fields of a schema. -/
def Fields.ofSchema (schema : Value) : Except Failure (List Descriptor) := do
  if schema.has "allOf" then throw .composition
  let _ ← schema.objectRoot
  let required ← orFail schema.requiredSet
  orFail (Fields.ofProperties (.integer 0) required ((schema.get? "properties").getD .null))

/-- The lines of the fields of a schema. -/
def Fields.linesOf (schema pad : Value) : Except Failure (List String) := do
  let fields ← Fields.ofSchema schema
  orFail (fields.mapM fun d => d.render pad)

end SchemaDoc
