/-
SchemaDoc.Reference.Resource — documents and schemas that references can name.

A resource is a value read in a dialect. It may name itself, hold anchors, and
hold further resources under the keywords of its dialect; a resource that
states its dialect is read in that one, any other in the dialect around it.
Nothing is known about a value before it is asked, so each question may meet a
value of the wrong kind.

§1 resources, §2 names, §3 anchors, §4 resources inside.
-/
import SchemaDoc.Schema.Dialect
import SchemaDoc.Value.Members

namespace SchemaDoc.Reference

/-! ## §1 Resources -/

/-- A value read in a dialect. -/
structure Resource where
  dialect : Dialect
  contents : Value

/-- A text that a value must be to be stripped of number signs. -/
def strippable : Value → Except Fault String
  | .text s => .ok s
  | .bytes _ => .error (.notBytes .text)
  | v => .error (.noAttribute v.kind "rstrip")

/-- A text that a value must be to be asked how it starts. -/
def startable : Value → Except Fault String
  | .text s => .ok s
  | .bytes _ => .error .notLeading
  | v => .error (.noAttribute v.kind "startswith")

/-- The value under a key of a mapping. -/
def lookUp (v : Value) (key : String) : Except Fault (Option Value) :=
  match v.bare with
  | .mapping entries => .ok (Entries.get? entries (.text key))
  | v => .error (.noAttribute v.kind "get")

/-- The value under a key of a mapping, null counting as none. -/
def lookUpGiven (v : Value) (key : String) : Except Fault (Option Value) := do
  let found ← lookUp v key
  return found.filter fun
    | .null => false
    | _ => true

/-- A text without the number signs at its end. -/
def withoutFragmentMark (s : String) : String :=
  String.ofList ((s.toList.reverse.dropWhile (· == '#')).reverse)

/-- A text starts with a number sign. -/
def isFragment (s : String) : Bool := s.toList.head? == some '#'

/-- The resource of a value: in the dialect that it states, if that is known, else in the given
one. -/
def Resource.ofValue (dialect : Dialect) (contents : Value) : Except Fault Resource :=
  match contents.bare with
  | .mapping entries =>
    match Entries.get? entries (.text "$schema") with
    | none | some .null => .ok ⟨dialect, contents⟩
    | some stated => do
      let s ← strippable stated
      return ⟨(Dialect.ofIdentifier? (withoutFragmentMark s)).getD dialect, contents⟩
  | _ => .ok ⟨dialect, contents⟩

/-! ## §2 Names -/

/-- The name under the keyword of an older dialect, which takes none beside a reference and none that
is only a fragment. -/
def olderName (contents : Value) (keyword : String) : Except Fault (Option Value) := do
  if (← contents.contains (.text "$ref")) then return none
  match ← lookUpGiven contents keyword with
  | none => return none
  | some v =>
    let s ← startable v
    return if isFragment s then none else some v

/-- The name as it stands under the keyword of the dialect. -/
def rawName (r : Resource) : Except Fault (Option Value) :=
  match r.dialect with
  | .draft3 | .draft4 => olderName r.contents "id"
  | .draft6 | .draft7 =>
    match r.contents with
    | .bool _ => .ok none
    | contents => olderName contents "$id"
  | .draft2019 | .draft2020 =>
    match r.contents with
    | .bool _ => .ok none
    | contents => lookUpGiven contents "$id"

/-- The name that a resource gives itself. -/
def Resource.name? (r : Resource) : Except Fault (Option String) := do
  match ← rawName r with
  | none => return none
  | some v =>
    let s ← strippable v
    return some (withoutFragmentMark s)

/-! ## §3 Anchors -/

/-- A named place. A dynamic anchor gives way to those of the same name around it. -/
structure Anchor where
  name : Scalar
  resource : Resource
  dynamic : Bool

/-- The name of an anchor, which must be a scalar. -/
def anchorName : Value → Except Fault Scalar
  | .scalar s => .ok s
  | v => .error (.unhashable v.kind)

/-- The anchor under a keyword. -/
def anchorUnder (r : Resource) (keyword : String) (dynamic : Bool) :
    Except Fault (List Anchor) := do
  match ← lookUpGiven r.contents keyword with
  | none => return []
  | some v =>
    let name ← anchorName v
    return [⟨name, r, dynamic⟩]

/-- The anchor that a name of only a fragment gives. -/
def anchorInName (r : Resource) (keyword : String) : Except Fault (List Anchor) := do
  match ← lookUp r.contents keyword with
  | none => return []
  | some v =>
    let s ← startable v
    return if isFragment s then [⟨.text (String.ofList (s.toList.drop 1)), r, false⟩] else []

/-- The anchors of a resource, those inside it apart. -/
def Resource.anchors (r : Resource) : Except Fault (List Anchor) :=
  match r.dialect, r.contents with
  | .draft3, _ | .draft4, _ => anchorInName r "id"
  | _, .bool _ => .ok []
  | .draft6, _ | .draft7, _ => anchorInName r "$id"
  | .draft2019, _ => anchorUnder r "$anchor" false
  | .draft2020, _ => do
    let fixed ← anchorUnder r "$anchor" false
    let dynamic ← anchorUnder r "$dynamicAnchor" true
    return fixed ++ dynamic

/-! ## §4 Resources inside -/

/-- The items of a value that can be gone through: the keys of a mapping, the letters of a
text. -/
def itemsOf (v : Value) : Except Fault (List Value) :=
  match v.bare with
  | .sequence items => .ok items
  | .pair first second => .ok [first, second]
  | .set members => .ok (members.map .scalar)
  | .mapping entries => .ok (entries.map fun e => .scalar e.1)
  | .text s => .ok ((Text.letters s.toList).map fun c => .text (String.ofList c))
  | .bytes bs => .ok (bs.map fun b => .integer b.toNat)
  | v => .error (.notIterable v.kind)

/-- The values of a mapping. -/
def valuesOf (v : Value) : Except Fault (List Value) :=
  match v.bare with
  | .mapping entries => .ok (entries.map (·.2))
  | v => .error (.noAttribute v.kind "values")

/-- The values that some keywords of a mapping hold, in the order of the keywords. -/
def underKeywords (contents : Value) (keywords : List String)
    (parts : Value → Except Fault (List Value)) : List (Except Fault (List Value)) :=
  keywords.filterMap fun k => (contents.get? k).map parts

/-- The schemas under the keyword `items`: a sequence of them, or one. -/
def mixedItems (contents : Value) : Except Fault (List Value) := do
  match ← lookUpGiven contents "items" with
  | none => return []
  | some v => match v.kind with
    | .sequence | .pair | .text | .bytes => itemsOf v
    | _ => return [v]

/-- The schemas under the keyword `dependencies`, if the first value there is one. -/
def mixedDependencies (contents : Value) : Except Fault (List Value) := do
  match ← lookUpGiven contents "dependencies" with
  | none => return []
  | some v =>
    let values ← valuesOf v
    return if (values.head?.map Value.isMapping).getD false then values else []

/-- The mappings under the keywords for additional members. -/
def mixedAdditional (contents : Value) : List Value :=
  ["additionalItems", "additionalProperties"].filterMap fun k =>
    (contents.get? k).filter Value.isMapping

/-- The values inside a resource that its dialect reads as schemas, keyword by keyword. -/
def subschemas (r : Resource) : List (Except Fault (List Value)) :=
  let d := r.dialect
  underKeywords r.contents d.valueKeywords (fun v => .ok [v])
    ++ underKeywords r.contents d.sequenceKeywords itemsOf
    ++ underKeywords r.contents d.mappingKeywords valuesOf
    ++ (if d.hasMixedItems then [mixedItems r.contents] else [])
    ++ (if d.hasDependencies then [mixedDependencies r.contents] else [])
    ++ (if d.hasMixedAdditional then [.ok (mixedAdditional r.contents)] else [])

/-- The resources of the values of some parts; the first fault among parts and values counts. -/
def resourcesOf (d : Dialect) (parts : List (Except Fault (List Value))) :
    Except Fault (List Resource) := do
  let found ← parts.mapM fun part => part >>= List.mapM (Resource.ofValue d)
  return found.flatten

/-- The resources directly inside a resource. -/
def Resource.inside (r : Resource) : Except Fault (List Resource) :=
  match r.dialect, r.contents with
  | .draft3, _ | .draft4, _ => resourcesOf r.dialect (subschemas r)
  | _, .bool _ => .ok []
  | _, _ => resourcesOf r.dialect (subschemas r)

end SchemaDoc.Reference
