/-
SchemaDoc.Reference.Resolver — following one reference.

A resolver is a registry seen from a base URI. A reference names a resource,
or a place in it by a pointer or an anchor; following it gives the value there
and the resolver for the references inside that value. A pointer that passes a
schema with a name of its own changes the base.

§1 resolvers, §2 pointers, §3 anchors, §4 references.
-/
import SchemaDoc.Reference.Registry

namespace SchemaDoc.Reference

/-! ## §1 Resolvers -/

/-- A registry, the base of relative references, and the bases passed through, the latest first. -/
structure Resolver where
  registry : Registry
  base : String
  passed : List String := []

namespace Resolver

/-- The resolver in another resource. -/
def enter (r : Resolver) (registry : Registry) (base : String) : Resolver :=
  let passed := if r.base != "" && (r.passed.isEmpty || base != r.base) then r.base :: r.passed
    else r.passed
  ⟨registry, base, passed⟩

/-- The resolver inside a resource: its name, if it has one, changes the base. -/
def inside (r : Resolver) (resource : Resource) : Except Fault (Option Resolver) := do
  match ← resource.name? with
  | none => return none
  | some name =>
    let base ← joined r.base name
    return some { r with base := base }

/-! ## §2 Pointers -/

/-- The item at an index, which counts from the end if it is negative. -/
def itemAt? {α : Type} (items : List α) (i : Int) : Option α :=
  if 0 ≤ i then items[i.toNat]?
  else if (-i).toNat ≤ items.length then items[items.length - (-i).toNat]?
  else none

/-- The items of a value that is indexed by numbers. -/
def indexed? (v : Value) : Option (List Value) :=
  match v.bare with
  | .sequence items => some items
  | .pair first second => some [first, second]
  | .text s => some ((Text.letters s.toList).map fun c => .text (String.ofList c))
  | .bytes bs => some (bs.map fun b => .integer b.toNat)
  | _ => none

/-- A text with each occurrence of a tilde and a digit replaced by a character. -/
def replaceTilde (digit by_ : Char) : List Char → List Char
  | '~' :: d :: rest =>
    if d = digit then by_ :: replaceTilde digit by_ rest
    else '~' :: replaceTilde digit by_ (d :: rest)
  | c :: rest => c :: replaceTilde digit by_ rest
  | [] => []

/-- A pointer's segment with its escapes resolved. -/
def unescapeSegment (s : List Char) : String :=
  String.ofList (replaceTilde '0' '~' (replaceTilde '1' '/' s))

/-- One step of a pointer: the value at a segment, and the segment as a name unless it is an
index. -/
def stepInto (contents : Value) (segment : List Char) :
    Except Stop (Option (Value × Option String)) :=
  match indexed? contents with
  | some items => do
    let i ← orStop (Reading.integer 10 (String.ofList segment))
    return (itemAt? items i).map fun v => (v, none)
  | none =>
    let name := unescapeSegment segment
    match contents.bare with
    | .mapping entries => .ok ((Entries.get? entries (.text name)).map fun v => (v, some name))
    | v => .error (.fault (.noParts v.kind))

/-- The value at the end of a pointer. `names` lead from the last schema passed to the place
reached. -/
def follow (dialect : Dialect) (pointer : String) :
    List (List Char) → List (Option String) → Value → Resolver → Except Stop (Value × Resolver)
  | [], _, contents, r => .ok (contents, r)
  | segment :: rest, names, contents, r => do
    match ← stepInto contents segment with
    | none => throw (.nowhere (Text.quote pointer ++ " does not exist"))
    | some (v, name) =>
      let names := names ++ [name]
      if dialect.leadsToSchema v.isMapping names then
        match ← orStop (r.inside ⟨dialect, v⟩) with
        | some inner => follow dialect pointer rest [] v inner
        | none => follow dialect pointer rest names v r
      else follow dialect pointer rest names v r

/-- The value that a pointer names in a resource. -/
def pointer (r : Resolver) (resource : Resource) (pointer : String) :
    Except Stop (Value × Resolver) :=
  let segments := Text.cutAt '/' (Uri.unescape (String.ofList (pointer.toList.drop 1))).toList
  r.follow resource.dialect pointer segments [] resource.contents

/-! ## §3 Anchors -/

/-- The outermost of the resources around a dynamic anchor that have one of its name. A resource
without one is passed over, unless the name has a slash and so is none that it could have. -/
def outermost (r : Resolver) (name : String) :
    List String → Resource → Except Stop Resource
  | [], found => .ok found
  | uri :: rest, found =>
    match r.registry.anchor uri name with
    | .ok (_, a) => r.outermost name rest (if a.dynamic then a.resource else found)
    | .error (.nowhere reason) =>
      if (r.registry.find? (withoutFragmentMark uri)).isSome && !name.toList.contains '/' then
        r.outermost name rest found
      else .error (.nowhere reason)
    | .error stop => .error stop

/-- The value of an anchor. -/
def anchored (r : Resolver) (a : Anchor) (name : String) : Except Stop (Value × Resolver) :=
  if a.dynamic then do
    let resource ← r.outermost name r.passed a.resource
    let inner ← orStop (r.inside resource)
    return (resource.contents, inner.getD r)
  else .ok (a.resource.contents, r)

/-! ## §4 References -/

/-- The URI and the fragment of a reference. -/
def target (r : Resolver) (reference : String) : Except Fault (String × String) :=
  match reference.toList with
  | '#' :: fragment => .ok (r.base, String.ofList fragment)
  | _ => do
    let uri ← joined r.base reference
    (Uri.cutFragment uri).mapError .malformedUri

/-- The value that a reference names, and the resolver for the references in it. A file that is not
known yet is read as the given reading. -/
def lookUp (disk : Disk) (r : Resolver) (reading : Mark) (reference : String) :
    Except Stop (Value × Resolver) := do
  let (uri, fragment) ← orStop (r.target reference)
  let (registry, resource) ← r.registry.fetch disk reading uri
  if fragment.toList.head? = some '/' then
    (r.enter registry uri).pointer resource fragment
  else if fragment = "" then return (resource.contents, r.enter registry uri)
  else
    let (registry, a) ← registry.anchor uri fragment
    (r.enter registry uri).anchored a fragment

end Resolver

end SchemaDoc.Reference
