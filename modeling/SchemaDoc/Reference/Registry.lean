/-
SchemaDoc.Reference.Registry — what is known about URIs.

A registry knows resources by their URIs and anchors by the URI and name. It
looks into its resources only when a URI is not known as it stands: then every
resource inside is entered under the name it gives itself. A URI that is still
not known is read from its file.

§1 registries, §2 looking inside, §3 files, §4 asking.
-/
import SchemaDoc.Load
import SchemaDoc.Reference.Resource
import SchemaDoc.Uri.Join
import SchemaDoc.Uri.Percent

namespace SchemaDoc.Reference

/-! ## §1 Registries -/

/-- Resources and anchors, the latest entry of a key counting. -/
structure Registry where
  resources : List (String × Resource) := []
  anchors : List ((String × Scalar) × Anchor) := []
  /-- The URIs of resources that have not been looked into. -/
  unopened : List String := []

/-- Why a reference has no answer. -/
inductive Stop where
  /-- The file of a URI is not there. -/
  | missing (path : String)
  /-- Nothing is known by the reference, for a stated reason. -/
  | nowhere (reason : String)
  /-- A value or text did not admit what was asked of it. -/
  | fault (f : Fault)
  deriving DecidableEq

/-- A computation that may meet a fault, as part of a look-up. -/
def orStop {α : Type} (x : Except Fault α) : Except Stop α := x.mapError .fault

/-- A reference seen from a base. -/
def joined (base reference : String) : Except Fault String :=
  (Uri.join base reference).mapError .malformedUri

namespace Registry

/-- The resource known by a URI. -/
def find? (g : Registry) (uri : String) : Option Resource := g.resources.lookup uri

/-- The anchor known by a URI and a name. -/
def anchor? (g : Registry) (uri : String) (name : String) : Option Anchor :=
  (g.anchors.find? fun ((u, n), _) => u == uri && (Scalar.text name).same n).map (·.2)

/-- A registry with one more resource, which has not been looked into. -/
def add (g : Registry) (uri : String) (r : Resource) : Registry :=
  let uri := withoutFragmentMark uri
  { g with resources := (uri, r) :: g.resources, unopened := uri :: g.unopened }

/-! ## §2 Looking inside -/

/-- Enters the names and anchors of the resources on a stack, and of all that lie inside them. -/
def openAll : Nat → Registry → List (String × Resource) → Except Fault Registry
  | 0, g, _ => .ok g
  | _ + 1, g, [] => .ok g
  | fuel + 1, g, (uri, r) :: rest => do
    let name ← r.name?
    let (uri, g) ← match name with
      | none => pure (uri, g)
      | some n => do
        let uri ← joined uri n
        pure (uri, { g with resources := (uri, r) :: g.resources })
    let anchors ← r.anchors
    let g := { g with anchors := (anchors.map fun a => ((uri, a.name), a)).reverse ++ g.anchors }
    let inside ← r.inside
    openAll fuel g ((inside.map fun r => (uri, r)).reverse ++ rest)

/-- The registry with all its resources looked into. -/
def opened (g : Registry) : Except Fault Registry :=
  let stack := g.unopened.filterMap fun uri => (g.find? uri).map fun r => (uri, r)
  let fuel := stack.foldl (fun n (_, r) => n + r.contents.size) 1
  openAll fuel { g with unopened := [] } stack

/-! ## §3 Files -/

/-- The resource in the file that a URI names, in a reading of its own. Whatever is wrong with the
URI or the file's content is a reason, not a fault. -/
def retrieve (disk : Disk) (reading : Mark) (uri : String) : Except Stop Resource :=
  match Uri.split uri.toList with
  | .error m => .error (.nowhere m.message)
  | .ok parts =>
    if parts.scheme != "file".toList then
      .error (.nowhere ("unsupported reference location: " ++ uri))
    else
      let path := Uri.toPath parts.path
      match disk.bytes? path with
      | .error f => .error (.nowhere f.message)
      | .ok none => .error (.missing path.toString)
      | .ok (some bytes) =>
        let document := do
          let text ← orFail (Load.text bytes)
          Load.document text (Text.lower path.suffix) path.toString reading
        match document with
        | .error f => .error (.nowhere f.message)
        | .ok contents =>
          match Resource.ofValue .draft4 contents with
          | .error f => .error (.nowhere f.message)
          | .ok r => .ok r

/-! ## §4 Asking -/

/-- The resource of a URI, and the registry that knows it. A file is read as the given reading. -/
def fetch (disk : Disk) (g : Registry) (reading : Mark) (uri : String) :
    Except Stop (Registry × Resource) :=
  match g.find? uri with
  | some r => .ok (g, r)
  | none => do
    let g ← orStop g.opened
    match g.find? uri with
    | some r => return (g, r)
    | none =>
      let r ← retrieve disk reading uri
      return (g.add uri r, r)

/-- The anchor of a name in the resource of a URI, and the registry that knows it. The resource may
know the anchor under the name that it gives itself. -/
def anchor (g : Registry) (uri name : String) : Except Stop (Registry × Anchor) :=
  match g.anchor? uri name with
  | some a => .ok (g, a)
  | none => do
    let inner ← orStop g.opened
    match inner.anchor? uri name with
    | some a => return (inner, a)
    | none =>
      match g.find? (withoutFragmentMark uri) with
      | none => throw (.nowhere ("no resource is known by " ++ uri))
      | some r =>
        let own ← orStop r.name?
        match own.bind fun u => inner.anchor? u name with
        | some a => return (inner, a)
        | none => throw (.nowhere ("there is no anchor " ++ Text.quote name ++ " in " ++ uri))

end Registry

end SchemaDoc.Reference
