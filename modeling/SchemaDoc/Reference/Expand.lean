/-
SchemaDoc.Reference.Expand — a document with its references carried out.

A mapping with a text under `$ref` stands for what the reference names; its
other entries, carried out where it stands, are laid over what is named if
that is a mapping. Everything else is kept, part by part. A reference that is
being carried out already is circular. A sequence or mapping that holds itself
is carried out without end, and that is reported as too deep.

A walk goes as deep as the document and its references lead it; no limit on
calls inside one another is set. What is reported as too deep does not end.

§1 carrying out a document, given how a reference is followed. §2 following a
reference. §3 documents.
-/
import SchemaDoc.Reference.Resolver

namespace SchemaDoc.Reference

/-! ## §1 Carrying out a document -/

/-- The key that makes a mapping a reference. -/
def referenceKey : Scalar := .text "$ref"

/-- The reference that a mapping stands for. -/
def reference? (entries : List (Scalar × Value)) : Option String :=
  match Entries.get? entries referenceKey with
  | some (.text s) => some s
  | _ => none

/-- Entries laid over others: the others follow where their keys are new. -/
def layOver (upper lower : List (Scalar × Value)) : List (Scalar × Value) :=
  lower.foldl (fun acc e => if Entries.has acc e.1 then acc else acc ++ [e]) upper

/-- Where a value stands in a document that is carried out: the places of the parts around it, its
own first. No two references are carried out at one position, so that a file read for a reference has
the position as its reading. -/
abbrev Position := Mark

/-- The position of a document's root. -/
def rootPosition : Position := [1]

/-- What becomes of a value that holds itself, given what becomes of its body. Where it is cut off, it
would be carried out again and again. Pairs are kept as they are. -/
def unwind (mark : Nat) (body : Value) (inner : Except Failure Value) : Except Failure Value :=
  match body with
  | .scalar _ => .error (.fault .tooDeep)
  | .pair _ _ => .ok (.looped mark body)
  | _ => inner

mutual

/-- A value at a position with its references carried out by `follow`. What a reference names stands
at the place 0 of the mapping that is the reference. -/
def inline (follow : Position → String → Except Failure Value) (p : Position) :
    Value → Except Failure Value
  | .sequence items => do
    let items ← inlineItems follow p 0 items
    return .sequence items
  | .mapping entries =>
    match reference? entries with
    | none => do
      let entries ← inlineEntries follow p 1 entries
      return .mapping entries
    | some reference => do
      let named ← follow p reference
      match named with
      | .mapping lower =>
        let upper ← inlineSiblings follow p 1 entries
        return .mapping (if upper.isEmpty then lower else layOver upper lower)
      | v => return v
  | .looped mark body => unwind mark body (inline follow p body)
  | v => .ok v

/-- The items of a sequence from a place on with their references carried out. -/
def inlineItems (follow : Position → String → Except Failure Value) (p : Position) (place : Nat) :
    List Value → Except Failure (List Value)
  | [] => .ok []
  | v :: rest => do
    let v ← inline follow (place :: p) v
    let rest ← inlineItems follow p (place + 1) rest
    return v :: rest

/-- The entries of a mapping from a place on with the references in their values carried out. -/
def inlineEntries (follow : Position → String → Except Failure Value) (p : Position)
    (place : Nat) : List (Scalar × Value) → Except Failure (List (Scalar × Value))
  | [] => .ok []
  | (k, v) :: rest => do
    let v ← inline follow (place :: p) v
    let rest ← inlineEntries follow p (place + 1) rest
    return (k, v) :: rest

/-- The entries beside a reference with the references in their values carried out. -/
def inlineSiblings (follow : Position → String → Except Failure Value) (p : Position)
    (place : Nat) : List (Scalar × Value) → Except Failure (List (Scalar × Value))
  | [] => .ok []
  | (k, v) :: rest =>
    if referenceKey.same k then inlineSiblings follow p (place + 1) rest
    else do
      let v ← inline follow (place :: p) v
      let rest ← inlineSiblings follow p (place + 1) rest
      return (k, v) :: rest

end

/-! ## §2 Following a reference -/

/-- Where a value stands: the resolver for its references, the URI of the document it is written in
and the references being carried out. -/
structure Place where
  resolver : Resolver
  document : String
  trail : List String

/-- What a reference that cannot be followed is reported as. A missing file is looked for along the chain
of failures that led to this one, each of which knows its cause or else the failure that was being
dealt with when it arose. Of the reading of a document the chain has only that of the document asked
for, so that it has a missing file of its own just if this one is missing (`Stop.missing`). Below all
that stands what was being dealt with when the run began: nothing in a first attempt, and in a second
one the failure of the first, which is that of a missing file. So every reference that leads nowhere is
reported as missing that file then, and there is nothing else to be found. -/
def Stop.toFailure (reference document : String) (earlier : Option String) : Stop → Failure
  | .missing path => .missingReference reference document path
  | .nowhere reason => match earlier with
    | some path => .missingReference reference document path
    | none => .unresolved reference document reason
  | .fault f => .fault f

/-- Where a reference at a position leads: the place of what it names, and what stands there. -/
def Place.lead (disk : Disk) (earlier : Option String) (here : Place) (p : Position)
    (reference : String) : Except Failure (Place × Value) := do
  let target ← orFail (joined here.document reference)
  if here.trail.contains target then throw (.circular reference here.document)
  let (contents, resolver) ← (here.resolver.lookUp disk p reference).mapError
    (Stop.toFailure reference here.document earlier)
  let (document, _) ← orFail ((Uri.cutFragment target).mapError .malformedUri)
  return (⟨resolver, document, target :: here.trail⟩, contents)

/-- A value at a place and a position with its references carried out, as long as they lead on at most
`hops` times one after the other. -/
def expandAt (disk : Disk) (earlier : Option String) :
    Nat → Place → Position → Value → Except Failure Value
  | 0, _, p, v => inline (fun _ _ => .error (.fault .tooDeep)) p v
  | hops + 1, here, p, v =>
    inline (fun p reference => do
      let (there, contents) ← here.lead disk earlier p reference
      expandAt disk earlier hops there (0 :: p) contents) p v

/-! ## §3 Documents -/

/-- The most references that may lead on one after the other. References of one document that lead
on without a circle are distinct, so that its size bounds their number. -/
def hopLimit (disk : Disk) (document : Value) : Nat :=
  disk.tree.weight + document.size + 1000

/-- The file name of a document that has none. -/
def unnamed : String := "schema.json"

/-- The URI of a document in a directory. -/
def rootUri (disk : Disk) (base : Path) (name : String) : Except Fault String := do
  let directory ← disk.resolve base
  Uri.ofPath (directory.join (Path.ofString name))

/-- The place of a document's root. -/
def rootPlace (uri : String) (document : Value) : Except Fault Place := do
  let resource ← Resource.ofValue .draft4 document
  return ⟨⟨({} : Registry).add uri resource, uri, []⟩, uri, []⟩

/-- A document with its references carried out, relative ones seen from a directory, as long as they
lead on at most `hops` times one after the other; after an earlier attempt that missed a file, if
there was one. -/
def dereferenceWithin (hops : Nat) (earlier : Option String) (disk : Disk) (document : Value)
    (base : Path) (name : String) : Except Failure Value := do
  let uri ← orFail (rootUri disk base name)
  let place ← orFail (rootPlace uri document)
  expandAt disk earlier hops place rootPosition document

/-- A document with its references carried out, relative ones seen from a directory, after an
earlier attempt that missed a file, if there was one. -/
def dereferenceAfter (earlier : Option String) (disk : Disk) (document : Value) (base : Path)
    (name : String) : Except Failure Value :=
  dereferenceWithin (hopLimit disk document) earlier disk document base name

/-- A document with its references carried out, relative ones seen from a directory. -/
def dereference (disk : Disk) (document : Value) (base : Path) (name : String) :
    Except Failure Value :=
  dereferenceAfter none disk document base name

end SchemaDoc.Reference
