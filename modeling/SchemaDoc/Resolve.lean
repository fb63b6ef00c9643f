/-
SchemaDoc.Resolve — schemas with their references carried out.

A schema file is located, loaded and rid of its references. Relative
references are seen from the base directory first; if that misses a file and
the schema lies in another directory, they are seen from there. The result may
be checked against its dialect, and is an object schema.
-/
import SchemaDoc.Fields
import SchemaDoc.Load
import SchemaDoc.Log.Event
import SchemaDoc.Reference.Expand
import SchemaDoc.Schema.Check

namespace SchemaDoc.Resolve

/-- The file that a failure misses for a reference. -/
def missed? : Failure → Option String
  | .missingReference _ _ path => some path
  | _ => none

/-- The document of a schema file, its references carried out. -/
def inlined (disk : Disk) (base path : Path) (document : Value) : Logged Value :=
  let first := Reference.dereference disk document base path.fileName
  match first with
  | .ok v => pure v
  | .error f => match missed? f with
    | none => .ofResult first
    | some missing => do
      let directory ← orFail (disk.resolve base)
      if path.parent = directory then .ofResult first
      else do
        Logged.tell (.retried path.toString f)
        Reference.dereferenceAfter (some missing) disk document path.parent path.fileName

/-- An object schema, checked first if that is asked for. -/
def finished (strict : Bool) (schema : Value) : Except Failure Value := do
  if strict then Schema.check schema
  let entries ← schema.objectRoot
  return .mapping entries

/-- The schema that a document in memory holds. -/
def document (disk : Disk) (base : Path) (strict : Bool) (document : Value) :
    Except Failure Value := do
  let schema ← Reference.dereference disk document base Reference.unnamed
  finished strict schema

/-- The schema that a file holds; the path is seen from the base directory. -/
def file (disk : Disk) (base : Path) (strict : Bool) (path : String) : Logged Value := do
  let path ← orFail (Load.locate disk path base)
  let document ← Load.file disk path
  Logged.tell (.loaded path.toString)
  let schema ← inlined disk base path document
  finished strict schema

end SchemaDoc.Resolve
