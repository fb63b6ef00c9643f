/-
SchemaDoc.Proofs.Fields.File — the fields of a schema in a file and in memory.

A JSON schema without references and without a stated dialect is what its file
is resolved to, so its fields are documented alike from the file and from
memory. There is one exception: a schema in a file has to be an object before
its fields are asked for, while a composition is refused first in memory. A
root that composes schemas and is no object is therefore refused for different
reasons (`describe_file_iff`).

§1 what a file is resolved to, §2 fields from a file, §3 a composition.
-/
import SchemaDoc.Proofs.Fields.Strict
import SchemaDoc.Proofs.Files.Namable
import SchemaDoc.Proofs.Files.Suffix
import SchemaDoc.Proofs.Reference.Elsewhere
import SchemaDoc.Proofs.Reference.Free
import SchemaDoc.Proofs.Reference.Retry
import SchemaDoc.Proofs.Tag

namespace SchemaDoc

variable {disk : Disk} {base directory found : Path} {path text : String} {bytes : List UInt8}
  {document : Value}

/-! ## §1 What a file is resolved to -/

/-- A file holds a JSON document. -/
structure HoldsJson (disk : Disk) (file : Path) (document : Value) : Prop where
  json : Text.lower file.suffix = ".json"
  read : ∃ bytes text, disk.bytes? file = .ok (some bytes) ∧ Load.text bytes = .ok text ∧
    Json.read text.toList = .ok document

theorem HoldsJson.load (h : HoldsJson disk found document) :
    Load.file disk found = .ok document := by
  obtain ⟨bytes, text, hbytes, htext, hread⟩ := h.read
  have hsuffix : Format.ofSuffix? ".json" = some .json := by decide
  simp only [Load.file, hbytes, h.json, hsuffix, htext, Load.document, Load.json, hread, orFail,
    mapError_ok, ok_bind]

theorem HoldsJson.isJson (h : HoldsJson disk found document) : document.IsJson := by
  obtain ⟨_, _, -, -, hread⟩ := h.read
  exact Json.isJson_of_read hread

/-- A value that is no reference and states no dialect, apart from the values in it. -/
def Value.standsAlone (v : Value) : Bool := !v.has "$ref" && !v.has "$schema"

theorem Value.frees_standsAlone :
    Reference.Frees fun v => v.standsAlone && v.isJsonPart where
  mapping entries h := by
    simp only [standsAlone, has, Bool.and_eq_true, Bool.not_eq_true',
      Option.isSome_eq_false_iff, Option.isNone_iff_eq_none] at h
    have hnone : Entries.get? entries Reference.referenceKey = none := h.1.1
    rw [Reference.reference?, hnone]
  looped mark body := by simp [isJsonPart]

/-- A schema without references is what its file is resolved to. -/
theorem Resolve.inlined_of_standsAlone (hbase : disk.resolve base = .ok directory)
    (hfound : Load.locate disk path base = .ok found) (hjson : document.IsJson)
    (halone : document.every Value.standsAlone = true) :
    (inlined disk base found document).result = .ok document := by
  obtain ⟨uri, huri⟩ := Reference.exists_rootUri hbase hfound
  have hfree : Reference.IsFree document := by
    refine Value.frees_standsAlone.isFree ?_
    rw [Value.every_and, halone, hjson]
    rfl
  have hdialect : document.get? "$schema" = none := by
    have h := Value.every_self halone
    simp only [Value.standsAlone, Value.has, Bool.and_eq_true, Bool.not_eq_true',
      Option.isSome_eq_false_iff, Option.isNone_iff_eq_none] at h
    exact h.2
  obtain ⟨s, hs⟩ := Reference.exists_rootSite huri hdialect
  have hsame : Reference.dereference disk document base found.fileName = .ok document := by
    rw [Reference.dereference, Reference.dereferenceAfter,
      Reference.dereferenceWithin_of_isFree _ hfree, hs]
    rfl
  rw [inlined_of_not_missing fun _ _ _ h => by simp [hsame] at h, hsame]
  rfl

/-! ## §2 Fields from a file -/

theorem Value.bare_of_objectRoot {entries : List (Scalar × Value)}
    (h : document.objectRoot = .ok entries) : document.bare = .mapping entries := by
  unfold objectRoot at h
  split at h
  · rename_i own hbare
    split at h
    · cases h
      exact hbare
    · cases h
  · cases h

namespace Fields

/-- In memory a root that is no object is refused as a composition first. -/
theorem linesOf_of_not_object (hroot : document.objectRoot = .error .notObject) (pad : Value) :
    linesOf document pad
      = .error (if document.has "allOf" = true then .composition else .notObject) := by
  rw [linesOf, ofSchema, hroot]
  split <;> rfl

end Fields

namespace Tag

/-- Without a group the lines of a mention are the rendered lines themselves. -/
theorem describe_ungrouped (strict : Bool) : (describe disk base strict ⟨none, path⟩).result = (do
    let schema ← (Resolve.file disk base strict path).result
    Fields.linesOf schema Descriptor.defaultPad) := by
  have hsame : grouped none = id := rfl
  rw [describe_result]
  simp only [hsame, List.map_id]
  refine congrArg _ (funext fun schema => ?_)
  cases Fields.linesOf schema Descriptor.defaultPad <;> rfl

/-- The lines of a JSON file without references. -/
theorem describe_file (hbase : disk.resolve base = .ok directory)
    (hfound : Load.locate disk path base = .ok found) (hfile : HoldsJson disk found document)
    (halone : document.every Value.standsAlone = true) :
    (describe disk base false ⟨none, path⟩).result = (do
      let _ ← document.objectRoot
      Fields.linesOf document Descriptor.defaultPad) := by
  rw [describe_ungrouped, Resolve.file_result, hfound]
  simp only [orFail, mapError_ok, ok_bind, hfile.load,
    Resolve.inlined_of_standsAlone hbase hfound hfile.isJson halone]
  rw [Resolve.finished]
  cases hroot : document.objectRoot with
  | error f => rfl
  | ok entries =>
    have hbare := Value.bare_of_objectRoot hroot
    rw [hfile.isJson.bare_eq] at hbare
    rw [hbare]
    rfl

/-- **A JSON schema without references has the same lines, or the same failure, from its file and from
memory, unless its root composes schemas and is no object**: the file is refused as no object then,
and the schema in memory as a composition. -/
theorem describe_file_iff (hbase : disk.resolve base = .ok directory)
    (hfound : Load.locate disk path base = .ok found) (hfile : HoldsJson disk found document)
    (halone : document.every Value.standsAlone = true) :
    ((describe disk base false ⟨none, path⟩).result
        = Fields.linesOf document Descriptor.defaultPad ↔
      (document.has "allOf" = true → ∃ entries, document.objectRoot = .ok entries)) ∧
    (document.has "allOf" = true → (∀ entries, document.objectRoot ≠ .ok entries) →
      (describe disk base false ⟨none, path⟩).result = .error .notObject ∧
        Fields.linesOf document Descriptor.defaultPad = .error .composition) := by
  rw [describe_file hbase hfound hfile halone]
  rcases Fields.objectRoot_cases document with ⟨entries, hroot⟩ | ⟨-, hroot⟩
  · rw [hroot]
    exact ⟨iff_of_true rfl fun _ => ⟨entries, rfl⟩, fun _ hnone => absurd rfl (hnone entries)⟩
  · rw [hroot, Fields.linesOf_of_not_object hroot]
    by_cases hall : document.has "allOf" = true
    · simp [hall]
    · simp [hall]

end Tag

/-! ## §3 A composition -/

namespace Tag

open Reference (bytesOf)

/-- A disk with one file of some text. -/
def diskOf (text : String) : Disk :=
  ⟨⟨[(["s.json"], .file (bytesOf text))]⟩, .absolute []⟩

/-- An object with a text as its only property. -/
def described : Value := .mapping [(.text "type", .text "object"), (.text "properties",
  .mapping [(.text "a", .mapping [(.text "type", .text "string")])])]

/-- That object as a text. -/
def describedText : String :=
  "\x7b\"type\":\"object\",\"properties\":\x7b\"a\":\x7b\"type\":\"string\"\x7d\x7d\x7d"

theorem holdsJson_described :
    HoldsJson (diskOf describedText) (.absolute ["s.json"]) described where
  json := by decide +kernel
  read := ⟨bytesOf describedText, describedText, by decide +kernel, by decide +kernel,
    by decide +kernel⟩

/-- The property is documented from the file as it is from memory. -/
theorem describe_file_described : described.every Value.standsAlone = true ∧
    Load.locate (diskOf describedText) "s.json" (.absolute []) = .ok (.absolute ["s.json"]) ∧
    (describe (diskOf describedText) (.absolute []) false ⟨none, "s.json"⟩).result
      = Fields.linesOf described Descriptor.defaultPad := by
  have hbase : (diskOf describedText).resolve (.absolute []) = .ok (.absolute []) := by
    decide +kernel
  have hfound : Load.locate (diskOf describedText) "s.json" (.absolute [])
      = .ok (.absolute ["s.json"]) := by decide +kernel
  have halone : described.every Value.standsAlone = true := by decide +kernel
  exact ⟨halone, hfound, (describe_file_iff hbase hfound holdsJson_described halone).1.2
    fun h => absurd h (by decide +kernel)⟩

/-- A root that composes no schemas and has no type. -/
def composed : Value := .mapping [(.text "allOf", .sequence [])]

/-- That root as a text. -/
def composedText : String := "\x7b\"allOf\":[]\x7d"

theorem holdsJson_composed :
    HoldsJson (diskOf composedText) (.absolute ["s.json"]) composed where
  json := by decide +kernel
  read := ⟨bytesOf composedText, composedText, by decide +kernel, by decide +kernel,
    by decide +kernel⟩

/-- **A composition in a file is refused as no object**, with another class and another exit code than
in memory. -/
theorem describe_file_composed :
    HoldsJson (diskOf composedText) (.absolute ["s.json"]) composed ∧
      composed.every Value.standsAlone = true ∧
      (describe (diskOf composedText) (.absolute []) false ⟨none, "s.json"⟩).result
        = .error .notObject ∧
      Fields.linesOf composed Descriptor.defaultPad = .error .composition ∧
      Failure.notObject.category ≠ Failure.composition.category ∧
      Failure.notObject.category.exitCode ≠ Failure.composition.category.exitCode := by
  refine ⟨holdsJson_composed, by decide +kernel, ?_, rfl, by decide, by decide⟩
  have hbase : (diskOf composedText).resolve (.absolute []) = .ok (.absolute []) := by
    decide +kernel
  have hfound : Load.locate (diskOf composedText) "s.json" (.absolute [])
      = .ok (.absolute ["s.json"]) := by decide +kernel
  rw [describe_file hbase hfound holdsJson_composed (by decide +kernel)]
  rfl

end Tag

end SchemaDoc
