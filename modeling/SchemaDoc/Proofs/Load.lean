/-
SchemaDoc.Proofs.Load — which contents of a file are no load failure and no document.

A document is loaded or fails to load; what the format's reader complains about
is such a failure. A fault is not: it is met where the path is too long to ask
for, where the bytes are no UTF-8, and where a reader gives up on a text
instead of complaining about it.

The readers give up for few reasons, and what a text needs for one of them is a
matter of the text alone (`Format.CanGiveUp`). Both give up on what nests deeper
than there is room for. Besides, that of JSON needs an integer of too many
digits, and that of YAML such a number or an escape for no character where it
scans, or a node that does not suit its tag where it builds. The room is that
of an interpreter's stack; it is any number here, or none.

§1 readers, §2 texts and files, §3 what is no load failure.
-/
import SchemaDoc.Load
import SchemaDoc.Proofs.Json.GivesUp
import SchemaDoc.Proofs.Value.Equality
import SchemaDoc.Proofs.Yaml.Building

namespace SchemaDoc

/-! ## §1 Readers -/

/-- The reader of a format takes a text or complains about it, and does not give up on it. -/
def Format.Settles (reading : Mark) (text : String) (room : Room) : Format → Prop
  | .json => ∀ e, Json.read text.toList room = .error e → ∃ form, e = .form form
  | .yaml => ∀ f, Yaml.read reading text.toList room ≠ .error (.fault f)

/-- What a text needs for the reader of a format to give up on it. -/
def Format.CanGiveUp (reading : Mark) (text : String) (room : Room) : Format → Prop
  | .json => ∃ e, Json.GivesUp text.toList room e
  | .yaml => ∃ f, Yaml.GivesUp reading text.toList room f

theorem Format.settles_or_canGiveUp (format : Format) (reading : Mark) (text : String)
    (room : Room) : format.Settles reading text room ∨ format.CanGiveUp reading text room := by
  refine or_iff_not_imp_right.mpr fun hkeeps => ?_
  cases format with
  | json =>
    intro e hread
    rcases Json.givesUp_of_read hread with hform | hgives
    · exact hform
    · exact absurd ⟨e, hgives⟩ hkeeps
  | yaml => exact fun f hread => hkeeps ⟨f, Yaml.givesUp_of_read hread⟩

/-- Every failure of a computation is a failure to load. -/
def FailsInLoad {α : Type} (x : Except Failure α) : Prop :=
  ∀ f, x = .error f → f.category = .load

theorem failsInLoad_ok {α : Type} (a : α) : FailsInLoad (.ok a : Except Failure α) := nofun

theorem failsInLoad_error_iff {α : Type} {f : Failure} :
    FailsInLoad (.error f : Except Failure α) ↔ f.category = .load :=
  ⟨fun h => h f rfl, fun h _ hg => Except.error.inj hg ▸ h⟩

theorem not_failsInLoad_fault {α : Type} (f : Fault) :
    ¬FailsInLoad (.error (.fault f) : Except Failure α) := by
  intro h
  have hclass : (Failure.fault f).category = .internal := rfl
  rw [failsInLoad_error_iff, hclass] at h
  cases h

namespace Load

theorem json_failsInLoad_iff (text origin : String) (room : Room) :
    FailsInLoad (json text origin room) ↔ Format.json.Settles onlyReading text room := by
  unfold json Format.Settles
  cases Json.read text.toList room with
  | ok v => exact iff_of_true (failsInLoad_ok v) nofun
  | error e =>
    have hall : (∀ e', Except.error e = (.error e' : Except Json.ReadError Value) →
        ∃ form, e' = .form form) ↔ ∃ form, e = .form form :=
      ⟨fun h => h e rfl, fun h _ he => Except.error.inj he ▸ h⟩
    rw [hall]
    cases e with
    | form e => exact iff_of_true (failsInLoad_error_iff.mpr rfl) ⟨e, rfl⟩
    | tooManyDigits n => exact iff_of_false (not_failsInLoad_fault _) nofun
    | tooNested kind => exact iff_of_false (not_failsInLoad_fault _) nofun

theorem yaml_failsInLoad_iff (reading : Mark) (text origin : String) (room : Room) :
    FailsInLoad (yaml reading text origin room) ↔ Format.yaml.Settles reading text room := by
  unfold yaml Format.Settles
  cases Yaml.read reading text.toList room with
  | ok v => exact iff_of_true (failsInLoad_ok v) nofun
  | error t => cases t with
    | complaint c => exact iff_of_true (failsInLoad_error_iff.mpr rfl) nofun
    | fault f =>
      exact iff_of_false (not_failsInLoad_fault f) fun h => h f rfl

/-! ## §2 Texts and files -/

/-- A text that is no document fails to load, unless it holds what the reader of its format needs to
give up on it. A text of no known format always does. -/
theorem document_failsInLoad (text suffix origin : String) (reading : Mark) (room : Room) :
    FailsInLoad (document text suffix origin reading room) ∨
      ∃ format, Format.ofSuffix? suffix = some format ∧ format.CanGiveUp reading text room := by
  unfold document
  cases Format.ofSuffix? suffix with
  | none => exact Or.inl (failsInLoad_error_iff.mpr rfl)
  | some format =>
    rcases format.settles_or_canGiveUp reading text room with hsettles | hgives
    · refine Or.inl ?_
      cases format with
      | yaml => exact (yaml_failsInLoad_iff reading text origin room).mpr hsettles
      | json => exact (json_failsInLoad_iff text origin room).mpr hsettles
    · exact Or.inr ⟨format, rfl, hgives⟩

/-- What becomes of a file that is there. -/
theorem file_of_bytes {disk : Disk} {path : Path} {bytes : List UInt8} (room : Room)
    (h : disk.bytes? path = .ok (some bytes)) :
    file disk path room = match Format.ofSuffix? (Text.lower path.suffix) with
      | none => .error (.unsupportedType path.toString)
      | some _ => match text bytes with
        | .error f => .error (.fault f)
        | .ok text =>
          document text (Text.lower path.suffix) path.toString onlyReading room := by
  unfold file
  simp only [h, orFail, mapError_ok, ok_bind]
  cases Format.ofSuffix? (Text.lower path.suffix) with
  | none => rfl
  | some format =>
    cases text bytes with
    | error f => simp only [mapError_error, error_bind]
    | ok s => simp only [mapError_ok, ok_bind]

/-- A file has no text to be read: its path is too long to ask for it, or it is there, its suffix is
known and its bytes are no UTF-8. -/
inductive Unreadable (disk : Disk) (path : Path) : Prop
  | path {shown : String} : disk.bytes? path = .error (.tooLongName shown) → Unreadable disk path
  | bytes {bytes : List UInt8} {format : Format} {e : Text.DecodeError} :
      disk.bytes? path = .ok (some bytes) →
      Format.ofSuffix? (Text.lower path.suffix) = some format → Text.decode bytes = .error e →
      Unreadable disk path

theorem tooLongName_of_bytes? {disk : Disk} {path : Path} {f : Fault}
    (h : disk.bytes? path = .error f) : ∃ shown, f = .tooLongName shown := by
  unfold Disk.bytes? at h
  split at h
  · cases h
  · split at h
    · cases h
    · cases h
      exact ⟨_, rfl⟩
    · cases h

theorem not_failsInLoad_of_unreadable {disk : Disk} {path : Path} (h : Unreadable disk path)
    (room : Room) : ¬FailsInLoad (file disk path room) := by
  cases h with
  | path hbytes =>
    unfold file
    simp only [hbytes, orFail, mapError_error, error_bind]
    exact not_failsInLoad_fault _
  | bytes hbytes hformat hdecode =>
    rw [file_of_bytes room hbytes, hformat]
    simp only [text, hdecode]
    exact not_failsInLoad_fault _

/-- A file that is no document fails to load, unless it has no text to be read, or one that holds
what the reader of its format needs to give up on it. -/
theorem file_failsInLoad (disk : Disk) (path : Path) (room : Room) :
    FailsInLoad (file disk path room) ∨ Unreadable disk path ∨
      ∃ bytes text format, disk.bytes? path = .ok (some bytes) ∧ Load.text bytes = .ok text ∧
        Format.ofSuffix? (Text.lower path.suffix) = some format ∧
        format.CanGiveUp onlyReading text room := by
  cases hbytes : disk.bytes? path with
  | error f =>
    obtain ⟨shown, rfl⟩ := tooLongName_of_bytes? hbytes
    exact Or.inr (Or.inl (.path hbytes))
  | ok found => cases found with
    | none =>
      have hfile : file disk path room = .error (.missingFile path.toString) := by
        unfold file
        rw [hbytes]
        rfl
      exact Or.inl (hfile ▸ failsInLoad_error_iff.mpr rfl)
    | some bytes =>
      rw [file_of_bytes room hbytes]
      cases hformat : Format.ofSuffix? (Text.lower path.suffix) with
      | none => exact Or.inl (failsInLoad_error_iff.mpr rfl)
      | some format =>
        cases hdecode : Text.decode bytes with
        | error e => exact Or.inr (Or.inl (.bytes hbytes hformat hdecode))
        | ok s =>
          have htext : text bytes = .ok (String.ofList (Text.unifyNewlines s.toList)) := by
            rw [text, hdecode]
          rw [htext]
          rcases document_failsInLoad _ (Text.lower path.suffix) path.toString onlyReading room
            with hload | ⟨format', hformat', hgives⟩
          · exact Or.inl hload
          · cases hformat.symm.trans hformat'
            exact Or.inr (Or.inr ⟨bytes, _, format, rfl, htext, rfl, hgives⟩)

/-! ## §3 What is no load failure -/

/-- **A file is loaded or fails to load unless it has no text to be read, or one that its reader can
give up on; and so is a text of any suffix.** That it has no text is always another fault. -/
theorem failsInLoad_unless_canGiveUp (disk : Disk) (path : Path) (text suffix origin : String)
    (reading : Mark) (room : Room) :
    (FailsInLoad (file disk path room) ∨ Unreadable disk path ∨
      ∃ bytes text format, disk.bytes? path = .ok (some bytes) ∧ Load.text bytes = .ok text ∧
        Format.ofSuffix? (Text.lower path.suffix) = some format ∧
        format.CanGiveUp onlyReading text room) ∧
    (Unreadable disk path → ¬FailsInLoad (file disk path room)) ∧
    (FailsInLoad (document text suffix origin reading room) ∨
      ∃ format, Format.ofSuffix? suffix = some format ∧ format.CanGiveUp reading text room) :=
  ⟨file_failsInLoad disk path room, fun h => not_failsInLoad_of_unreadable h room,
    document_failsInLoad text suffix origin reading room⟩

/-- The one file there is holds a byte that starts no character. -/
def unreadable : Disk := ⟨⟨[(["a.yaml"], .file [0xff])]⟩, .absolute []⟩

/-- Not every file or text that is no document fails to load: not a file that is no UTF-8, and not
a date in a thirteenth month, a word with the tag of an integer, a binary number without digits or
an escape for no character; nor, however much room there is, one opening bracket more than that. -/
theorem load_faults :
    ¬FailsInLoad (file unreadable (.absolute ["a.yaml"])) ∧
    document "2020-13-45" ".yaml" memory = .error (.fault (.badDate .month)) ∧
    document "!!int x" ".yaml" memory = .error (.fault (.notInteger 10 "'x'")) ∧
    document "0b_" ".yaml" memory = .error (.fault (.notInteger 2 "''")) ∧
    document "\"\\U00110000\"" ".yaml" memory = .error (.fault .noCharacter) ∧
    ∀ n, document (String.ofList (List.replicate (n + 1) '[')) ".json" memory onlyReading (some n) =
      .error (.fault (.tooNested .sequence)) := by
  have hfile : ∃ e, file unreadable (.absolute ["a.yaml"]) = .error (.fault (.badText e)) :=
    ⟨_, rfl⟩
  obtain ⟨e, he⟩ := hfile
  refine ⟨he ▸ not_failsInLoad_fault _, ?_, ?_, ?_, rfl, fun n => ?_⟩
  · decide +kernel
  · decide +kernel
  · decide +kernel
  · have hformat : Format.ofSuffix? ".json" = some .json := rfl
    rw [document, hformat]
    simp only [json, String.toList_ofList, Json.read_openings]

end Load

end SchemaDoc
