/-
SchemaDoc.Proofs.Reference.File — what the disk has at the URI of a file.

A file on its own is carried out under its own URI. What the disk has there is
the document that the file holds, so at the root of the file nothing is known
but what the disk has. A document under any other URI may be another one than
the disk has there.

§1 roots, §2 files, §3 JSON files.
-/
import SchemaDoc.Proofs.Reference.Meaning
import SchemaDoc.Proofs.Uri.Fragment

namespace SchemaDoc.Reference

open Registry

variable {disk : Disk} {come : String → Prop} {uri : String} {v contents : Value} {r : Resource}
  {file : Path}

/-! ## §1 Roots -/

theorem cutFragment_eq_self (h : '#' ∉ uri.toList) : Uri.cutFragment uri = .ok (uri, "") := by
  have hno : uri.toList.contains '#' = false := by simpa using h
  rw [Uri.cutFragment, hno]
  rfl

/-- A URI of a path has no mark of a fragment. -/
theorem not_mem_of_rootUri {base : Path} {name : String} (h : rootUri disk base name = .ok uri) :
    '#' ∉ uri.toList := by
  obtain ⟨directory, -, h⟩ := bind_eq_ok.mp h
  rw [(ofPath_eq h).1]
  intro hm
  have hm : '#' ∈ (Text.encodeName (directory.join (Path.ofString name)).toString).flatMap
      Uri.escapeByte := by
    simpa [Uri.fileText, Uri.fileScheme, Uri.marked, -List.mem_flatMap] using hm
  exact (Uri.isNameChar_of_mem_escape hm).elim (by decide) (by decide)

theorem contents_of_ofValue {d : Dialect} (h : Resource.ofValue d v = .ok r) : r.contents = v := by
  unfold Resource.ofValue at h
  split at h
  · split at h
    · cases h; rfl
    · cases h; rfl
    · obtain ⟨s, -, h⟩ := bind_eq_ok.mp h
      cases h; rfl
  · cases h; rfl

theorem rootPlace_eq_ok {place : Place} : rootPlace uri v = .ok place ↔
    ∃ r, Resource.ofValue .draft4 v = .ok r ∧ r.contents = v ∧
      place = ⟨⟨({} : Registry).add uri r, uri, []⟩, uri, []⟩ := by
  constructor
  · intro h
    obtain ⟨r, hr, h⟩ := bind_eq_ok.mp h
    cases h
    exact ⟨r, hr, contents_of_ofValue hr, rfl⟩
  · rintro ⟨r, hr, -, rfl⟩
    rw [rootPlace, hr]
    rfl

/-- Of a document alone only what the disk has is known, if its URI is not come to unless the disk has
it there. -/
theorem knows_rootPlace {place : Place} (hplace : rootPlace uri v = .ok place)
    (hu : '#' ∉ uri.toList) (hn : Nameless v)
    (hown : come uri → resourceAt? disk uri = place.resolver.registry.find? uri) :
    place.resolver.registry.Knows disk come := by
  obtain ⟨r, -, rfl, rfl⟩ := rootPlace_eq_ok.mp hplace
  have hu := withoutFragmentMark_eq hu
  refine ⟨sound_alone hu hn, fun {seen r'} hseen hr' => ?_⟩
  by_cases hs : seen = uri
  · subst hs
    exact (hown hseen).trans hr'
  · rw [find?_add hu, if_neg hs] at hr'
    cases hr'

/-! ## §2 Files -/

/-- A file, its URI and the document that it holds. -/
structure FileAt (disk : Disk) (uri : String) (file : Path) (contents : Value) : Prop where
  rooted : rootUri disk file.parent file.fileName = .ok uri
  names : ∃ parts, Uri.split uri.toList = .ok parts ∧ parts.scheme = "file".toList ∧
    Uri.toPath parts.path = file
  holds : Load.file disk file = .ok contents

/-- What is read from a file is the document that it holds. -/
theorem FileAt.resourceAt?_eq (h : FileAt disk uri file contents)
    (hr : Resource.ofValue .draft4 contents = .ok r) : resourceAt? disk uri = some r := by
  obtain ⟨parts, hsplit, hscheme, rfl⟩ := h.names
  have hfile := h.holds
  unfold Load.file at hfile
  obtain ⟨found, hbytes, hfile⟩ := bind_eq_ok.mp hfile
  cases found with
  | none => cases hfile
  | some bytes =>
    dsimp only at hfile
    split at hfile
    · cases hfile
    · obtain ⟨text, htext, hfile⟩ := bind_eq_ok.mp hfile
      have hscheme' : (parts.scheme != "file".toList) = false := by simp [hscheme]
      refine toOption_eq_some.mpr ?_
      simp only [retrieve, hsplit, hscheme', orFail_eq_ok.mp hbytes, htext, ok_bind, hfile, hr]
      rfl

/-- The root of a file is a place where only what the disk has is known. -/
theorem FileAt.reads (h : FileAt disk uri file contents) {place : Place}
    (hplace : rootPlace uri contents = .ok place) (hplain : PlainAt disk uri) (hcome : come uri) :
    place.Reads disk come := by
  have hknown := hplace
  obtain ⟨r, hr, rfl, rfl⟩ := rootPlace_eq_ok.mp hplace
  have hat := h.resourceAt?_eq hr
  have hu := not_mem_of_rootUri h.rooted
  refine ⟨knows_rootPlace hknown hu (hplain.nameless r (toOption_eq_some.mp hat)) fun _ => ?_,
    rfl, hcome⟩
  rw [find?_add (withoutFragmentMark_eq hu), if_pos rfl]
  exact hat

/-- The root of a file that is carried out. -/
theorem FileAt.rootSite_eq (h : FileAt disk uri file contents) {s : Site}
    (hs : rootSite disk contents file.parent file.fileName = .ok s) :
    ∃ place, rootPlace uri contents = .ok place ∧ s = ⟨place, rootPosition, contents⟩ := by
  obtain ⟨seen, hseen, hs⟩ := bind_eq_ok.mp hs
  obtain rfl : uri = seen := Except.ok.inj (h.rooted.symm.trans (orFail_eq_ok.mp hseen))
  obtain ⟨place, hplace, hs⟩ := bind_eq_ok.mp hs
  cases hs
  exact ⟨place, orFail_eq_ok.mp hplace, rfl⟩

/-! ## §3 JSON files -/

/-- A JSON file is the same in every reading. -/
theorem retrieve_of_json {parts : Uri.Parts} (hsplit : Uri.split uri.toList = .ok parts)
    (hjson : Format.ofSuffix? (Text.lower (Uri.toPath parts.path).suffix) = some .json)
    (reading reading' : Mark) : retrieve disk reading uri = retrieve disk reading' uri := by
  simp only [retrieve, hsplit, Load.document, hjson]

/-- A JSON file without names is read alike each time. -/
theorem FileAt.plainAt (h : FileAt disk uri file contents)
    (hjson : Format.ofSuffix? (Text.lower file.suffix) = some .json) {r : Resource}
    (hr : Resource.ofValue .draft4 contents = .ok r) (hn : Nameless contents) : PlainAt disk uri where
  alike reading := by
    obtain ⟨parts, hsplit, -, rfl⟩ := h.names
    exact retrieve_of_json hsplit hjson _ _
  nameless r' hr' := by
    obtain rfl : r = r' := Option.some.inj
      ((h.resourceAt?_eq hr).symm.trans (toOption_eq_some.mpr hr'))
    rwa [contents_of_ofValue hr]

end SchemaDoc.Reference
