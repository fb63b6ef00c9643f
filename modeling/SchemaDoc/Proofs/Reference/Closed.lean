/-
SchemaDoc.Proofs.Reference.Closed — documents of which one sees that they end.

Whether carrying out a document ends depends on the targets that it comes to.
One need not carry it out to bound them: a look-up makes no references, so all
targets are got by joining the references that stand in the document and in the
files to the document's URI, again and again. Where this gives finitely many
texts, one hop more than these is enough (`enough_of_closed`), whatever the
names and anchors inside. References that are only fragments give one text each
(`enough_of_fragments`).

§1 joining again and again, §2 sites, §3 documents, §4 fragments.
-/
import SchemaDoc.Proofs.Reference.Ending
import SchemaDoc.Proofs.Reference.Found
import SchemaDoc.Proofs.Uri.Fragment

namespace SchemaDoc.Reference

open Relation

variable {disk : Disk} {earlier : Option String} {refs uris targets : List String}

/-! ## §1 Joining again and again -/

/-- A mapping stands for no reference but some, and nothing holds itself. -/
def asksFor (refs : List String) : Value → Bool
  | .mapping entries => (reference? entries).all refs.contains
  | .looped _ _ => false
  | _ => true

theorem ofStructure_asksFor (refs : List String) : OfStructure (asksFor refs) := fun _ => rfl

theorem unwinding_asksFor (refs : List String) : Unwinding (asksFor refs) := fun _ _ => rfl

theorem mem_of_asksFor {v : Value} {reference : String} (h : Such (asksFor refs) v)
    (hr : reference ∈ references v) : reference ∈ refs := by
  have hasks : AsksReference (asksFor refs) refs.contains := fun _ he => he
  simpa using of_mem_references hasks h hr

/-- References joined to URIs of documents give targets, and the targets are in these documents
again. -/
structure Closed (refs uris targets : List String) : Prop where
  joined : ∀ uri ∈ uris, ∀ reference ∈ refs, ∀ target,
    Reference.joined uri reference = .ok target → target ∈ targets
  cut : ∀ target ∈ targets, ∀ uri fragment,
    Uri.cutFragment target = .ok (uri, fragment) → uri ∈ uris

/-! ## §2 Sites -/

/-- All that can be come to from a site stays among some references, URIs and targets. -/
structure Site.Closed (refs uris targets : List String) (s : Site) : Prop extends
    s.Holds (asksFor refs) where
  document : s.place.document ∈ uris
  trail : s.place.trail ⊆ targets

/-- A reference leads to such a site again. -/
theorem Site.Closed.next (hc : Reference.Closed refs uris targets)
    (hdisk : FilesHold (asksFor refs) disk) {s t : Site} (hs : s.Closed refs uris targets)
    (h : Next disk earlier s t) : t.Closed refs uris targets := by
  have hholds := hs.toHolds.next (ofStructure_asksFor refs) hdisk h
  obtain ⟨hops, h⟩ := h
  obtain ⟨⟨q, reference⟩, ha, -, hlead⟩ := mem_next.mp h
  have hr : reference ∈ refs := mem_of_asksFor hs.value (mem_references_of_mem_asked _ ha)
  unfold Place.lead at hlead
  obtain ⟨target, hjoined, hlead⟩ := bind_eq_ok.mp hlead
  have htarget := hc.joined _ hs.document _ hr _ (orFail_eq_ok.mp hjoined)
  split at hlead
  · cases hlead
  obtain ⟨⟨contents, resolver⟩, -, hlead⟩ := bind_eq_ok.mp hlead
  obtain ⟨⟨document, fragment⟩, hcut, hlead⟩ := bind_eq_ok.mp hlead
  obtain ⟨place, position, value⟩ := t
  cases hlead
  exact ⟨hholds, hc.cut _ htarget _ _ (mapError_eq_ok.mp (orFail_eq_ok.mp hcut)),
    List.cons_subset.mpr ⟨htarget, hs.trail⟩⟩

/-- So does a run of references. -/
theorem Site.Closed.run (hc : Reference.Closed refs uris targets)
    (hdisk : FilesHold (asksFor refs) disk) {s t : Site} (hs : s.Closed refs uris targets)
    (h : ReflTransGen (Next disk earlier) s t) : t.Closed refs uris targets := by
  induction h with
  | refl => exact hs
  | tail _ hnext ih => exact ih.next hc hdisk hnext

/-! ## §3 Documents -/

variable {document : Value} {base : Path} {name : String}

/-- The root of a document is such a site, if its URI is among the URIs. -/
theorem closed_rootSite (hdocument : Such (asksFor refs) document)
    (hroot : ∀ uri, rootUri disk base name = .ok uri → uri ∈ uris) {s : Site}
    (h : rootSite disk document base name = .ok s) : s.Closed refs uris targets := by
  obtain ⟨uri, huri, h⟩ := bind_eq_ok.mp h
  obtain ⟨place, hplace, h⟩ := bind_eq_ok.mp h
  obtain ⟨resource, hresource, hplace⟩ := bind_eq_ok.mp (orFail_eq_ok.mp hplace)
  cases h
  cases hplace
  exact ⟨⟨hdocument, (Registry.holds_empty _).add uri (yields_ofValue hdocument resource hresource)⟩,
    hroot uri (orFail_eq_ok.mp huri), List.nil_subset _⟩

/-- **A document ends if joining its references and those of the files gives finitely many
targets**, and one hop more than these is enough. -/
theorem enough_of_closed (hc : Closed refs uris targets)
    (hdocument : Such (asksFor refs) document) (hdisk : FilesHold (asksFor refs) disk)
    (hroot : ∀ uri, rootUri disk base name = .ok uri → uri ∈ uris) {hops : Nat}
    (hlt : targets.length < hops) :
    dereferenceWithin hops earlier disk document base name ≠ .error tooDeep := by
  have hin : TargetsIn disk earlier document base name targets := by
    rintro target ⟨s, t, hs, ht, htarget⟩
    exact ((closed_rootSite hdocument hroot hs).run hc hdisk ht).trail htarget
  exact hin.enough (not_goesOn_of_unwinding (ofStructure_asksFor refs) (unwinding_asksFor refs) hdisk
    hdocument) hlt

/-! ## §4 Fragments -/

/-- A reference is only a fragment, with no character that joining drops. -/
def isFragmentOnly (reference : String) : Bool :=
  isFragment reference && reference.toList.all (!Uri.isDropped ·)

theorem toList_of_isFragmentOnly {reference : String} (h : isFragmentOnly reference = true) :
    reference.toList = '#' :: reference.toList.drop 1 ∧
      ∀ c ∈ reference.toList.drop 1, Uri.isDropped c = false := by
  simp only [isFragmentOnly, isFragment, Bool.and_eq_true, beq_iff_eq, List.all_eq_true,
    Bool.not_eq_true'] at h
  obtain ⟨rest, hrest⟩ := List.head?_eq_some_iff.mp h.1
  refine ⟨?_, fun c hc => h.2 c (List.mem_of_mem_drop hc)⟩
  rw [hrest]
  rfl

/-- Fragments of a URI are in one document, spelt in at most two ways. -/
theorem closed_of_fragments {uri : String} {authority path : List Char}
    (hu : Uri.SettlesTo uri authority path) (hrefs : ∀ r ∈ refs, isFragmentOnly r = true) :
    Closed refs [uri, String.ofList (Uri.fileText authority path [])]
      (refs.map fun r => String.ofList (Uri.fileText authority path (r.toList.drop 1))) where
  joined := by
    intro seen hseen reference hr target h
    have hsettles : Uri.SettlesTo seen authority path := by
      rcases List.mem_cons.mp hseen with rfl | hseen
      · exact hu
      · rw [List.mem_singleton.mp hseen]
        exact Uri.settlesTo_self hu.settled
    obtain ⟨hs, hf⟩ := toList_of_isFragmentOnly (hrefs reference hr)
    rw [hsettles.joined hs hf] at h
    cases h
    exact List.mem_map_of_mem hr
  cut := by
    intro target htarget seen fragment h
    obtain ⟨reference, hr, rfl⟩ := List.mem_map.mp htarget
    have hf := (toList_of_isFragmentOnly (hrefs reference hr)).2
    rw [Uri.cutFragment_settled hu.settled hf] at h
    cases h
    simp

/-- **References that are only fragments end**, in as many hops as there are of them and one more:
whatever the names and anchors of the schemas inside make of them. -/
theorem enough_of_fragments (hrefs : ∀ r ∈ refs, isFragmentOnly r = true)
    (hdocument : Such (asksFor refs) document) (hdisk : FilesHold (asksFor refs) disk)
    (hbase : (disk.full base).Named) {hops : Nat} (hlt : refs.length < hops) :
    dereferenceWithin hops earlier disk document base name ≠ .error tooDeep := by
  cases huri : rootUri disk base name with
  | error f =>
    have hnone : Closed refs [] [] := ⟨nofun, nofun⟩
    refine enough_of_closed hnone hdocument hdisk (fun uri h => ?_) (Nat.zero_lt_of_lt hlt)
    rw [huri] at h
    cases h
  | ok uri =>
    obtain ⟨authority, path, hu⟩ := settlesTo_of_rootUri hbase huri
    refine enough_of_closed (closed_of_fragments hu hrefs) hdocument hdisk (fun seen h => ?_) ?_
    · rw [huri] at h
      cases h
      exact List.mem_cons_self ..
    · rwa [List.length_map]

end SchemaDoc.Reference
