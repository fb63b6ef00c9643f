/-
SchemaDoc.Proofs.Reference.Free — values in which nothing is left to carry out.

A value is free if no mapping in it, through sequences and mappings, stands
for a reference and nothing there holds itself, pairs aside. The walk leaves such a value
as it is, however references are followed, and so does a whole run: of a free
document only the URI and the stated dialect of its root are looked at
(`dereferenceWithin_of_isFree`).

§1 free values, §2 the walk, §3 documents.
-/
import SchemaDoc.Proofs.Reference.Ending

namespace SchemaDoc.Reference

/-! ## §1 Free values -/

theorem areUnwound_iff : ∀ {items : List Value},
    areUnwound items = true ↔ ∀ v ∈ items, isUnwound v = true := by
  intro items
  induction items with
  | nil => simp [areUnwound]
  | cons v rest ih => rw [areUnwound, Bool.and_eq_true, ih, List.forall_mem_cons]

theorem areUnwoundEntries_iff : ∀ {entries : List (Scalar × Value)},
    areUnwoundEntries entries = true ↔ ∀ e ∈ entries, isUnwound e.2 = true := by
  intro entries
  induction entries with
  | nil => simp [areUnwoundEntries]
  | cons e rest ih => rw [areUnwoundEntries, Bool.and_eq_true, ih, List.forall_mem_cons]

theorem referencesOfItems_eq_nil : ∀ {items : List Value},
    referencesOfItems items = [] ↔ ∀ v ∈ items, references v = [] := by
  intro items
  induction items with
  | nil => simp [referencesOfItems]
  | cons v rest ih =>
    rw [referencesOfItems, List.append_eq_nil_iff, ih, List.forall_mem_cons]

theorem referencesOfEntries_eq_nil : ∀ {entries : List (Scalar × Value)},
    referencesOfEntries entries = [] ↔ ∀ e ∈ entries, references e.2 = [] := by
  intro entries
  induction entries with
  | nil => simp [referencesOfEntries]
  | cons e rest ih =>
    rw [referencesOfEntries, List.append_eq_nil_iff, ih, List.forall_mem_cons]

/-- There are no references in a mapping if it is none and its values have none. -/
theorem references_mapping_eq_nil {entries : List (Scalar × Value)} :
    references (.mapping entries) = [] ↔
      reference? entries = none ∧ ∀ e ∈ entries, references e.2 = [] := by
  rw [references, List.append_eq_nil_iff, Option.toList_eq_nil_iff, referencesOfEntries_eq_nil]

/-- Nothing is left to carry out in the value. -/
structure IsFree (v : Value) : Prop where
  unwound : isUnwound v = true
  unreferenced : references v = []

theorem isFree_sequence {items : List Value} :
    IsFree (.sequence items) ↔ ∀ v ∈ items, IsFree v := by
  constructor
  · intro h v hv
    exact ⟨areUnwound_iff.mp h.unwound v hv, referencesOfItems_eq_nil.mp h.unreferenced v hv⟩
  · intro h
    exact ⟨areUnwound_iff.mpr fun v hv => (h v hv).unwound,
      referencesOfItems_eq_nil.mpr fun v hv => (h v hv).unreferenced⟩

theorem isFree_mapping {entries : List (Scalar × Value)} :
    IsFree (.mapping entries) ↔ reference? entries = none ∧ ∀ e ∈ entries, IsFree e.2 := by
  constructor
  · intro h
    obtain ⟨hr, he⟩ := references_mapping_eq_nil.mp h.unreferenced
    exact ⟨hr, fun e hmem => ⟨areUnwoundEntries_iff.mp h.unwound e hmem, he e hmem⟩⟩
  · rintro ⟨hr, he⟩
    exact ⟨areUnwoundEntries_iff.mpr fun e hmem => (he e hmem).unwound,
      references_mapping_eq_nil.mpr ⟨hr, fun e hmem => (he e hmem).unreferenced⟩⟩

/-- No mapping is a reference, and nothing holds itself, by a condition on single values. -/
structure Frees (p : Value → Bool) : Prop where
  mapping : ∀ entries, p (.mapping entries) = true → reference? entries = none
  looped : Unwinding p

/-- A value is free if every part of it meets such a condition. -/
theorem Frees.isFree {p : Value → Bool} (hp : Frees p) {v : Value} (h : v.every p = true) :
    IsFree v := by
  have hnone : AsksReference p fun _ => false := fun entries he => by
    rw [hp.mapping entries he]
    rfl
  refine ⟨hp.looped.isUnwound h, List.eq_nil_iff_forall_not_mem.mpr fun reference hr => ?_⟩
  exact Bool.false_ne_true (of_mem_references hnone h hr)

/-! ## §2 The walk -/

variable {follow : Position → String → Except Failure Value}

mutual

/-- **The walk leaves a free value as it is.** -/
theorem inline_of_isFree (p : Position) : ∀ {v : Value}, IsFree v → inline follow p v = .ok v
  | .sequence _, h => by
    rw [inline, inlineItems_of_isFree p 0 (isFree_sequence.mp h)]
    rfl
  | .mapping entries, h => by
    obtain ⟨hr, he⟩ := isFree_mapping.mp h
    rw [inline, hr]
    simp only [inlineEntries_of_isFree p 1 he]
    rfl
  | .looped _ body, h => by
    have hbody := h.unwound
    cases body with
    | pair a b => rfl
    | _ => cases hbody
  | .scalar _, _ => rfl
  | .pair _ _, _ => rfl
  | .set _, _ => rfl

theorem inlineItems_of_isFree (p : Position) (place : Nat) : ∀ {items : List Value},
    (∀ v ∈ items, IsFree v) → inlineItems follow p place items = .ok items
  | [], _ => rfl
  | v :: rest, h => by
    obtain ⟨hv, hrest⟩ := List.forall_mem_cons.mp h
    rw [inlineItems, inline_of_isFree _ hv, ok_bind, inlineItems_of_isFree p _ hrest]
    rfl

theorem inlineEntries_of_isFree (p : Position) (place : Nat) :
    ∀ {entries : List (Scalar × Value)}, (∀ e ∈ entries, IsFree e.2) →
      inlineEntries follow p place entries = .ok entries
  | [], _ => rfl
  | (_, v) :: rest, h => by
    obtain ⟨hv, hrest⟩ := List.forall_mem_cons.mp h
    rw [inlineEntries, inline_of_isFree _ hv, ok_bind, inlineEntries_of_isFree p _ hrest]
    rfl

end

/-! ## §3 Documents -/

variable {disk : Disk} {earlier : Option String} {document : Value} {base : Path} {name : String}

/-- A free document is carried out to itself, if it has a root. -/
theorem dereferenceWithin_of_isFree (hops : Nat) (h : IsFree document) :
    dereferenceWithin hops earlier disk document base name = (do
      let _ ← rootSite disk document base name
      return document) := by
  rw [dereferenceWithin_eq]
  cases hs : rootSite disk document base name with
  | error f => rfl
  | ok s =>
    obtain ⟨uri, -, hs⟩ := bind_eq_ok.mp hs
    obtain ⟨place, -, hs⟩ := bind_eq_ok.mp hs
    cases hs
    rw [ok_bind, Site.expand, expandAt_eq_inline, inline_of_isFree _ h]
    rfl

/-- The root of a document that states no dialect. -/
theorem exists_rootSite {uri : String} (huri : rootUri disk base name = .ok uri)
    (hdialect : document.get? "$schema" = none) : ∃ s, rootSite disk document base name = .ok s := by
  have hresource : Resource.ofValue .draft4 document = .ok ⟨.draft4, document⟩ := by
    unfold Value.get? at hdialect
    unfold Resource.ofValue
    split
    · rename_i entries he
      simp only [he] at hdialect
      rw [hdialect]
    · rfl
  have hplace : rootPlace uri document
      = .ok ⟨⟨({} : Registry).add uri ⟨.draft4, document⟩, uri, []⟩, uri, []⟩ := by
    rw [rootPlace, hresource]
    rfl
  rw [rootSite, huri]
  simp only [orFail, mapError_ok, ok_bind, hplace]
  exact ⟨_, rfl⟩

end SchemaDoc.Reference
