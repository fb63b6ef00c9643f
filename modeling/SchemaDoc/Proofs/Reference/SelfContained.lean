/-
SchemaDoc.Proofs.Reference.SelfContained — documents that name only places of
their own.

Such a document is a tree of sequences, mappings with texts as keys, and
scalars. Nothing in it changes the base of references or states a dialect, and
each reference is a fragment that names a place of the document. A pointer
that is followed in it stays in it: it ends at a part of the document, by the
same steps whatever the resolver, and leaves the resolver as it was.

§1 self-contained documents, §2 pointers in them, §3 references in them.
-/
import SchemaDoc.Proofs.Reference.Found
import SchemaDoc.Proofs.Reference.Inline

namespace SchemaDoc

namespace Reference

/-! ## §1 Self-contained documents -/

/-- What a reference names in a document alone: a number sign is the document, and a pointer behind
one a place in it. -/
def named? (document : Value) (reference : String) : Option Value :=
  match reference.toList with
  | ['#'] => some document
  | '#' :: '/' :: rest =>
    match (Resolver.mk {} "" []).pointer ⟨.draft4, document⟩ (String.ofList ('/' :: rest)) with
    | .ok (v, _) => some v
    | .error _ => none
  | _ => none

/-- A key that neither names a schema nor states a dialect. -/
def isOwnKey : Scalar → Bool
  | .text k => k != "id" && k != "$id" && k != "$schema"
  | _ => false

/-- A reference that names a place of the document, with no character that joining drops. -/
def isOwnReference (document : Value) (reference : String) : Bool :=
  reference.toList.all (!Uri.isDropped ·) && (named? document reference).isSome

/-- A part of a self-contained document, its own parts apart. -/
def isOwnPart (document : Value) : Value → Bool
  | .scalar _ => true
  | .sequence _ => true
  | .mapping entries => entries.all (isOwnKey ·.1)
    && (reference? entries).all (isOwnReference document)
  | _ => false

/-- The document names only places of its own. -/
def selfContained (document : Value) : Bool := document.every (isOwnPart document)

/-! ## §2 Pointers in them -/

variable {document v : Value}

/-- A key that is none of the own ones is not there. -/
theorem get?_of_isOwnKey {key : String} (hkey : isOwnKey (.text key) = false) :
    ∀ {entries : List (Scalar × Value)}, entries.all (isOwnKey ·.1) = true →
      Entries.get? entries (.text key) = none
  | [], _ => rfl
  | (k, w) :: rest, h => by
    simp only [List.all_cons, Bool.and_eq_true] at h
    have hne : (Scalar.text key).same k = false := by
      cases k with
      | text t =>
        have ht : key ≠ t := by
          rintro rfl
          rw [h.1] at hkey
          cases hkey
        simp [Scalar.same, Scalar.toInt?, ht]
      | _ => cases h.1
    rw [Entries.get?, hne]
    exact get?_of_isOwnKey hkey h.2

/-- A part of a self-contained document gives itself no name. It may not admit the question. -/
theorem name?_of_isOwnPart (h : isOwnPart document v = true) :
    (Resource.mk .draft4 v).name? = .ok none ∨ ∃ f, (Resource.mk .draft4 v).name? = .error f := by
  have hgiven : lookUpGiven v "id" = .ok none ∨ ∃ f, lookUpGiven v "id" = .error f := by
    cases v with
    | mapping entries =>
      simp only [isOwnPart, Bool.and_eq_true] at h
      have hget := get?_of_isOwnKey (by decide : isOwnKey (.text "id") = false) h.1
      refine Or.inl ?_
      simp [lookUpGiven, lookUp, Value.bare, hget]
    | scalar s => exact Or.inr ⟨_, rfl⟩
    | sequence items => exact Or.inr ⟨_, rfl⟩
    | _ => cases h
  have holder : olderName v "id" = .ok none ∨ ∃ f, olderName v "id" = .error f := by
    unfold olderName
    cases v.contains (.text "$ref") with
    | error f => exact Or.inr ⟨f, rfl⟩
    | ok b =>
      cases b with
      | true => exact Or.inl rfl
      | false =>
        rcases hgiven with hg | ⟨f, hg⟩
        · rw [hg]
          exact Or.inl rfl
        · rw [hg]
          exact Or.inr ⟨f, rfl⟩
  unfold Resource.name? rawName
  rcases holder with ho | ⟨f, ho⟩
  · simp only [ho]
    exact Or.inl rfl
  · simp only [ho]
    exact Or.inr ⟨f, rfl⟩

/-- So it does not change the base of references. -/
theorem inside_of_isOwnPart (h : isOwnPart document v = true) :
    (∀ r : Resolver, r.inside ⟨.draft4, v⟩ = .ok none) ∨
      ∃ f, ∀ r : Resolver, r.inside ⟨.draft4, v⟩ = .error f := by
  rcases name?_of_isOwnPart h with hn | ⟨f, hn⟩
  · refine Or.inl fun r => ?_
    rw [Resolver.inside, hn]
    rfl
  · refine Or.inr ⟨f, fun r => ?_⟩
    rw [Resolver.inside, hn]
    rfl

/-- A step of a pointer leads to a part. -/
theorem stepInto_of_own {contents : Value} {segment : List Char} {name : Option String}
    (h : contents.every (isOwnPart document) = true)
    (hs : Resolver.stepInto contents segment = .ok (some (v, name))) :
    v.every (isOwnPart document) = true ∧ references v ⊆ references contents := by
  have hitems : ∀ items : List Value, Resolver.indexed? contents = some items → v ∈ items := by
    intro items hi
    rw [Resolver.stepInto, hi] at hs
    obtain ⟨i, -, hv⟩ := bind_eq_ok.mp hs
    obtain ⟨w, hw, he⟩ := Option.map_eq_some_iff.mp (Except.ok.inj hv)
    cases he
    exact mem_of_itemAt? hw
  cases contents with
  | sequence items =>
    simp only [Value.every, Bool.and_eq_true] at h
    have hv := hitems items rfl
    exact ⟨Value.every_of_mem h.2 hv, references_subset_of_mem hv⟩
  | mapping entries =>
    simp only [Value.every, Bool.and_eq_true] at h
    obtain ⟨w, hw, he⟩ := Option.map_eq_some_iff.mp (Except.ok.inj hs)
    cases he
    obtain ⟨k, hk⟩ := Entries.mem_of_get? hw
    refine ⟨Value.every_of_entry h.2 hk, ?_⟩
    rw [references]
    exact List.subset_append_of_subset_right _ (references_subset_of_entry hk)
  | scalar s =>
    have hv : ∃ t, v = .scalar t := by
      cases s with
      | text t =>
        obtain ⟨c, -, rfl⟩ := List.mem_map.mp (hitems _ rfl)
        exact ⟨_, rfl⟩
      | bytes bs =>
        obtain ⟨b, -, rfl⟩ := List.mem_map.mp (hitems _ rfl)
        exact ⟨_, rfl⟩
      | _ => cases hs
    obtain ⟨t, rfl⟩ := hv
    exact ⟨rfl, List.nil_subset (references (.scalar s))⟩
  | _ => cases h

/-- Passing a part is no more than going on behind it, if it admits the question for its name. -/
theorem follow_cons_of_own {pointer : String} {segment : List Char} {rest : List (List Char)}
    {names : List (Option String)} {contents v : Value} {name : Option String}
    (hs : Resolver.stepInto contents segment = .ok (some (v, name)))
    (hv : isOwnPart document v = true) :
    (∀ r : Resolver, r.follow .draft4 pointer (segment :: rest) names contents
        = r.follow .draft4 pointer rest (names ++ [name]) v) ∨
      ∃ f, ∀ r : Resolver, r.follow .draft4 pointer (segment :: rest) names contents
        = .error (.fault f) := by
  simp only [Resolver.follow, hs, ok_bind]
  split
  · rcases inside_of_isOwnPart hv with hi | ⟨f, hi⟩
    · refine Or.inl fun r => ?_
      rw [hi]
      rfl
    · refine Or.inr ⟨f, fun r => ?_⟩
      rw [hi]
      rfl
  · exact Or.inl fun r => rfl

/-- A pointer in a self-contained document leads to the same part by whatever resolver, which it
leaves as it was. -/
theorem follow_of_own {pointer : String} {r : Resolver} {w : Value} {r' : Resolver} :
    ∀ {segments : List (List Char)} {names : List (Option String)} {contents : Value},
      contents.every (isOwnPart document) = true →
      r.follow .draft4 pointer segments names contents = .ok (w, r') →
      w.every (isOwnPart document) = true ∧ references w ⊆ references contents ∧
        ∀ q : Resolver, q.follow .draft4 pointer segments names contents = .ok (w, q)
  | [], _, contents, hc, h => by
    cases h
    exact ⟨hc, fun _ hr => hr, fun q => rfl⟩
  | segment :: rest, names, contents, hc, h => by
    have hstep := h
    rw [Resolver.follow] at hstep
    obtain ⟨found, hs, hstep⟩ := bind_eq_ok.mp hstep
    cases found with
    | none => cases hstep
    | some found =>
      obtain ⟨v, name⟩ := found
      obtain ⟨hv, hsub⟩ := stepInto_of_own hc hs
      rcases follow_cons_of_own hs (Value.every_self hv) with hnext | ⟨f, hnext⟩
      · rw [hnext] at h
        obtain ⟨hw, hrest, hall⟩ := follow_of_own hv h
        refine ⟨hw, fun x hx => hsub (hrest hx), fun q => ?_⟩
        rw [hnext]
        exact hall q
      · rw [hnext] at h
        cases h

theorem pointer_of_own {pointer : String} {r : Resolver} {w : Value} {r' : Resolver}
    (hd : selfContained document = true)
    (h : r.pointer ⟨.draft4, document⟩ pointer = .ok (w, r')) :
    w.every (isOwnPart document) = true ∧ references w ⊆ references document ∧
      ∀ q : Resolver, q.pointer ⟨.draft4, document⟩ pointer = .ok (w, q) := by
  simp only [Resolver.pointer] at h ⊢
  exact follow_of_own hd h

/-- What a reference names in a self-contained document is a part of it. -/
theorem named?_of_selfContained (hd : selfContained document = true) {reference : String}
    (h : named? document reference = some v) :
    v.every (isOwnPart document) = true ∧ references v ⊆ references document := by
  unfold named? at h
  split at h
  · cases h
    exact ⟨hd, fun _ hr => hr⟩
  · split at h
    · rename_i hp
      cases h
      obtain ⟨hv, hsub, -⟩ := pointer_of_own hd hp
      exact ⟨hv, hsub⟩
    · cases h
  · cases h

/-! ## §3 References in them -/

/-- Such a reference is followed in the document as in the document alone. -/
theorem lookUp_of_named? (hd : selfContained document = true) {r : Resolver} (disk : Disk)
    (reading : Mark) (hr : r.registry.find? r.base = some ⟨.draft4, document⟩) {reference : String}
    (h : named? document reference = some v) :
    ∃ r' : Resolver, r.lookUp disk reading reference = .ok (v, r') ∧
      r'.registry = r.registry ∧ r'.base = r.base := by
  have hfetch : r.registry.fetch disk reading r.base
      = .ok (r.registry, ⟨.draft4, document⟩) := by
    rw [Registry.fetch, hr]
  unfold named? at h
  split at h
  · rename_i hs
    cases h
    refine ⟨r.enter r.registry r.base, ?_, rfl, rfl⟩
    simp [Resolver.lookUp, Resolver.target, hs, orStop, hfetch]
  · rename_i rest hs
    split at h
    · rename_i hp
      cases h
      obtain ⟨-, -, hall⟩ := pointer_of_own hd hp
      refine ⟨r.enter r.registry r.base, ?_, rfl, rfl⟩
      simp only [Resolver.lookUp, Resolver.target, hs, orStop, mapError_ok, ok_bind, hfetch,
        String.toList_ofList, List.head?_cons, if_true]
      exact hall _
    · cases h
  · cases h

/-- Every reference in a part names a place of the document. -/
theorem isOwnReference_of_mem {reference : String} (hv : v.every (isOwnPart document) = true)
    (h : reference ∈ references v) : isOwnReference document reference = true := by
  refine of_mem_references (fun entries he => ?_) hv h
  simp only [isOwnPart, Bool.and_eq_true] at he
  exact he.2

mutual

/-- A part has no more references than parts. -/
theorem length_references_le : ∀ {v : Value}, v.every (isOwnPart document) = true →
    (references v).length ≤ v.sizeIn []
  | .scalar _, _ => Nat.zero_le _
  | .sequence items, hv => by
    simp only [Value.every, Bool.and_eq_true] at hv
    have := length_referencesOfItems_le hv.2
    simp only [references, Value.sizeIn]
    omega
  | .mapping entries, hv => by
    simp only [Value.every, Bool.and_eq_true] at hv
    have := length_referencesOfEntries_le hv.2
    have hone : (reference? entries).toList.length ≤ 1 := by
      cases reference? entries <;> simp
    simp only [references, Value.sizeIn, List.length_append]
    omega
  | .pair _ _, hv => nomatch hv
  | .set _, hv => nomatch hv
  | .looped _ _, hv => nomatch hv

theorem length_referencesOfItems_le : ∀ {items : List Value},
    Value.everyItem (isOwnPart document) items = true →
      (referencesOfItems items).length ≤ Value.sizeOfItems [] items
  | [], _ => Nat.zero_le _
  | v :: rest, hv => by
    simp only [Value.everyItem, Bool.and_eq_true] at hv
    have := length_references_le hv.1
    have := length_referencesOfItems_le hv.2
    simp only [referencesOfItems, Value.sizeOfItems, List.length_append]
    omega

theorem length_referencesOfEntries_le : ∀ {entries : List (Scalar × Value)},
    Value.everyEntry (isOwnPart document) entries = true →
      (referencesOfEntries entries).length ≤ Value.sizeOfEntries [] entries
  | [], _ => Nat.zero_le _
  | (_, v) :: rest, hv => by
    simp only [Value.everyEntry, Bool.and_eq_true] at hv
    have := length_references_le hv.1
    have := length_referencesOfEntries_le hv.2
    simp only [referencesOfEntries, Value.sizeOfEntries, List.length_append]
    omega

end

end Reference

end SchemaDoc
