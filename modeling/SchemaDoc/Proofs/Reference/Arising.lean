/-
SchemaDoc.Proofs.Reference.Arising — references that arise by carrying out.

The walk replaces every reference, and what it is given for one has none left.
Yet a mapping with something else than a text under `$ref` is no reference, so
its entries are carried out one by one, and what stands under `$ref` may become
a text that way: then there is a reference where none was. This is the only
way in which a reference is left (`leaves_none_iff`). A tree without any is
carried out to itself from everywhere.

§1 references laid over others, §2 the walk, §3 values that hold themselves,
§4 runs, §5 documents in which none arises, §6 a reference that arises.
-/
import SchemaDoc.Proofs.Reference.Found
import SchemaDoc.Proofs.Reference.Free
import SchemaDoc.Proofs.Reference.Overlaid
import SchemaDoc.Proofs.Value.Equality

namespace SchemaDoc.Reference

open Relation

/-! ## §1 References laid over others -/

theorem reference?_layOver {lower upper : List (Scalar × Value)}
    (h : Entries.get? upper referenceKey = none) :
    reference? (layOver upper lower) = reference? lower := by
  rw [reference?, get?_layOver, h, Option.none_or]
  rfl

/-! ## §2 The walk -/

variable {follow : Position → String → Except Failure Value}

mutual

/-- No mapping in the value becomes a reference when its entries are carried out. Those beside a
reference are carried out only over a mapping. -/
def NoneArises (follow : Position → String → Except Failure Value) (p : Position) : Value → Prop
  | .sequence items => NoneArisesInItems follow p 0 items
  | .mapping entries =>
    match reference? entries with
    | none => NoneArisesInEntries follow p 1 entries ∧
        ∀ inlined, inlineEntries follow p 1 entries = .ok inlined → reference? inlined = none
    | some reference => ∀ lower, follow p reference = .ok (.mapping lower) →
        NoneArisesInSiblings follow p 1 entries
  | .looped _ body => NoneArises follow p body
  | _ => True

/-- The same of every item. -/
def NoneArisesInItems (follow : Position → String → Except Failure Value) (p : Position)
    (place : Nat) : List Value → Prop
  | [] => True
  | v :: rest => NoneArises follow (place :: p) v ∧ NoneArisesInItems follow p (place + 1) rest

/-- The same of the value of every entry. -/
def NoneArisesInEntries (follow : Position → String → Except Failure Value) (p : Position)
    (place : Nat) : List (Scalar × Value) → Prop
  | [] => True
  | (_, v) :: rest => NoneArises follow (place :: p) v ∧ NoneArisesInEntries follow p (place + 1) rest

/-- The same of the value of every entry beside a reference. -/
def NoneArisesInSiblings (follow : Position → String → Except Failure Value) (p : Position)
    (place : Nat) : List (Scalar × Value) → Prop
  | [] => True
  | (k, v) :: rest =>
    if referenceKey.same k then NoneArisesInSiblings follow p (place + 1) rest
    else NoneArises follow (place :: p) v ∧ NoneArisesInSiblings follow p (place + 1) rest

end

/-- The entries beside a reference have no key `$ref`. -/
theorem get?_inlineSiblings (p : Position) : ∀ {entries upper : List (Scalar × Value)} {place : Nat},
    inlineSiblings follow p place entries = .ok upper → Entries.get? upper referenceKey = none
  | [], _, _, h => by
    cases h
    rfl
  | (k, v) :: rest, _, place, h => by
    rw [inlineSiblings] at h
    split at h
    · exact get?_inlineSiblings p h
    · rename_i hk
      obtain ⟨w, -, h⟩ := bind_eq_ok.mp h
      obtain ⟨upper, hupper, h⟩ := bind_eq_ok.mp h
      cases h
      rw [Entries.get?, if_neg hk]
      exact get?_inlineSiblings p hupper

/-- What is asked for has answers without references. -/
def Answered (follow : Position → String → Except Failure Value)
    (refs : List (Position × String)) : Prop :=
  ∀ a ∈ refs, ∀ u, follow a.1 a.2 = .ok u → references u = []

theorem answered_append {refs others : List (Position × String)} :
    Answered follow (refs ++ others) ↔ Answered follow refs ∧ Answered follow others :=
  List.forall_mem_append

/-- One value and those behind it. -/
theorem answered_after {α : Type} {step : Except Failure α} {a : α} (hstep : step = .ok a)
    {refs others : List (Position × String)} (h : Answered follow (refs ++ askedAfter step others)) :
    Answered follow refs ∧ Answered follow others := by
  obtain ⟨hrefs, hothers⟩ := answered_append.mp h
  rw [hstep] at hothers
  exact ⟨hrefs, hothers⟩

mutual

/-- **The walk leaves a reference exactly where one arises**, if what it asks for has answers
without references. -/
theorem references_inline_iff (p : Position) : ∀ {v w : Value},
    Answered follow (asked follow p v) → inline follow p v = .ok w →
      (references w = [] ↔ NoneArises follow p v)
  | .sequence items, _, ha, h => by
    obtain ⟨inlined, hi, hw⟩ := bind_eq_ok.mp h
    cases hw
    exact referencesOfItems_eq_nil.trans (references_inlineItems_iff p 0 ha hi)
  | .mapping entries, w, ha, h => by
    rw [inline] at h
    rw [NoneArises]
    rw [asked] at ha
    split at h
    · rename_i hr
      simp only [hr] at ha ⊢
      obtain ⟨inlined, hi, hw⟩ := bind_eq_ok.mp h
      cases hw
      rw [references_mapping_eq_nil, references_inlineEntries_iff p 1 ha hi, and_comm]
      simp only [hi, Except.ok.injEq, forall_eq']
    · rename_i reference hr
      simp only [hr] at ha ⊢
      obtain ⟨hanswer, hbeside⟩ := List.forall_mem_cons.mp ha
      obtain ⟨named, hnamed, h⟩ := bind_eq_ok.mp h
      have hfree := hanswer named hnamed
      rw [hnamed] at hbeside ⊢
      split at h
      · rename_i lower
        obtain ⟨upper, hupper, hw⟩ := bind_eq_ok.mp h
        have hsiblings := references_inlineSiblings_iff p 1 hbeside hupper
        obtain ⟨hnone, hlower⟩ := references_mapping_eq_nil.mp hfree
        simp only [Except.ok.injEq, Value.mapping.injEq, forall_eq', ← hsiblings]
        cases hw
        split
        · rename_i hempty
          rw [List.isEmpty_iff.mp hempty]
          exact iff_of_true hfree fun _ he => nomatch he
        · rw [references_mapping_eq_nil, reference?_layOver (get?_inlineSiblings p hupper)]
          constructor
          · exact fun h e he => h.2 e (subset_layOver lower upper he)
          · exact fun h => ⟨hnone, fun e he => (mem_layOver he).elim (h e) (hlower e)⟩
      · rename_i hne
        cases h
        exact iff_of_true hfree fun lower hl => absurd (Except.ok.inj hl) (hne lower)
  | .looped _ body, _, ha, h => by
    rw [inline] at h
    rw [asked] at ha
    rw [NoneArises]
    unfold unwind at h
    split at h
    · cases h
    · cases h
      exact iff_of_true rfl trivial
    · exact references_inline_iff p (v := body) ha h
  | .scalar _, _, _, h => by
    cases h
    exact iff_of_true rfl trivial
  | .pair _ _, _, _, h => by
    cases h
    exact iff_of_true rfl trivial
  | .set _, _, _, h => by
    cases h
    exact iff_of_true rfl trivial
termination_by structural v => v

theorem references_inlineItems_iff (p : Position) (place : Nat) : ∀ {items inlined : List Value},
    Answered follow (askedInItems follow p place items) →
      inlineItems follow p place items = .ok inlined →
      ((∀ w ∈ inlined, references w = []) ↔ NoneArisesInItems follow p place items)
  | [], _, _, h => by
    cases h
    exact iff_of_true (fun _ he => nomatch he) trivial
  | v :: rest, _, ha, h => by
    obtain ⟨w, hw, h⟩ := bind_eq_ok.mp h
    obtain ⟨inlined, hi, h⟩ := bind_eq_ok.mp h
    cases h
    obtain ⟨hv, hrest⟩ := answered_after hw ha
    rw [List.forall_mem_cons, NoneArisesInItems, references_inline_iff _ hv hw,
      references_inlineItems_iff p _ hrest hi]
termination_by structural items => items

theorem references_inlineEntries_iff (p : Position) (place : Nat) :
    ∀ {entries inlined : List (Scalar × Value)},
    Answered follow (askedInEntries follow p place entries) →
      inlineEntries follow p place entries = .ok inlined →
      ((∀ e ∈ inlined, references e.2 = []) ↔ NoneArisesInEntries follow p place entries)
  | [], _, _, h => by
    cases h
    exact iff_of_true (fun _ he => nomatch he) trivial
  | (k, v) :: rest, _, ha, h => by
    obtain ⟨w, hw, h⟩ := bind_eq_ok.mp h
    obtain ⟨inlined, hi, h⟩ := bind_eq_ok.mp h
    cases h
    obtain ⟨hv, hrest⟩ := answered_after hw ha
    rw [List.forall_mem_cons, NoneArisesInEntries, references_inline_iff _ hv hw,
      references_inlineEntries_iff p _ hrest hi]
termination_by structural entries => entries

theorem references_inlineSiblings_iff (p : Position) (place : Nat) :
    ∀ {entries inlined : List (Scalar × Value)},
    Answered follow (askedInSiblings follow p place entries) →
      inlineSiblings follow p place entries = .ok inlined →
      ((∀ e ∈ inlined, references e.2 = []) ↔ NoneArisesInSiblings follow p place entries)
  | [], _, _, h => by
    cases h
    exact iff_of_true (fun _ he => nomatch he) trivial
  | (k, v) :: rest, _, ha, h => by
    rw [inlineSiblings] at h
    rw [askedInSiblings] at ha
    rw [NoneArisesInSiblings]
    split at h
    · rename_i hk
      rw [if_pos hk] at ha ⊢
      exact references_inlineSiblings_iff p _ ha h
    · rename_i hk
      rw [if_neg hk] at ha ⊢
      obtain ⟨w, hw, h⟩ := bind_eq_ok.mp h
      obtain ⟨inlined, hi, h⟩ := bind_eq_ok.mp h
      cases h
      obtain ⟨hv, hrest⟩ := answered_after hw ha
      rw [List.forall_mem_cons, references_inline_iff _ hv hw,
        references_inlineSiblings_iff p _ hrest hi]
termination_by structural entries => entries

end

/-! ## §3 Values that hold themselves -/

/-- Nothing that is made holds itself. -/
abbrev Unwinds (x : Except Failure Value) : Prop := Yields (fun w => isUnwound w = true) x

theorem isUnwound_layOver {lower upper : List (Scalar × Value)}
    (hlower : isUnwound (.mapping lower) = true) (hupper : ∀ e ∈ upper, isUnwound e.2 = true) :
    isUnwound (.mapping (layOver upper lower)) = true :=
  areUnwoundEntries_iff.mpr fun e he =>
    (mem_layOver he).elim (hupper e) (areUnwoundEntries_iff.mp hlower e)

mutual

/-- The walk makes nothing that holds itself. -/
theorem unwinds_inline (hf : ∀ q r, Unwinds (follow q r)) (p : Position) :
    ∀ v : Value, Unwinds (inline follow p v)
  | .sequence items => (unwinds_inlineItems hf p 0 items).bind fun _ h =>
      yields_ok (areUnwound_iff.mpr h)
  | .mapping entries => by
    rw [inline]
    split
    · exact (unwinds_inlineEntries hf p 1 entries).bind fun _ h =>
        yields_ok (areUnwoundEntries_iff.mpr h)
    · refine (hf p _).bind fun named hnamed => ?_
      split
      · refine (unwinds_inlineSiblings hf p 1 entries).bind fun upper hupper => yields_ok ?_
        split
        · exact hnamed
        · exact isUnwound_layOver hnamed hupper
      · exact yields_ok hnamed
  | .looped _ body => by
    rw [inline]
    unfold unwind
    split
    · exact yields_error _
    · exact yields_ok rfl
    · exact unwinds_inline hf p body
  | .scalar _ => yields_ok rfl
  | .pair _ _ => yields_ok rfl
  | .set _ => yields_ok rfl

theorem unwinds_inlineItems (hf : ∀ q r, Unwinds (follow q r)) (p : Position) (place : Nat) :
    ∀ items : List Value,
      Yields (fun ws => ∀ w ∈ ws, isUnwound w = true) (inlineItems follow p place items)
  | [] => yields_ok fun _ h => nomatch h
  | v :: rest => (unwinds_inline hf _ v).bind fun _ hw =>
      (unwinds_inlineItems hf p _ rest).bind fun _ hrest =>
        yields_ok (List.forall_mem_cons.mpr ⟨hw, hrest⟩)

theorem unwinds_inlineEntries (hf : ∀ q r, Unwinds (follow q r)) (p : Position) (place : Nat) :
    ∀ entries : List (Scalar × Value),
      Yields (fun es => ∀ e ∈ es, isUnwound e.2 = true) (inlineEntries follow p place entries)
  | [] => yields_ok fun _ h => nomatch h
  | (_, v) :: rest => (unwinds_inline hf _ v).bind fun _ hw =>
      (unwinds_inlineEntries hf p _ rest).bind fun _ hrest =>
        yields_ok (List.forall_mem_cons.mpr ⟨hw, hrest⟩)

theorem unwinds_inlineSiblings (hf : ∀ q r, Unwinds (follow q r)) (p : Position) (place : Nat) :
    ∀ entries : List (Scalar × Value),
      Yields (fun es => ∀ e ∈ es, isUnwound e.2 = true) (inlineSiblings follow p place entries)
  | [] => yields_ok fun _ h => nomatch h
  | (k, v) :: rest => by
    rw [inlineSiblings]
    split
    · exact unwinds_inlineSiblings hf p _ rest
    · exact (unwinds_inline hf _ v).bind fun _ hw =>
        (unwinds_inlineSiblings hf p _ rest).bind fun _ hrest =>
          yields_ok (List.forall_mem_cons.mpr ⟨hw, hrest⟩)

end

variable {disk : Disk} {earlier : Option String}

/-- So does a run. -/
theorem unwinds_expandAt (hops : Nat) : ∀ (here : Place) (p : Position) (v : Value),
    Unwinds (expandAt disk earlier hops here p v) := by
  induction hops with
  | zero => exact fun here p v => unwinds_inline (fun _ _ => yields_error _) p v
  | succ hops ih =>
    intro here p v
    refine unwinds_inline (fun q r => ?_) p v
    refine yields_bind ?_
    rintro ⟨there, contents⟩
    exact ih there (0 :: q) contents

/-! ## §4 Runs -/

/-- No mapping of a site becomes a reference when it is carried out. -/
def Site.NoneArises (disk : Disk) (earlier : Option String) (s : Site) : Prop :=
  ∀ hops w, s.expand disk earlier hops = .ok w →
    Reference.NoneArises (followAt disk earlier hops s.place) s.position s.value

/-- What a reference stands for is what its site is carried out to, with a hop less. -/
theorem exists_next_of_answer {s : Site} {hops : Nat} {a : Position × String} {u : Value}
    (ha : a ∈ s.asked disk earlier hops)
    (hu : followAt disk earlier hops s.place a.1 a.2 = .ok u) :
    ∃ t less, hops = less + 1 ∧ Next disk earlier s t ∧ t.expand disk earlier less = .ok u := by
  cases hops with
  | zero => cases hu
  | succ less =>
    obtain ⟨⟨there, contents⟩, hlead, hu⟩ := bind_eq_ok.mp hu
    exact ⟨⟨there, 0 :: a.1, contents⟩, less, rfl, ⟨_, mem_next.mpr ⟨a, ha, rfl, hlead⟩⟩, hu⟩

/-- One site: a reference is left exactly where one arises, if none is left at the next ones. -/
theorem Site.references_expand_iff {s : Site} {hops : Nat} {w : Value}
    (hnext : ∀ t less u, Next disk earlier s t → less < hops →
      t.expand disk earlier less = .ok u → references u = [])
    (h : s.expand disk earlier hops = .ok w) :
    references w = [] ↔
      Reference.NoneArises (followAt disk earlier hops s.place) s.position s.value := by
  refine references_inline_iff s.position (fun a ha u hu => ?_)
    ((expandAt_eq_inline disk earlier hops s.place s.position s.value).symm.trans h)
  obtain ⟨t, less, rfl, ht, hu⟩ := exists_next_of_answer ha hu
  exact hnext t less u ht (Nat.lt_succ_self less) hu

/-- A run: no reference is left if none arises anywhere. -/
theorem Site.references_expand {hops : Nat} : ∀ {s : Site} {w : Value},
    (∀ t, ReflTransGen (Next disk earlier) s t → t.NoneArises disk earlier) →
      s.expand disk earlier hops = .ok w → references w = [] := by
  induction hops using Nat.strongRecOn with
  | ind hops ih =>
    intro s w hnone h
    refine (s.references_expand_iff (fun t less u ht hless hu => ?_) h).mpr (hnone s .refl hops w h)
    exact ih less hless (fun x hx => hnone x (.head ht hx)) hu

/-- **A run leaves a reference exactly where one arises** by carrying out the entries of a mapping
that is none. -/
theorem leaves_none_iff (s : Site) :
    (∀ t, ReflTransGen (Next disk earlier) s t →
        ∀ hops w, t.expand disk earlier hops = .ok w → references w = []) ↔
      ∀ t, ReflTransGen (Next disk earlier) s t → t.NoneArises disk earlier := by
  constructor
  · intro h t ht hops w hw
    exact (t.references_expand_iff (fun x less u hx _ hu => h x (ht.tail hx) less u hu) hw).mp
      (h t ht hops w hw)
  · intro h t ht hops w hw
    exact Site.references_expand (fun x hx => h x (ht.trans hx)) hw

variable {document : Value} {base : Path} {name : String}

/-- **What a document is carried out to has no reference left unless one arises**: everything that
its references name, and so the document, has none exactly if no mapping that is no reference becomes
one when its entries are carried out. A result without references is carried out to itself, on any
disk, from any directory and under any name, if it has a root there. -/
theorem dereferenceWithin_leaves_none_iff (earlier : Option String) (disk : Disk)
    (document : Value) (base : Path) (name : String) :
    ((∀ t, Comes disk earlier document base name t →
        ∀ hops w, t.expand disk earlier hops = .ok w → references w = []) ↔
      ∀ t, Comes disk earlier document base name t → t.NoneArises disk earlier) ∧
    ∀ hops w, dereferenceWithin hops earlier disk document base name = .ok w →
      ((∀ t, Comes disk earlier document base name t → t.NoneArises disk earlier) →
        references w = []) ∧
      (references w = [] → ∀ (hops' : Nat) (earlier' : Option String) (disk' : Disk) (base' : Path)
          (name' : String), dereferenceWithin hops' earlier' disk' w base' name' = (do
        let _ ← rootSite disk' w base' name'
        return w)) := by
  constructor
  · constructor
    · rintro h t ⟨s, hs, ht⟩
      exact (leaves_none_iff s).mp (fun x hx => h x ⟨s, hs, hx⟩) t ht
    · rintro h t ⟨s, hs, ht⟩
      exact (leaves_none_iff s).mpr (fun x hx => h x ⟨s, hs, hx⟩) t ht
  · intro hops w hw
    rw [dereferenceWithin_eq] at hw
    obtain ⟨s, hs, hw⟩ := bind_eq_ok.mp hw
    refine ⟨fun h => Site.references_expand (fun t ht => h t ⟨s, hs, ht⟩) hw, fun hnone => ?_⟩
    intro hops' earlier' disk' base' name'
    exact dereferenceWithin_of_isFree hops' ⟨unwinds_expandAt hops _ _ _ w hw, hnone⟩

/-! ## §5 Documents in which none arises -/

/-- What stands under `$ref` is a text, or something that is carried out to no text. -/
def isSettled : Value → Bool
  | .mapping entries => match Entries.get? entries referenceKey with
    | none | some (.text _) => true
    | some v => match v.bare with
      | .text _ => false
      | .mapping inner => (reference? inner).isNone
      | _ => true
  | _ => true

/-- Only a text or a reference is carried out to a text. -/
theorem bare_of_inline_text {p : Position} {t : String} : ∀ {v : Value},
    inline follow p v = .ok (.text t) → v.bare = .text t ∨
      ∃ entries reference, v.bare = .mapping entries ∧ reference? entries = some reference
  | .looped _ body, h => by
    rw [inline] at h
    unfold unwind at h
    split at h
    · cases h
    · cases h
    · exact bare_of_inline_text (v := body) h
  | .scalar s, h => Or.inl (Except.ok.inj h)
  | .sequence items, h => by
    obtain ⟨inlined, -, h⟩ := bind_eq_ok.mp h
    cases h
  | .mapping entries, h => by
    cases hr : reference? entries with
    | some reference => exact Or.inr ⟨entries, reference, rfl, hr⟩
    | none =>
      simp only [inline, hr] at h
      obtain ⟨inlined, -, h⟩ := bind_eq_ok.mp h
      cases h
  | .pair _ _, h => nomatch h
  | .set _, h => nomatch h

/-- What stands under a key is what stood there, carried out. -/
theorem get?_inlineEntries (p : Position) {key : Scalar} {w : Value} :
    ∀ {entries inlined : List (Scalar × Value)} {place : Nat},
      inlineEntries follow p place entries = .ok inlined → Entries.get? inlined key = some w →
      ∃ v q, Entries.get? entries key = some v ∧ inline follow q v = .ok w
  | [], _, _, h, hw => by
    cases h
    cases hw
  | (k, v) :: rest, _, place, h, hw => by
    obtain ⟨u, hu, h⟩ := bind_eq_ok.mp h
    obtain ⟨inlined, hi, h⟩ := bind_eq_ok.mp h
    cases h
    rw [Entries.get?] at hw ⊢
    split at hw
    · rename_i hk
      cases hw
      exact ⟨v, _, if_pos hk, hu⟩
    · rename_i hk
      rw [if_neg hk]
      exact get?_inlineEntries p hi hw

/-- A mapping of that kind that is no reference does not become one. -/
theorem reference?_inlineEntries {entries inlined : List (Scalar × Value)} {p : Position}
    {place : Nat} (hs : isSettled (.mapping entries) = true) (hr : reference? entries = none)
    (h : inlineEntries follow p place entries = .ok inlined) : reference? inlined = none := by
  unfold reference?
  split
  · rename_i t ht
    obtain ⟨v, q, hv, hinline⟩ := get?_inlineEntries p h ht
    rw [isSettled, hv] at hs
    unfold reference? at hr
    rw [hv] at hr
    rcases bare_of_inline_text hinline with hbare | ⟨inner, reference, hbare, hinner⟩
    · split at hs <;> simp_all
    · split at hs <;> simp_all
  · rfl

mutual

theorem noneArises_of_such (p : Position) : ∀ {v : Value}, Such isSettled v → NoneArises follow p v
  | .sequence items, h => by
    simp only [Such, Value.every, Bool.and_eq_true] at h
    exact noneArisesInItems_of_such p 0 h.2
  | .mapping entries, h => by
    simp only [Such, Value.every, Bool.and_eq_true] at h
    rw [NoneArises]
    split
    · rename_i hr
      exact ⟨noneArisesInEntries_of_such p 1 h.2, fun inlined hi =>
        reference?_inlineEntries h.1 hr hi⟩
    · exact fun _ _ => noneArisesInSiblings_of_such p 1 h.2
  | .looped _ body, h => by
    simp only [Such, Value.every, Bool.and_eq_true] at h
    exact noneArises_of_such p (v := body) h.2
  | .scalar _, _ => trivial
  | .pair _ _, _ => trivial
  | .set _, _ => trivial

theorem noneArisesInItems_of_such (p : Position) (place : Nat) : ∀ {items : List Value},
    Value.everyItem isSettled items = true → NoneArisesInItems follow p place items
  | [], _ => trivial
  | v :: rest, h => by
    simp only [Value.everyItem, Bool.and_eq_true] at h
    exact ⟨noneArises_of_such _ h.1, noneArisesInItems_of_such p _ h.2⟩

theorem noneArisesInEntries_of_such (p : Position) (place : Nat) :
    ∀ {entries : List (Scalar × Value)}, Value.everyEntry isSettled entries = true →
      NoneArisesInEntries follow p place entries
  | [], _ => trivial
  | (_, v) :: rest, h => by
    simp only [Value.everyEntry, Bool.and_eq_true] at h
    exact ⟨noneArises_of_such _ h.1, noneArisesInEntries_of_such p _ h.2⟩

theorem noneArisesInSiblings_of_such (p : Position) (place : Nat) :
    ∀ {entries : List (Scalar × Value)}, Value.everyEntry isSettled entries = true →
      NoneArisesInSiblings follow p place entries
  | [], _ => trivial
  | (k, v) :: rest, h => by
    simp only [Value.everyEntry, Bool.and_eq_true] at h
    rw [NoneArisesInSiblings]
    split
    · exact noneArisesInSiblings_of_such p _ h.2
    · exact ⟨noneArises_of_such _ h.1, noneArisesInSiblings_of_such p _ h.2⟩

end

/-- **Where under every `$ref` stands a text or something that is carried out to none, no reference is
left**, whatever the references name. -/
theorem references_of_such (hdisk : FilesHold isSettled disk) (hdocument : Such isSettled document)
    {hops : Nat} {w : Value} (h : dereferenceWithin hops earlier disk document base name = .ok w) :
    references w = [] := by
  rw [dereferenceWithin_eq] at h
  obtain ⟨s, hs, h⟩ := bind_eq_ok.mp h
  refine Site.references_expand (fun t ht _ _ _ => ?_) h
  exact noneArises_of_such _ (Comes.holds (fun _ => rfl) hdisk hdocument ⟨s, hs, ht⟩).value

/-! ## §6 A reference that arises -/

/-- Nothing is read from an empty disk. -/
theorem filesHold_empty (p : Value → Bool) (workingDirectory : Path) :
    FilesHold p ⟨{}, workingDirectory⟩ := by
  rintro v ⟨path, bytes, -, -, hbytes, -⟩
  have hentry : ∀ q : Path, ({} : Tree).entry q ≠ .ok (.file bytes) := by
    intro q h
    obtain ⟨place, -, h⟩ := bind_eq_ok.mp h
    cases place <;> cases h
  unfold Disk.bytes? at hbytes
  split at hbytes
  · cases hbytes
  split at hbytes
  · rename_i he
    cases hbytes
    unfold Disk.entry at he
    split at he
    · cases he
    · exact absurd he (hentry _)
  · cases hbytes
  · cases hbytes

/-- A document with one reference, to a number in it. -/
def counting : Value := .mapping [
  (.text "a", .mapping [(.text "$ref", .text "#/b")]), (.text "b", .integer 1)]

/-- What it is carried out to. -/
def counted : Value := .mapping [(.text "a", .integer 1), (.text "b", .integer 1)]

/-- No reference is left in that document, and it is carried out to itself in another directory. -/
theorem dereferenceWithin_leaves_none_counted :
    dereferenceWithin 1 none ⟨{}, .absolute []⟩ counting (.absolute []) unnamed = .ok counted ∧
      references counted = [] ∧
      dereferenceWithin 0 none ⟨{}, .absolute []⟩ counted (.absolute ["s"]) "x.json"
        = .ok counted := by
  have hok : dereferenceWithin 1 none ⟨{}, .absolute []⟩ counting (.absolute []) unnamed
      = .ok counted := by decide +kernel
  obtain ⟨hfirst, hagain⟩ := (dereferenceWithin_leaves_none_iff none ⟨{}, .absolute []⟩ counting
    (.absolute []) unnamed).2 1 counted hok
  have hnone : references counted = [] := hfirst fun t ht _ _ _ => noneArises_of_such _
    (ht.holds (fun _ => rfl) (filesHold_empty isSettled _) (by decide +kernel)).value
  refine ⟨hok, hnone, ?_⟩
  rw [hagain hnone]
  rfl

/-- A document that is no reference, but has one under `$ref`. -/
def arising : Value := .mapping [
  (.text "$ref", .mapping [(.text "$ref", .text "#/s")]), (.text "s", .text "hello")]

/-- What it is carried out to. -/
def arisen : Value := .mapping [(.text "$ref", .text "hello"), (.text "s", .text "hello")]

/-- A document whose root names a part that states a number for its dialect. -/
def stating : Value := .mapping [
  (.text "$ref", .text "#/x"), (.text "x", .mapping [(.text "$schema", .integer 5)])]

/-- What it is carried out to. -/
def stated : Value := .mapping [
  (.text "x", .mapping [(.text "$schema", .integer 5)]), (.text "$schema", .integer 5)]

/-- **A reference is left, and cannot be carried out**: the result names a file that is not there. And
a result without references need not have a root, since nothing has looked at the dialect that it
states. -/
theorem dereference_leaves_reference :
    dereference ⟨{}, .absolute []⟩ arising (.absolute []) unnamed = .ok arisen ∧
      references arisen = ["hello"] ∧
      (∃ seen missing, dereference ⟨{}, .absolute []⟩ arisen (.absolute []) unnamed
        = .error (.missingReference "hello" seen missing)) ∧
      dereference ⟨{}, .absolute []⟩ stating (.absolute []) unnamed = .ok stated ∧
      references stated = [] ∧
      ∃ f, dereference ⟨{}, .absolute []⟩ stated (.absolute []) unnamed = .error (.fault f) :=
  ⟨by decide +kernel, by decide +kernel, ⟨"file:///schema.json", "/hello", by decide +kernel⟩,
    by decide +kernel, by decide +kernel, ⟨.noAttribute .integer "rstrip", by decide +kernel⟩⟩

end SchemaDoc.Reference
