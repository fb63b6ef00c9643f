/-
SchemaDoc.Proofs.Reference.Plain — inlining without a look at the way.

`Inlines document v w` says that `w` is `v` with each reference replaced by
what it names, inlined in turn, and the entries beside a reference laid over
that if it is a mapping. Nothing here knows of trails: where references lead
in a circle there simply is no `w`. For a self-contained document this is the
only obstacle: there is a `w` exactly when no chain of references that are met
on the way goes on for ever (`exists_inlines_iff_acc`).

§1 inlining, §2 it is unique, §3 references met, §4 chains of them,
§5 values without references, §6 the walk that carries references out.
-/
import Mathlib.Data.List.Forall2
import Mathlib.Order.WellFounded
import SchemaDoc.Proofs.Reference.SelfContained

namespace SchemaDoc.Reference

/-! ## §1 Inlining -/

/-- The entries beside a reference. -/
def besides (entries : List (Scalar × Value)) : List (Scalar × Value) :=
  entries.filter fun e => !referenceKey.same e.1

mutual

/-- The second value is the first one with its references to places of the document inlined. -/
inductive Inlines (document : Value) : Value → Value → Prop
  | scalar (s : Scalar) : Inlines document (.scalar s) (.scalar s)
  | sequence {items inlined : List Value} :
    InlinesItems document items inlined → Inlines document (.sequence items) (.sequence inlined)
  | mapping {entries inlined : List (Scalar × Value)} :
    reference? entries = none → InlinesEntries document entries inlined →
      Inlines document (.mapping entries) (.mapping inlined)
  /-- A reference is replaced by what it names. -/
  | named {entries : List (Scalar × Value)} {reference : String} {v w : Value} :
    reference? entries = some reference → named? document reference = some v →
      Inlines document v w → (besides entries = [] ∨ ∀ lower, w ≠ .mapping lower) →
      Inlines document (.mapping entries) w
  /-- The entries beside it are laid over a mapping. -/
  | overlaid {entries lower upper : List (Scalar × Value)} {reference : String} {v : Value} :
    reference? entries = some reference → named? document reference = some v →
      Inlines document v (.mapping lower) → besides entries ≠ [] →
      InlinesEntries document (besides entries) upper →
      Inlines document (.mapping entries) (.mapping (layOver upper lower))

/-- The same, item by item. -/
inductive InlinesItems (document : Value) : List Value → List Value → Prop
  | nil : InlinesItems document [] []
  | cons {v w : Value} {rest inlined : List Value} :
    Inlines document v w → InlinesItems document rest inlined →
      InlinesItems document (v :: rest) (w :: inlined)

/-- The same, entry by entry. -/
inductive InlinesEntries (document : Value) :
    List (Scalar × Value) → List (Scalar × Value) → Prop
  | nil : InlinesEntries document [] []
  | cons {k : Scalar} {v w : Value} {rest inlined : List (Scalar × Value)} :
    Inlines document v w → InlinesEntries document rest inlined →
      InlinesEntries document ((k, v) :: rest) ((k, w) :: inlined)

end

variable {document : Value}

/-! ## §2 It is unique -/

/-- A mapping stands for one reference at most, and that names one value at most. -/
theorem named_unique {entries : List (Scalar × Value)} {r r' : String} {v v' : Value}
    (hr : reference? entries = some r) (hv : named? document r = some v)
    (hr' : reference? entries = some r') (hv' : named? document r' = some v') : v = v' := by
  rw [hr] at hr'
  cases hr'
  rw [hv] at hv'
  exact Option.some.inj hv'

theorem not_reference {entries : List (Scalar × Value)} {r : String} {P : Prop}
    (hn : reference? entries = none) (hr : reference? entries = some r) : P := by
  rw [hn] at hr
  cases hr

mutual

theorem Inlines.unique : ∀ {v w w' : Value}, Inlines document v w → Inlines document v w' → w = w'
  | _, _, _, .scalar _, .scalar _ => rfl
  | _, _, _, .sequence h, .sequence h' => by rw [h.unique h']
  | _, _, _, .mapping _ h, .mapping _ h' => by rw [h.unique h']
  | _, _, _, .mapping hn _, .named hr _ _ _ => not_reference hn hr
  | _, _, _, .mapping hn _, .overlaid hr _ _ _ _ => not_reference hn hr
  | _, _, _, .named hr _ _ _, .mapping hn _ => not_reference hn hr
  | _, _, _, .overlaid hr _ _ _ _, .mapping hn _ => not_reference hn hr
  | _, _, _, .named hr hv h _, .named hr' hv' h' _ => by
    cases named_unique hr hv hr' hv'
    exact h.unique h'
  | _, _, _, .named hr hv h hb, .overlaid hr' hv' h' hb' _ => by
    cases named_unique hr hv hr' hv'
    cases h.unique h'
    exact (hb.elim hb' fun hne => hne _ rfl).elim
  | _, _, _, .overlaid hr hv h hb _, .named hr' hv' h' hb' => by
    cases named_unique hr hv hr' hv'
    cases h.unique h'
    exact (hb'.elim hb fun hne => hne _ rfl).elim
  | _, _, _, .overlaid hr hv h _ hu, .overlaid hr' hv' h' _ hu' => by
    cases named_unique hr hv hr' hv'
    cases h.unique h'
    rw [hu.unique hu']

theorem InlinesItems.unique : ∀ {items w w' : List Value},
    InlinesItems document items w → InlinesItems document items w' → w = w'
  | _, _, _, .nil, .nil => rfl
  | _, _, _, .cons h hr, .cons h' hr' => by rw [h.unique h', hr.unique hr']

theorem InlinesEntries.unique : ∀ {entries w w' : List (Scalar × Value)},
    InlinesEntries document entries w → InlinesEntries document entries w' → w = w'
  | _, _, _, .nil, .nil => rfl
  | _, _, _, .cons h hr, .cons h' hr' => by rw [h.unique h', hr.unique hr']

end

theorem InlinesEntries.isEmpty_ne {entries inlined : List (Scalar × Value)}
    (h : InlinesEntries document entries inlined) (hne : entries ≠ []) :
    ¬inlined.isEmpty = true := by
  cases h with
  | nil => exact absurd rfl hne
  | cons _ _ => simp

/-! ## §3 References met -/

/-- The reference is met in inlining a value. The entries beside a reference are inlined only over a
mapping. -/
inductive Meets (document : Value) : Value → String → Prop
  | item {items : List Value} {v : Value} {reference : String} :
    v ∈ items → Meets document v reference → Meets document (.sequence items) reference
  | entry {entries : List (Scalar × Value)} {e : Scalar × Value} {reference : String} :
    reference? entries = none → e ∈ entries → Meets document e.2 reference →
      Meets document (.mapping entries) reference
  | reference {entries : List (Scalar × Value)} {reference : String} :
    reference? entries = some reference → Meets document (.mapping entries) reference
  | beside {entries lower : List (Scalar × Value)} {e : Scalar × Value} {v : Value}
      {named reference : String} :
    reference? entries = some named → named? document named = some v →
      Inlines document v (.mapping lower) → e ∈ besides entries → Meets document e.2 reference →
      Meets document (.mapping entries) reference

/-- Inlining the first value leads on to the second, which a reference met on the way names. -/
def Leads (document v u : Value) : Prop :=
  ∃ reference, Meets document v reference ∧ named? document reference = some u

/-- What is met stands in the value. -/
theorem Meets.mem_references {v : Value} {reference : String} (h : Meets document v reference) :
    reference ∈ references v := by
  induction h with
  | item hv _ ih => exact references_subset_of_mem hv ih
  | entry _ he _ ih => exact List.mem_append_right _ (references_subset_of_entry he ih)
  | reference hr => exact List.mem_append_left _ (Option.mem_toList.mpr hr)
  | beside _ _ _ he _ ih =>
    exact List.mem_append_right _ (references_subset_of_entry (List.mem_filter.mp he).1 ih)

/-! ## §4 Chains of them -/

/-- What a met reference names has been inlined too, and no chain from there goes on for ever. -/
def Ends (document v : Value) : Prop :=
  ∀ reference, Meets document v reference → ∃ u w,
    named? document reference = some u ∧ Inlines document u w ∧
      Acc (fun b a => Leads document a b) u

theorem Ends.acc {v : Value} (h : Ends document v) : Acc (fun b a => Leads document a b) v := by
  refine Acc.intro v fun u hu => ?_
  obtain ⟨reference, hmeets, hnamed⟩ := hu
  obtain ⟨u', w, hnamed', -, hacc⟩ := h reference hmeets
  rw [hnamed] at hnamed'
  cases hnamed'
  exact hacc

theorem ends_of_named {entries : List (Scalar × Value)} {reference : String} {v w : Value}
    (hr : reference? entries = some reference) (hv : named? document reference = some v)
    (hw : Inlines document v w) (ih : Ends document v)
    (hb : ∀ lower, w = .mapping lower → ∀ e ∈ besides entries, Ends document e.2) :
    Ends document (.mapping entries) := by
  intro x hx
  cases hx with
  | entry hn _ _ => exact not_reference hn hr
  | reference hr' =>
    rw [hr] at hr'
    cases hr'
    exact ⟨v, w, hv, hw, ih.acc⟩
  | beside hr' hv' hlower he hx =>
    cases named_unique hr hv hr' hv'
    exact hb _ (hw.unique hlower) _ he x hx

mutual

/-- What has been inlined has no endless chain. -/
theorem Inlines.ends : ∀ {v w : Value}, Inlines document v w → Ends document v
  | _, _, .scalar _ => fun _ hx => nomatch hx
  | _, _, .sequence h => fun x hx => by
    have ih := h.ends
    cases hx with
    | item hv hx => exact ih _ hv x hx
  | _, _, .mapping hn h => fun x hx => by
    have ih := h.ends
    cases hx with
    | entry _ he hx => exact ih _ he x hx
    | reference hr => exact not_reference hn hr
    | beside hr _ _ _ _ => exact not_reference hn hr
  | _, _, .named hr hv h hb => by
    refine ends_of_named hr hv h h.ends fun lower hl e he => ?_
    rcases hb with hb | hb
    · rw [hb] at he
      cases he
    · exact absurd hl (hb lower)
  | _, _, .overlaid hr hv h _ hu =>
    ends_of_named hr hv h h.ends fun _ _ e he => hu.ends e he

theorem InlinesItems.ends : ∀ {items inlined : List Value}, InlinesItems document items inlined →
    ∀ v ∈ items, Ends document v
  | _, _, .nil, _, h => nomatch h
  | _, _, .cons h hr, v, hv => by
    have ih := h.ends
    rcases List.mem_cons.mp hv with rfl | hv
    · exact ih
    · exact hr.ends v hv

theorem InlinesEntries.ends : ∀ {entries inlined : List (Scalar × Value)},
    InlinesEntries document entries inlined → ∀ e ∈ entries, Ends document e.2
  | _, _, .nil, _, h => nomatch h
  | _, _, .cons h hr, e, he => by
    have ih := h.ends
    rcases List.mem_cons.mp he with rfl | he
    · exact ih
    · exact hr.ends e he

end

mutual

/-- A value of which every met reference names something that can be inlined can be inlined. -/
theorem exists_inlines : ∀ {v : Value}, v.every (isOwnPart document) = true →
    (∀ reference, Meets document v reference →
      ∃ u w, named? document reference = some u ∧ Inlines document u w) →
    ∃ w, Inlines document v w
  | .scalar s, _, _ => ⟨_, .scalar s⟩
  | .sequence items, hv, h => by
    simp only [Value.every, Bool.and_eq_true] at hv
    obtain ⟨inlined, hi⟩ := exists_inlinesItems hv.2 fun v hv r hr => h r (.item hv hr)
    exact ⟨_, .sequence hi⟩
  | .mapping entries, hv, h => by
    simp only [Value.every, Bool.and_eq_true] at hv
    cases hr : reference? entries with
    | none =>
      obtain ⟨inlined, hi⟩ := exists_inlinesEntries (fun _ => true) hv.2
        fun e he _ r hx => h r (.entry hr he hx)
      rw [List.filter_eq_self.mpr fun _ _ => rfl] at hi
      exact ⟨_, .mapping hr hi⟩
    | some reference =>
      obtain ⟨u, w, hu, hw⟩ := h reference (.reference hr)
      by_cases hb : besides entries = [] ∨ ∀ lower, w ≠ .mapping lower
      · exact ⟨w, .named hr hu hw hb⟩
      · obtain ⟨hne, hl⟩ := not_or.mp hb
        obtain ⟨lower, rfl⟩ := Classical.not_forall_not.mp hl
        obtain ⟨upper, hi⟩ := exists_inlinesEntries (fun e => !referenceKey.same e.1) hv.2
          fun e he hs r hx => h r (.beside hr hu hw (List.mem_filter.mpr ⟨he, hs⟩) hx)
        exact ⟨_, .overlaid hr hu hw hne hi⟩
  | .pair _ _, hv, _ => nomatch hv
  | .set _, hv, _ => nomatch hv
  | .looped _ _, hv, _ => nomatch hv

theorem exists_inlinesItems : ∀ {items : List Value},
    Value.everyItem (isOwnPart document) items = true →
    (∀ v ∈ items, ∀ reference, Meets document v reference →
      ∃ u w, named? document reference = some u ∧ Inlines document u w) →
    ∃ inlined, InlinesItems document items inlined
  | [], _, _ => ⟨_, .nil⟩
  | v :: rest, hv, h => by
    simp only [Value.everyItem, Bool.and_eq_true] at hv
    obtain ⟨w, hw⟩ := exists_inlines hv.1 (h v (List.mem_cons_self ..))
    obtain ⟨inlined, hi⟩ := exists_inlinesItems hv.2 fun u hu => h u (List.mem_cons_of_mem _ hu)
    exact ⟨_, .cons hw hi⟩

theorem exists_inlinesEntries (keep : Scalar × Value → Bool) :
    ∀ {entries : List (Scalar × Value)},
    Value.everyEntry (isOwnPart document) entries = true →
    (∀ e ∈ entries, keep e = true → ∀ reference, Meets document e.2 reference →
      ∃ u w, named? document reference = some u ∧ Inlines document u w) →
    ∃ inlined, InlinesEntries document (entries.filter keep) inlined
  | [], _, _ => ⟨_, .nil⟩
  | (k, v) :: rest, hv, h => by
    simp only [Value.everyEntry, Bool.and_eq_true] at hv
    obtain ⟨inlined, hi⟩ := exists_inlinesEntries keep hv.2
      fun e he => h e (List.mem_cons_of_mem _ he)
    by_cases hk : keep (k, v) = true
    · obtain ⟨w, hw⟩ := exists_inlines hv.1 (h (k, v) (List.mem_cons_self ..) hk)
      rw [List.filter_cons_of_pos hk]
      exact ⟨_, .cons hw hi⟩
    · rw [List.filter_cons_of_neg hk]
      exact ⟨_, hi⟩

end

/-- A part of a self-contained document can be inlined exactly when no chain of met references goes
on from it for ever. -/
theorem exists_inlines_iff_acc (hd : selfContained document = true) {v : Value}
    (hv : v.every (isOwnPart document) = true) :
    (∃ w, Inlines document v w) ↔ Acc (fun b a => Leads document a b) v := by
  constructor
  · rintro ⟨w, h⟩
    exact h.ends.acc
  · intro h
    induction h with
    | intro v _ ih =>
      refine exists_inlines hv fun reference hm => ?_
      have hown := isOwnReference_of_mem hv hm.mem_references
      simp only [isOwnReference, Bool.and_eq_true] at hown
      obtain ⟨u, hu⟩ := Option.isSome_iff_exists.mp hown.2
      obtain ⟨w, hw⟩ := ih u ⟨reference, hm, hu⟩ (named?_of_selfContained hd hu).1
      exact ⟨u, w, hu, hw⟩

/-! ## §5 Values without references -/

mutual

/-- A value without references is left as it is. -/
theorem inlines_of_references_nil : ∀ {v : Value}, v.every (isOwnPart document) = true →
    references v = [] → Inlines document v v
  | .scalar s, _, _ => .scalar s
  | .sequence items, hv, h => by
    simp only [Value.every, Bool.and_eq_true] at hv
    exact .sequence (inlinesItems_of_references_nil hv.2 h)
  | .mapping entries, hv, h => by
    simp only [Value.every, Bool.and_eq_true] at hv
    obtain ⟨hr, he⟩ := List.append_eq_nil_iff.mp h
    exact .mapping (Option.toList_eq_nil_iff.mp hr) (inlinesEntries_of_references_nil hv.2 he)
  | .pair _ _, hv, _ => nomatch hv
  | .set _, hv, _ => nomatch hv
  | .looped _ _, hv, _ => nomatch hv

theorem inlinesItems_of_references_nil : ∀ {items : List Value},
    Value.everyItem (isOwnPart document) items = true → referencesOfItems items = [] →
    InlinesItems document items items
  | [], _, _ => .nil
  | v :: rest, hv, h => by
    simp only [Value.everyItem, Bool.and_eq_true] at hv
    obtain ⟨hfirst, hrest⟩ := List.append_eq_nil_iff.mp h
    exact .cons (inlines_of_references_nil hv.1 hfirst)
      (inlinesItems_of_references_nil hv.2 hrest)

theorem inlinesEntries_of_references_nil : ∀ {entries : List (Scalar × Value)},
    Value.everyEntry (isOwnPart document) entries = true → referencesOfEntries entries = [] →
    InlinesEntries document entries entries
  | [], _, _ => .nil
  | (k, v) :: rest, hv, h => by
    simp only [Value.everyEntry, Bool.and_eq_true] at hv
    obtain ⟨hfirst, hrest⟩ := List.append_eq_nil_iff.mp h
    exact .cons (inlines_of_references_nil hv.1 hfirst)
      (inlinesEntries_of_references_nil hv.2 hrest)

end

/-! ## §6 The walk that carries references out -/

variable {follow : Position → String → Except Failure Value}

mutual

/-- If following a reference gives what it names, inlined, then so does the walk. -/
theorem inlines_of_inline (p : Position) : ∀ {v w : Value}, v.every (isOwnPart document) = true →
    (∀ q r w, r ∈ references v → follow q r = .ok w →
      ∃ u, named? document r = some u ∧ Inlines document u w) →
    inline follow p v = .ok w → Inlines document v w
  | .scalar s, _, _, _, h => by
    cases h
    exact .scalar s
  | .sequence items, _, hv, hf, h => by
    simp only [Value.every, Bool.and_eq_true] at hv
    obtain ⟨inlined, hi, he⟩ := bind_eq_ok.mp h
    cases he
    exact .sequence (inlinesItems_of_inlineItems p 0 hv.2 hf hi)
  | .mapping entries, w, hv, hf, h => by
    simp only [Value.every, Bool.and_eq_true] at hv
    have hin : ∀ q r w, r ∈ referencesOfEntries entries → follow q r = .ok w →
        ∃ u, named? document r = some u ∧ Inlines document u w :=
      fun q r w hr => hf q r w (List.mem_append_right _ hr)
    rw [inline] at h
    split at h
    · rename_i hn
      obtain ⟨inlined, hi, he⟩ := bind_eq_ok.mp h
      cases he
      exact .mapping hn (inlinesEntries_of_inlineEntries p 1 hv.2 hin hi)
    · rename_i reference hr
      obtain ⟨named, hnamed, h⟩ := bind_eq_ok.mp h
      obtain ⟨u, hu, hw⟩ := hf p reference named
        (List.mem_append_left _ (Option.mem_toList.mpr hr)) hnamed
      split at h
      · rename_i lower
        obtain ⟨upper, hi, he⟩ := bind_eq_ok.mp h
        cases he
        have hb := inlinesEntries_of_inlineSiblings p 1 hv.2 hin hi
        cases hbesides : besides entries with
        | nil =>
          rw [hbesides] at hb
          cases hb
          exact .named hr hu hw (Or.inl hbesides)
        | cons e rest =>
          have hne : besides entries ≠ [] := by simp [hbesides]
          rw [if_neg (hb.isEmpty_ne hne)]
          exact .overlaid hr hu hw hne hb
      · rename_i hne
        cases h
        exact .named hr hu hw (Or.inr hne)
  | .pair _ _, _, hv, _, _ => nomatch hv
  | .set _, _, hv, _, _ => nomatch hv
  | .looped _ _, _, hv, _, _ => nomatch hv
termination_by structural v => v

theorem inlinesItems_of_inlineItems (p : Position) (place : Nat) : ∀ {items inlined : List Value},
    Value.everyItem (isOwnPart document) items = true →
    (∀ q r w, r ∈ referencesOfItems items → follow q r = .ok w →
      ∃ u, named? document r = some u ∧ Inlines document u w) →
    inlineItems follow p place items = .ok inlined → InlinesItems document items inlined
  | [], _, _, _, h => by
    cases h
    exact .nil
  | v :: rest, _, hv, hf, h => by
    simp only [Value.everyItem, Bool.and_eq_true] at hv
    obtain ⟨w, hw, h⟩ := bind_eq_ok.mp h
    obtain ⟨inlined, hi, he⟩ := bind_eq_ok.mp h
    cases he
    exact .cons
      (inlines_of_inline _ hv.1 (fun q r w hr => hf q r w (List.mem_append_left _ hr)) hw)
      (inlinesItems_of_inlineItems p _ hv.2
        (fun q r w hr => hf q r w (List.mem_append_right _ hr)) hi)
termination_by structural items => items

theorem inlinesEntries_of_inlineEntries (p : Position) (place : Nat) :
    ∀ {entries inlined : List (Scalar × Value)},
    Value.everyEntry (isOwnPart document) entries = true →
    (∀ q r w, r ∈ referencesOfEntries entries → follow q r = .ok w →
      ∃ u, named? document r = some u ∧ Inlines document u w) →
    inlineEntries follow p place entries = .ok inlined → InlinesEntries document entries inlined
  | [], _, _, _, h => by
    cases h
    exact .nil
  | (k, v) :: rest, _, hv, hf, h => by
    simp only [Value.everyEntry, Bool.and_eq_true] at hv
    obtain ⟨w, hw, h⟩ := bind_eq_ok.mp h
    obtain ⟨inlined, hi, he⟩ := bind_eq_ok.mp h
    cases he
    exact .cons
      (inlines_of_inline _ hv.1 (fun q r w hr => hf q r w (List.mem_append_left _ hr)) hw)
      (inlinesEntries_of_inlineEntries p _ hv.2
        (fun q r w hr => hf q r w (List.mem_append_right _ hr)) hi)
termination_by structural entries => entries

theorem inlinesEntries_of_inlineSiblings (p : Position) (place : Nat) :
    ∀ {entries inlined : List (Scalar × Value)},
    Value.everyEntry (isOwnPart document) entries = true →
    (∀ q r w, r ∈ referencesOfEntries entries → follow q r = .ok w →
      ∃ u, named? document r = some u ∧ Inlines document u w) →
    inlineSiblings follow p place entries = .ok inlined →
      InlinesEntries document (besides entries) inlined
  | [], _, _, _, h => by
    cases h
    exact .nil
  | (k, v) :: rest, _, hv, hf, h => by
    simp only [Value.everyEntry, Bool.and_eq_true] at hv
    have hrest : ∀ q r w, r ∈ referencesOfEntries rest → follow q r = .ok w →
        ∃ u, named? document r = some u ∧ Inlines document u w :=
      fun q r w hr => hf q r w (List.mem_append_right _ hr)
    rw [inlineSiblings] at h
    split at h
    · rename_i hk
      rw [besides, List.filter_cons_of_neg (by simp [hk])]
      exact inlinesEntries_of_inlineSiblings p _ hv.2 hrest h
    · rename_i hk
      obtain ⟨w, hw, h⟩ := bind_eq_ok.mp h
      obtain ⟨inlined, hi, he⟩ := bind_eq_ok.mp h
      cases he
      rw [besides, List.filter_cons_of_pos (by simp [hk])]
      exact .cons
        (inlines_of_inline _ hv.1 (fun q r w hr => hf q r w (List.mem_append_left _ hr)) hw)
        (inlinesEntries_of_inlineSiblings p _ hv.2 hrest hi)
termination_by structural entries => entries

end

/-- The value of one entry is walked to that of another, wherever it stands. -/
def Walked (follow : Position → String → Except Failure Value) (e e' : Scalar × Value) : Prop :=
  e.1 = e'.1 ∧ ∀ p, inline follow p e.2 = .ok e'.2

theorem inlineEntries_of_walked (p : Position) : ∀ {entries inlined : List (Scalar × Value)}
    (place : Nat), List.Forall₂ (Walked follow) entries inlined →
      inlineEntries follow p place entries = .ok inlined
  | _, _, _, .nil => rfl
  | (k, v) :: _, (_, w) :: _, place, .cons ⟨rfl, hw⟩ hr => by
    rw [inlineEntries, hw, ok_bind, inlineEntries_of_walked p (place + 1) hr]
    rfl

theorem inlineSiblings_of_walked (p : Position) : ∀ {entries inlined : List (Scalar × Value)}
    (place : Nat), List.Forall₂ (Walked follow) (besides entries) inlined →
      inlineSiblings follow p place entries = .ok inlined
  | [], _, _, .nil => rfl
  | (k, v) :: rest, inlined, place, h => by
    rw [inlineSiblings]
    split
    · rename_i hk
      rw [besides, List.filter_cons_of_neg (by simp [hk])] at h
      exact inlineSiblings_of_walked p (place + 1) h
    · rename_i hk
      rw [besides, List.filter_cons_of_pos (by simp [hk])] at h
      cases h with
      | cons hw hr =>
        obtain ⟨rfl, hw⟩ := hw
        rw [hw, ok_bind, inlineSiblings_of_walked p (place + 1) hr]
        rfl

mutual

/-- If following the references that are met gives what they name, inlined, then so does the walk,
wherever it starts. -/
theorem Inlines.inline_eq : ∀ {v w : Value}, Inlines document v w →
    (∀ q r u w, Meets document v r → named? document r = some u → Inlines document u w →
      follow q r = .ok w) →
    ∀ p, inline follow p v = .ok w
  | _, _, .scalar _, _, _ => rfl
  | _, _, .sequence h, hf, p => by
    rw [inline, h.inlineItems_eq (fun v hv q r u w hm => hf q r u w (.item hv hm)) p 0]
    rfl
  | _, _, .mapping hn h, hf, p => by
    have hw := h.walked fun e he q r u w hm => hf q r u w (.entry hn he hm)
    rw [inline, hn]
    simp only [inlineEntries_of_walked p 1 hw]
    rfl
  | .mapping entries, _, .named hr hv h hb, hf, p => by
    rw [inline, hr]
    simp only [hf p _ _ _ (.reference hr) hv h, ok_bind]
    split
    · rename_i lower
      rcases hb with hb | hb
      · have hw : List.Forall₂ (Walked follow) (besides entries) [] := by
          rw [hb]
          exact .nil
        rw [inlineSiblings_of_walked p 1 hw]
        rfl
      · exact absurd rfl (hb lower)
    · rfl
  | _, _, .overlaid hr hv h hne hu, hf, p => by
    have hw := hu.walked fun e he q r u w hm => hf q r u w (.beside hr hv h he hm)
    rw [inline, hr]
    simp only [hf p _ _ _ (.reference hr) hv h, ok_bind, inlineSiblings_of_walked p 1 hw]
    rw [if_neg (hu.isEmpty_ne hne)]
    rfl

theorem InlinesItems.inlineItems_eq : ∀ {items inlined : List Value},
    InlinesItems document items inlined →
    (∀ v ∈ items, ∀ q r u w, Meets document v r → named? document r = some u →
      Inlines document u w → follow q r = .ok w) →
    ∀ p place, inlineItems follow p place items = .ok inlined
  | _, _, .nil, _, _, _ => rfl
  | _, _, .cons h hr, hf, p, place => by
    rw [inlineItems, h.inline_eq (hf _ (List.mem_cons_self ..)), ok_bind,
      hr.inlineItems_eq fun v hv => hf v (List.mem_cons_of_mem _ hv)]
    rfl

theorem InlinesEntries.walked : ∀ {entries inlined : List (Scalar × Value)},
    InlinesEntries document entries inlined →
    (∀ e ∈ entries, ∀ q r u w, Meets document e.2 r → named? document r = some u →
      Inlines document u w → follow q r = .ok w) →
    List.Forall₂ (Walked follow) entries inlined
  | _, _, .nil, _ => .nil
  | _, _, .cons h hr, hf =>
    .cons ⟨rfl, h.inline_eq (hf _ (List.mem_cons_self ..))⟩
      (hr.walked fun e he => hf e (List.mem_cons_of_mem _ he))

end

end SchemaDoc.Reference
