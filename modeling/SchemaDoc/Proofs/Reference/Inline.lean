/-
SchemaDoc.Proofs.Reference.Inline — the walk that carries references out.

`inline` knows nothing about documents and files: it is given how a reference
is followed. So what holds of a whole document follows from what holds of one
reference, once for every way of following.

§1 failures renamed, §2 references in a value, §3 answers that go alike,
§4 following references at a place.
-/
import SchemaDoc.Proofs.Failing
import SchemaDoc.Proofs.Value.Every
import SchemaDoc.Reference.Expand

namespace SchemaDoc.Reference

variable {follow follow' : Position → String → Except Failure Value}

/-! ## §1 Failures renamed -/

mutual

/-- Failures renamed where references are followed are renamed in the whole, if what does not end
keeps its name. -/
theorem inline_mapError {g : Failure → Failure} (hg : g (.fault .tooDeep) = .fault .tooDeep)
    (h : ∀ p r, follow' p r = (follow p r).mapError g) (p : Position) :
    ∀ v : Value, inline follow' p v = (inline follow p v).mapError g
  | .sequence items => by
    simp only [inline, inlineItems_mapError hg h p 0 items, mapError_bind, pure_eq_ok, mapError_ok]
  | .mapping entries => by
    simp only [inline]
    split
    · simp only [inlineEntries_mapError hg h p 1 entries, mapError_bind, pure_eq_ok, mapError_ok]
    · rw [h, mapError_bind]
      congr 1
      funext named
      split
      · simp only [inlineSiblings_mapError hg h p 1 entries, mapError_bind, pure_eq_ok,
          mapError_ok]
      · rfl
  | .looped _ body => by
    rw [inline, inline, inline_mapError hg h p body]
    unfold unwind
    split
    · rw [mapError_error, hg]
    · rfl
    · rfl
  | .scalar _ => by simp only [inline, mapError_ok]
  | .pair _ _ => by simp only [inline, mapError_ok]
  | .set _ => by simp only [inline, mapError_ok]

theorem inlineItems_mapError {g : Failure → Failure} (hg : g (.fault .tooDeep) = .fault .tooDeep)
    (h : ∀ p r, follow' p r = (follow p r).mapError g) (p : Position) (place : Nat) :
    ∀ items : List Value,
      inlineItems follow' p place items = (inlineItems follow p place items).mapError g
  | [] => rfl
  | v :: rest => by
    simp only [inlineItems, inline_mapError hg h (place :: p) v,
      inlineItems_mapError hg h p (place + 1) rest, mapError_bind, pure_eq_ok, mapError_ok]

theorem inlineEntries_mapError {g : Failure → Failure} (hg : g (.fault .tooDeep) = .fault .tooDeep)
    (h : ∀ p r, follow' p r = (follow p r).mapError g) (p : Position) (place : Nat) :
    ∀ entries : List (Scalar × Value),
      inlineEntries follow' p place entries = (inlineEntries follow p place entries).mapError g
  | [] => rfl
  | (k, v) :: rest => by
    simp only [inlineEntries, inline_mapError hg h (place :: p) v,
      inlineEntries_mapError hg h p (place + 1) rest, mapError_bind, pure_eq_ok, mapError_ok]

theorem inlineSiblings_mapError {g : Failure → Failure} (hg : g (.fault .tooDeep) = .fault .tooDeep)
    (h : ∀ p r, follow' p r = (follow p r).mapError g) (p : Position) (place : Nat) :
    ∀ entries : List (Scalar × Value),
      inlineSiblings follow' p place entries = (inlineSiblings follow p place entries).mapError g
  | [] => rfl
  | (k, v) :: rest => by
    simp only [inlineSiblings]
    split
    · exact inlineSiblings_mapError hg h p (place + 1) rest
    · simp only [inline_mapError hg h (place :: p) v,
        inlineSiblings_mapError hg h p (place + 1) rest, mapError_bind, pure_eq_ok, mapError_ok]

end

/-! ## §2 References in a value -/

mutual

/-- The references that mappings in a value stand for. -/
def references : Value → List String
  | .sequence items => referencesOfItems items
  | .mapping entries => (reference? entries).toList ++ referencesOfEntries entries
  | .looped _ body => references body
  | _ => []

/-- The references in items. -/
def referencesOfItems : List Value → List String
  | [] => []
  | v :: rest => references v ++ referencesOfItems rest

/-- The references in the values of entries. -/
def referencesOfEntries : List (Scalar × Value) → List String
  | [] => []
  | (_, v) :: rest => references v ++ referencesOfEntries rest

end

theorem references_subset_of_mem {v : Value} : ∀ {items : List Value}, v ∈ items →
    references v ⊆ referencesOfItems items
  | [], h => nomatch h
  | w :: rest, h => by
    rw [referencesOfItems]
    rcases List.mem_cons.mp h with rfl | h
    · exact List.subset_append_left ..
    · exact List.subset_append_of_subset_right _ (references_subset_of_mem h)

theorem references_subset_of_entry {e : Scalar × Value} : ∀ {entries : List (Scalar × Value)},
    e ∈ entries → references e.2 ⊆ referencesOfEntries entries
  | [], h => nomatch h
  | (k, w) :: rest, h => by
    rw [referencesOfEntries]
    rcases List.mem_cons.mp h with rfl | h
    · exact List.subset_append_left ..
    · exact List.subset_append_of_subset_right _ (references_subset_of_entry h)

variable {p : Value → Bool} {q : String → Bool}

/-- A condition on values asks something of the reference that a mapping stands for. -/
def AsksReference (p : Value → Bool) (q : String → Bool) : Prop :=
  ∀ entries, p (.mapping entries) = true → (reference? entries).all q = true

mutual

/-- What is so of the reference of every part is so of every reference in a value. -/
theorem of_mem_references (hpq : AsksReference p q) {reference : String} : ∀ {v : Value},
    v.every p = true → reference ∈ references v → q reference = true
  | .sequence items, hv, h => by
    simp only [Value.every, Bool.and_eq_true] at hv
    exact of_mem_references_items hpq hv.2 h
  | .mapping entries, hv, h => by
    simp only [Value.every, Bool.and_eq_true] at hv
    rcases List.mem_append.mp h with h | h
    · rw [Option.mem_toList] at h
      have hall := hpq entries hv.1
      rw [h] at hall
      exact hall
    · exact of_mem_references_entries hpq hv.2 h
  | .looped _ body, hv, h => by
    simp only [Value.every, Bool.and_eq_true] at hv
    exact of_mem_references hpq (v := body) hv.2 h
  | .scalar _, _, h => nomatch h
  | .pair _ _, _, h => nomatch h
  | .set _, _, h => nomatch h

theorem of_mem_references_items (hpq : AsksReference p q) {reference : String} :
    ∀ {items : List Value}, Value.everyItem p items = true →
      reference ∈ referencesOfItems items → q reference = true
  | [], _, h => nomatch h
  | v :: rest, hv, h => by
    simp only [Value.everyItem, Bool.and_eq_true] at hv
    rcases List.mem_append.mp h with h | h
    · exact of_mem_references hpq hv.1 h
    · exact of_mem_references_items hpq hv.2 h

theorem of_mem_references_entries (hpq : AsksReference p q) {reference : String} :
    ∀ {entries : List (Scalar × Value)}, Value.everyEntry p entries = true →
      reference ∈ referencesOfEntries entries → q reference = true
  | [], _, h => nomatch h
  | (_, v) :: rest, hv, h => by
    simp only [Value.everyEntry, Bool.and_eq_true] at hv
    rcases List.mem_append.mp h with h | h
    · exact of_mem_references hpq hv.1 h
    · exact of_mem_references_entries hpq hv.2 h

end

/-! ## §3 Answers that go alike -/

/-- Two ways of following go alike on some references. -/
abbrev AlikeOn (S : Failure → Failure → Prop)
    (follow follow' : Position → String → Except Failure Value) (refs : List String) : Prop :=
  ∀ p, ∀ r ∈ refs, Parallel Eq S (follow p r) (follow' p r)

variable {S : Failure → Failure → Prop}

/-- What is made of equal results is equal. -/
theorem parallel_make {α β : Type} (make : α → β) {x x' : Except Failure α}
    (h : Parallel Eq S x x') :
    Parallel Eq S (x >>= fun a => pure (make a)) (x' >>= fun a => pure (make a)) :=
  h.bind fun _ _ he => he ▸ .ok rfl

mutual

/-- **Where references are followed alike, the walk goes alike**, if to go on without end is alike. -/
theorem inline_parallel (hS : S (.fault .tooDeep) (.fault .tooDeep)) (p : Position) :
    ∀ {v : Value}, AlikeOn S follow follow' (references v) →
    Parallel Eq S (inline follow p v) (inline follow' p v)
  | .sequence items, h => by
    rw [inline, inline]
    exact parallel_make _ (inlineItems_parallel hS p 0 h)
  | .mapping entries, h => by
    have hentries : AlikeOn S follow follow' (referencesOfEntries entries) := fun q r hr =>
      h q r (List.mem_append_right _ hr)
    rw [inline, inline]
    split
    · exact parallel_make _ (inlineEntries_parallel hS p 1 hentries)
    · rename_i reference href
      refine (h p reference (List.mem_append_left _ (Option.mem_toList.mpr href))).bind ?_
      rintro named _ rfl
      split
      · exact parallel_make _ (inlineSiblings_parallel hS p 1 hentries)
      · exact .ok rfl
  | .looped _ body, h => by
    rw [inline, inline]
    unfold unwind
    split
    · exact .error hS
    · exact .ok rfl
    · exact inline_parallel hS (v := body) p h
  | .scalar _, _ => .ok rfl
  | .pair _ _, _ => .ok rfl
  | .set _, _ => .ok rfl

theorem inlineItems_parallel (hS : S (.fault .tooDeep) (.fault .tooDeep)) (p : Position)
    (place : Nat) : ∀ {items : List Value},
    AlikeOn S follow follow' (referencesOfItems items) →
      Parallel Eq S (inlineItems follow p place items) (inlineItems follow' p place items)
  | [], _ => .ok rfl
  | v :: rest, h => by
    rw [inlineItems, inlineItems]
    have hfirst := inline_parallel hS (v := v) (place :: p) fun q r hr =>
      h q r (List.mem_append_left _ hr)
    refine hfirst.bind ?_
    rintro _ _ rfl
    exact parallel_make _ (inlineItems_parallel hS p (place + 1) fun q r hr =>
      h q r (List.mem_append_right _ hr))

theorem inlineEntries_parallel (hS : S (.fault .tooDeep) (.fault .tooDeep)) (p : Position)
    (place : Nat) :
    ∀ {entries : List (Scalar × Value)}, AlikeOn S follow follow' (referencesOfEntries entries) →
      Parallel Eq S (inlineEntries follow p place entries) (inlineEntries follow' p place entries)
  | [], _ => .ok rfl
  | (_, v) :: rest, h => by
    rw [inlineEntries, inlineEntries]
    have hfirst := inline_parallel hS (v := v) (place :: p) fun q r hr =>
      h q r (List.mem_append_left _ hr)
    refine hfirst.bind ?_
    rintro _ _ rfl
    exact parallel_make _ (inlineEntries_parallel hS p (place + 1) fun q r hr =>
      h q r (List.mem_append_right _ hr))

theorem inlineSiblings_parallel (hS : S (.fault .tooDeep) (.fault .tooDeep)) (p : Position)
    (place : Nat) :
    ∀ {entries : List (Scalar × Value)}, AlikeOn S follow follow' (referencesOfEntries entries) →
      Parallel Eq S (inlineSiblings follow p place entries) (inlineSiblings follow' p place entries)
  | [], _ => .ok rfl
  | (k, v) :: rest, h => by
    have hrest : AlikeOn S follow follow' (referencesOfEntries rest) := fun q r hr =>
      h q r (List.mem_append_right _ hr)
    rw [inlineSiblings, inlineSiblings]
    split
    · exact inlineSiblings_parallel hS p (place + 1) hrest
    · have hfirst := inline_parallel hS (v := v) (place :: p) fun q r hr =>
        h q r (List.mem_append_left _ hr)
      refine hfirst.bind ?_
      rintro _ _ rfl
      exact parallel_make _ (inlineSiblings_parallel hS p (place + 1) hrest)

end

/-! ## §4 Following references at a place -/

/-- What a reference at a place and a position stands for, as long as references lead on at most
`hops` times one after the other, this one included. -/
def followAt (disk : Disk) (earlier : Option String) :
    Nat → Place → Position → String → Except Failure Value
  | 0, _, _, _ => .error (.fault .tooDeep)
  | hops + 1, here, p, reference => do
    let (there, contents) ← here.lead disk earlier p reference
    expandAt disk earlier hops there (0 :: p) contents

theorem expandAt_eq_inline (disk : Disk) (earlier : Option String) (hops : Nat) (here : Place)
    (p : Position) (v : Value) :
    expandAt disk earlier hops here p v = inline (followAt disk earlier hops here) p v := by
  cases hops with
  | zero => rfl
  | succ hops => rfl

end SchemaDoc.Reference
