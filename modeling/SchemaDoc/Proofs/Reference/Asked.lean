/-
SchemaDoc.Proofs.Reference.Asked — the references that the walk asks for.

The walk asks for the references in a value one by one, and for none behind
one that cannot be followed, nor for those beside a reference to no mapping
(`asked`). What it makes of the value depends on the answers to these alone
(`inline_congr`), and it fails exactly as one of them fails, or since it comes
to where a value starts again that holds itself (`inline_eq_error`). Where more
is answered, no less is asked for (`Extends.asked_subset`). A walk that comes to
a value comes to the same elsewhere, where what it asked for is answered as it
was (`inline_carried`).

§1 what is asked, §2 failures, §3 values in which nothing starts again,
§4 other answers, §5 more answers, §6 other positions.
-/
import SchemaDoc.Proofs.Reference.Inline

namespace SchemaDoc.Reference

variable {follow follow' : Position → String → Except Failure Value}

/-! ## §1 What is asked -/

/-- What is asked behind a step: nothing if the step fails. -/
def askedAfter {α β : Type} (step : Except Failure α) (rest : List β) : List β :=
  match step with
  | .ok _ => rest
  | .error _ => []

/-- What is asked beside a reference: nothing unless it stands for a mapping. -/
def askedBeside {β : Type} (named : Except Failure Value) (rest : List β) : List β :=
  match named with
  | .ok (.mapping _) => rest
  | _ => []

mutual

/-- The references that the walk asks for in a value, with their positions. -/
def asked (follow : Position → String → Except Failure Value) (p : Position) :
    Value → List (Position × String)
  | .sequence items => askedInItems follow p 0 items
  | .mapping entries =>
    match reference? entries with
    | none => askedInEntries follow p 1 entries
    | some reference =>
      (p, reference) :: askedBeside (follow p reference) (askedInSiblings follow p 1 entries)
  | .looped _ body => asked follow p body
  | _ => []

/-- The references asked for in items. -/
def askedInItems (follow : Position → String → Except Failure Value) (p : Position)
    (place : Nat) : List Value → List (Position × String)
  | [] => []
  | v :: rest => asked follow (place :: p) v ++
      askedAfter (inline follow (place :: p) v) (askedInItems follow p (place + 1) rest)

/-- The references asked for in the values of entries. -/
def askedInEntries (follow : Position → String → Except Failure Value) (p : Position)
    (place : Nat) : List (Scalar × Value) → List (Position × String)
  | [] => []
  | (_, v) :: rest => asked follow (place :: p) v ++
      askedAfter (inline follow (place :: p) v) (askedInEntries follow p (place + 1) rest)

/-- The references asked for in the values of the entries beside a reference. -/
def askedInSiblings (follow : Position → String → Except Failure Value) (p : Position)
    (place : Nat) : List (Scalar × Value) → List (Position × String)
  | [] => []
  | (k, v) :: rest =>
    if referenceKey.same k then askedInSiblings follow p (place + 1) rest
    else asked follow (place :: p) v ++
      askedAfter (inline follow (place :: p) v) (askedInSiblings follow p (place + 1) rest)

end

theorem mem_askedAfter {α β : Type} {step : Except Failure α} {rest : List β} {b : β} :
    b ∈ askedAfter step rest ↔ (∃ a, step = .ok a) ∧ b ∈ rest := by
  cases step <;> simp [askedAfter]

theorem mem_askedBeside {β : Type} {named : Except Failure Value} {rest : List β} {b : β} :
    b ∈ askedBeside named rest ↔ (∃ lower, named = .ok (.mapping lower)) ∧ b ∈ rest := by
  unfold askedBeside
  split
  · simp
  · rename_i hne
    simp only [List.not_mem_nil, false_iff, not_and]
    exact fun h => absurd h.choose_spec (hne _)

mutual

/-- What is asked for is written in the value. -/
theorem mem_references_of_mem_asked {q : Position} {r : String} (p : Position) :
    ∀ {v : Value}, (q, r) ∈ asked follow p v → r ∈ references v
  | .sequence items, h => mem_references_of_mem_items p 0 h
  | .mapping entries, h => by
    rw [asked] at h
    rw [references]
    split at h
    · exact List.mem_append_right _ (mem_references_of_mem_entries p 1 h)
    · rename_i reference hr
      rcases List.mem_cons.mp h with h | h
      · cases h
        exact List.mem_append_left _ (Option.mem_toList.mpr hr)
      · exact List.mem_append_right _
          (mem_references_of_mem_siblings p 1 (mem_askedBeside.mp h).2)
  | .looped _ body, h => by
    rw [asked] at h
    exact mem_references_of_mem_asked (v := body) p h
  | .scalar _, h => nomatch h
  | .pair _ _, h => nomatch h
  | .set _, h => nomatch h

theorem mem_references_of_mem_items {q : Position} {r : String} (p : Position) (place : Nat) :
    ∀ {items : List Value}, (q, r) ∈ askedInItems follow p place items →
      r ∈ referencesOfItems items
  | [], h => nomatch h
  | v :: rest, h => by
    rcases List.mem_append.mp h with h | h
    · exact List.mem_append_left _ (mem_references_of_mem_asked (place :: p) h)
    · exact List.mem_append_right _
        (mem_references_of_mem_items p (place + 1) (mem_askedAfter.mp h).2)

theorem mem_references_of_mem_entries {q : Position} {r : String} (p : Position) (place : Nat) :
    ∀ {entries : List (Scalar × Value)}, (q, r) ∈ askedInEntries follow p place entries →
      r ∈ referencesOfEntries entries
  | [], h => nomatch h
  | (k, v) :: rest, h => by
    rcases List.mem_append.mp h with h | h
    · exact List.mem_append_left _ (mem_references_of_mem_asked (place :: p) h)
    · exact List.mem_append_right _
        (mem_references_of_mem_entries p (place + 1) (mem_askedAfter.mp h).2)

theorem mem_references_of_mem_siblings {q : Position} {r : String} (p : Position) (place : Nat) :
    ∀ {entries : List (Scalar × Value)}, (q, r) ∈ askedInSiblings follow p place entries →
      r ∈ referencesOfEntries entries
  | [], h => nomatch h
  | (k, v) :: rest, h => by
    rw [askedInSiblings] at h
    split at h
    · exact List.mem_append_right _ (mem_references_of_mem_siblings p (place + 1) h)
    · rcases List.mem_append.mp h with h | h
      · exact List.mem_append_left _ (mem_references_of_mem_asked (place :: p) h)
      · exact List.mem_append_right _
          (mem_references_of_mem_siblings p (place + 1) (mem_askedAfter.mp h).2)

end

/-! ## §2 Failures -/

/-- One of some references cannot be followed. -/
def Unanswered (follow : Position → String → Except Failure Value) (f : Failure)
    (refs : List (Position × String)) : Prop :=
  ∃ a ∈ refs, follow a.1 a.2 = .error f

theorem unanswered_cons {f : Failure} {q : Position} {r : String}
    {refs : List (Position × String)} :
    Unanswered follow f ((q, r) :: refs) ↔ follow q r = .error f ∨ Unanswered follow f refs := by
  simp only [Unanswered, List.mem_cons, exists_eq_or_imp]

theorem unanswered_append {f : Failure} {refs others : List (Position × String)} :
    Unanswered follow f (refs ++ others) ↔ Unanswered follow f refs ∨ Unanswered follow f others := by
  simp only [Unanswered, List.mem_append, or_and_right, exists_or]

theorem unanswered_after {α : Type} {f : Failure} {step : Except Failure α}
    {refs : List (Position × String)} : Unanswered follow f (askedAfter step refs) ↔
      ∃ a, step = .ok a ∧ Unanswered follow f refs := by
  cases step <;> simp [askedAfter, Unanswered]

mutual

/-- The walk comes to where a sequence or mapping that holds itself starts again. -/
def StartsAgain (follow : Position → String → Except Failure Value) (p : Position) : Value → Prop
  | .sequence items => StartsAgainInItems follow p 0 items
  | .mapping entries =>
    match reference? entries with
    | none => StartsAgainInEntries follow p 1 entries
    | some reference => (∃ lower, follow p reference = .ok (.mapping lower)) ∧
        StartsAgainInSiblings follow p 1 entries
  | .looped _ body => (∃ s, body = .scalar s) ∨ StartsAgain follow p body
  | _ => False

/-- It does so in one of some items. -/
def StartsAgainInItems (follow : Position → String → Except Failure Value) (p : Position)
    (place : Nat) : List Value → Prop
  | [] => False
  | v :: rest => StartsAgain follow (place :: p) v ∨
      (∃ w, inline follow (place :: p) v = .ok w) ∧ StartsAgainInItems follow p (place + 1) rest

/-- It does so in the value of one of some entries. -/
def StartsAgainInEntries (follow : Position → String → Except Failure Value) (p : Position)
    (place : Nat) : List (Scalar × Value) → Prop
  | [] => False
  | (_, v) :: rest => StartsAgain follow (place :: p) v ∨
      (∃ w, inline follow (place :: p) v = .ok w) ∧ StartsAgainInEntries follow p (place + 1) rest

/-- It does so in the value of one of the entries beside a reference. -/
def StartsAgainInSiblings (follow : Position → String → Except Failure Value) (p : Position)
    (place : Nat) : List (Scalar × Value) → Prop
  | [] => False
  | (k, v) :: rest =>
    if referenceKey.same k then StartsAgainInSiblings follow p (place + 1) rest
    else StartsAgain follow (place :: p) v ∨
      (∃ w, inline follow (place :: p) v = .ok w) ∧ StartsAgainInSiblings follow p (place + 1) rest

end

/-- The ways in which a walk fails: one of the references asked for cannot be followed, or the walk does
not end since a value starts again. -/
def Fails (follow : Position → String → Except Failure Value) (f : Failure)
    (refs : List (Position × String)) (again : Prop) : Prop :=
  Unanswered follow f refs ∨ f = .fault .tooDeep ∧ again

theorem not_fails_nil {f : Failure} : ¬Fails follow f [] False := by simp [Fails, Unanswered]

/-- One step of the walk and those behind it: where failures come from. -/
theorem bind_eq_error_iff {α β γ : Type} {f : Failure} {step : Except Failure α}
    {steps : Except Failure β} {make : α → β → γ} {refs others : List (Position × String)}
    {again later : Prop} (hstep : step = .error f ↔ Fails follow f refs again)
    (hsteps : steps = .error f ↔ Fails follow f others later) :
    (do
      let a ← step
      let b ← steps
      return make a b) = .error f ↔
      Fails follow f (refs ++ askedAfter step others) (again ∨ (∃ a, step = .ok a) ∧ later) := by
  rw [bind_eq_error, hstep]
  simp only [bind_pure_eq_error, hsteps, Fails, unanswered_append, unanswered_after]
  constructor
  · rintro ((h | ⟨hf, h⟩) | ⟨a, ha, h | ⟨hf, h⟩⟩)
    · exact Or.inl (Or.inl h)
    · exact Or.inr ⟨hf, Or.inl h⟩
    · exact Or.inl (Or.inr ⟨a, ha, h⟩)
    · exact Or.inr ⟨hf, Or.inr ⟨⟨a, ha⟩, h⟩⟩
  · rintro ((h | ⟨a, ha, h⟩) | ⟨hf, h | ⟨⟨a, ha⟩, h⟩⟩)
    · exact Or.inl (Or.inl h)
    · exact Or.inr ⟨a, ha, Or.inl h⟩
    · exact Or.inl (Or.inr ⟨hf, h⟩)
    · exact Or.inr ⟨a, ha, Or.inr ⟨hf, h⟩⟩

mutual

/-- **The walk fails as what it asks for does**, or since it comes to where a value starts again, and in
no other way. -/
theorem inline_eq_error {f : Failure} (p : Position) : ∀ v : Value,
    inline follow p v = .error f ↔ Fails follow f (asked follow p v) (StartsAgain follow p v)
  | .sequence items => by
    rw [inline, asked, StartsAgain, bind_pure_eq_error]
    exact inlineItems_eq_error p 0 items
  | .mapping entries => by
    cases hr : reference? entries with
    | none =>
      simp only [inline, asked, StartsAgain, hr, bind_pure_eq_error]
      exact inlineEntries_eq_error p 1 entries
    | some reference =>
      simp only [inline, asked, StartsAgain, hr]
      cases hn : follow p reference with
      | error e => simp [Fails, askedBeside, Unanswered, hn]
      | ok named =>
        cases named with
        | mapping lower =>
          simp only [ok_bind, bind_pure_eq_error, askedBeside, Fails, unanswered_cons, hn,
            reduceCtorEq, false_or, Except.ok.injEq, Value.mapping.injEq, exists_eq', true_and]
          exact inlineSiblings_eq_error p 1 entries
        | scalar _ | sequence _ | pair _ _ | set _ | looped _ _ =>
          simp [Fails, askedBeside, Unanswered, hn]
  | .looped mark body => by
    have ih := inline_eq_error (f := f) p body
    rw [inline, asked, StartsAgain]
    unfold unwind
    split
    · simp [Fails, asked, Unanswered, eq_comm]
    · simp [Fails, asked, Unanswered, StartsAgain]
    · rename_i hscalar _
      rw [ih, or_iff_right fun h => hscalar h.choose h.choose_spec]
  | .scalar _ => iff_of_false nofun not_fails_nil
  | .pair _ _ => iff_of_false nofun not_fails_nil
  | .set _ => iff_of_false nofun not_fails_nil

theorem inlineItems_eq_error {f : Failure} (p : Position) (place : Nat) : ∀ items : List Value,
    inlineItems follow p place items = .error f ↔
      Fails follow f (askedInItems follow p place items) (StartsAgainInItems follow p place items)
  | [] => iff_of_false nofun not_fails_nil
  | v :: rest => by
    rw [inlineItems, askedInItems, StartsAgainInItems]
    exact bind_eq_error_iff (inline_eq_error (place :: p) v)
      (inlineItems_eq_error p (place + 1) rest)

theorem inlineEntries_eq_error {f : Failure} (p : Position) (place : Nat) :
    ∀ entries : List (Scalar × Value), inlineEntries follow p place entries = .error f ↔
      Fails follow f (askedInEntries follow p place entries)
        (StartsAgainInEntries follow p place entries)
  | [] => iff_of_false nofun not_fails_nil
  | (k, v) :: rest => by
    rw [inlineEntries, askedInEntries, StartsAgainInEntries]
    exact bind_eq_error_iff (inline_eq_error (place :: p) v)
      (inlineEntries_eq_error p (place + 1) rest)

theorem inlineSiblings_eq_error {f : Failure} (p : Position) (place : Nat) :
    ∀ entries : List (Scalar × Value), inlineSiblings follow p place entries = .error f ↔
      Fails follow f (askedInSiblings follow p place entries)
        (StartsAgainInSiblings follow p place entries)
  | [] => iff_of_false nofun not_fails_nil
  | (k, v) :: rest => by
    rw [inlineSiblings, askedInSiblings, StartsAgainInSiblings]
    split
    · exact inlineSiblings_eq_error p (place + 1) rest
    · exact bind_eq_error_iff (inline_eq_error (place :: p) v)
        (inlineSiblings_eq_error p (place + 1) rest)

end

/-- A walk fails as any reference does that it asks for. -/
theorem inline_of_unanswered {f : Failure} {p : Position} {v : Value}
    (h : Unanswered follow f (asked follow p v)) : inline follow p v = .error f :=
  (inline_eq_error p v).mpr (Or.inl h)

/-- Through a value in which nothing starts again, the walk fails as a reference does. -/
theorem inline_eq_error_iff {f : Failure} {p : Position} {v : Value}
    (h : ¬StartsAgain follow p v) :
    inline follow p v = .error f ↔ Unanswered follow f (asked follow p v) := by
  rw [inline_eq_error, Fails, or_iff_left fun hf => h hf.2]

/-! ## §3 Values in which nothing starts again -/

mutual

/-- Nothing in the value, through sequences and mappings, holds itself, pairs aside. -/
def isUnwound : Value → Bool
  | .sequence items => areUnwound items
  | .mapping entries => areUnwoundEntries entries
  | .looped _ (.pair _ _) => true
  | .looped _ _ => false
  | _ => true

/-- The same of every item. -/
def areUnwound : List Value → Bool
  | [] => true
  | v :: rest => isUnwound v && areUnwound rest

/-- The same of the value of every entry. -/
def areUnwoundEntries : List (Scalar × Value) → Bool
  | [] => true
  | (_, v) :: rest => isUnwound v && areUnwoundEntries rest

end

mutual

/-- The walk through such a value comes to nothing that starts again. -/
theorem not_startsAgain (p : Position) : ∀ {v : Value}, isUnwound v = true → ¬StartsAgain follow p v
  | .sequence _, h => not_startsAgainInItems p 0 h
  | .mapping entries, h => by
    rw [StartsAgain]
    split
    · exact not_startsAgainInEntries p 1 h
    · exact fun hagain => not_startsAgainInSiblings p 1 h hagain.2
  | .looped _ body, h => by
    cases body with
    | pair a b => simp [StartsAgain]
    | _ => cases h
  | .scalar _, _ => id
  | .pair _ _, _ => id
  | .set _, _ => id

theorem not_startsAgainInItems (p : Position) (place : Nat) : ∀ {items : List Value},
    areUnwound items = true → ¬StartsAgainInItems follow p place items
  | [], _ => id
  | _ :: _, h => by
    rw [areUnwound, Bool.and_eq_true] at h
    exact not_or.mpr ⟨not_startsAgain _ h.1, fun hrest => not_startsAgainInItems p _ h.2 hrest.2⟩

theorem not_startsAgainInEntries (p : Position) (place : Nat) :
    ∀ {entries : List (Scalar × Value)}, areUnwoundEntries entries = true →
      ¬StartsAgainInEntries follow p place entries
  | [], _ => id
  | _ :: _, h => by
    rw [areUnwoundEntries, Bool.and_eq_true] at h
    exact not_or.mpr ⟨not_startsAgain _ h.1, fun hrest => not_startsAgainInEntries p _ h.2 hrest.2⟩

theorem not_startsAgainInSiblings (p : Position) (place : Nat) :
    ∀ {entries : List (Scalar × Value)}, areUnwoundEntries entries = true →
      ¬StartsAgainInSiblings follow p place entries
  | [], _ => id
  | _ :: _, h => by
    rw [areUnwoundEntries, Bool.and_eq_true] at h
    rw [StartsAgainInSiblings]
    split
    · exact not_startsAgainInSiblings p _ h.2
    · exact not_or.mpr
        ⟨not_startsAgain _ h.1, fun hrest => not_startsAgainInSiblings p _ h.2 hrest.2⟩

end

/-- A condition on values that no value meets which holds itself. -/
def Unwinding (p : Value → Bool) : Prop := ∀ mark body, p (.looped mark body) = false

section Unwinding

variable {p : Value → Bool}

mutual

theorem Unwinding.isUnwound (hp : Unwinding p) : ∀ {v : Value}, v.every p = true →
    isUnwound v = true
  | .sequence _, h => by
    rw [Value.every, Bool.and_eq_true] at h
    exact hp.areUnwound h.2
  | .mapping _, h => by
    rw [Value.every, Bool.and_eq_true] at h
    exact hp.areUnwoundEntries h.2
  | .looped mark body, h => by simp [Value.every, hp mark body] at h
  | .scalar _, _ => rfl
  | .pair _ _, _ => rfl
  | .set _, _ => rfl

theorem Unwinding.areUnwound (hp : Unwinding p) : ∀ {items : List Value},
    Value.everyItem p items = true → areUnwound items = true
  | [], _ => rfl
  | _ :: _, h => by
    rw [Value.everyItem, Bool.and_eq_true] at h
    rw [Reference.areUnwound, hp.isUnwound h.1, hp.areUnwound h.2, Bool.and_true]

theorem Unwinding.areUnwoundEntries (hp : Unwinding p) : ∀ {entries : List (Scalar × Value)},
    Value.everyEntry p entries = true → areUnwoundEntries entries = true
  | [], _ => rfl
  | _ :: _, h => by
    rw [Value.everyEntry, Bool.and_eq_true] at h
    rw [Reference.areUnwoundEntries, hp.isUnwound h.1, hp.areUnwoundEntries h.2, Bool.and_true]

end

/-- A walk through a value of which every part meets such a condition fails as a reference does. -/
theorem Unwinding.inline_eq_error_iff (hp : Unwinding p) {v : Value} (hv : v.every p = true)
    {f : Failure} {q : Position} :
    inline follow q v = .error f ↔ Unanswered follow f (asked follow q v) :=
  Reference.inline_eq_error_iff (not_startsAgain q (hp.isUnwound hv))

end Unwinding

/-! ## §4 Other answers -/

/-- Two ways of following agree on some references. -/
def Agree (follow follow' : Position → String → Except Failure Value)
    (refs : List (Position × String)) : Prop :=
  ∀ a ∈ refs, follow' a.1 a.2 = follow a.1 a.2

theorem agree_append {refs others : List (Position × String)} :
    Agree follow follow' (refs ++ others) ↔
      Agree follow follow' refs ∧ Agree follow follow' others :=
  List.forall_mem_append

/-- One step of the walk and those behind it, with other answers. -/
theorem step_congr {α β γ : Type} {refs refs' others others' : List (Position × String)}
    {step step' : Except Failure α} {steps steps' : Except Failure β} (make : α → β → γ)
    (hstep : Agree follow follow' refs → step' = step ∧ refs' = refs)
    (hsteps : Agree follow follow' others → steps' = steps ∧ others' = others)
    (h : Agree follow follow' (refs ++ askedAfter step others)) :
    (do
      let a ← step'
      let b ← steps'
      return make a b) = (do
      let a ← step
      let b ← steps
      return make a b) ∧
    refs' ++ askedAfter step' others' = refs ++ askedAfter step others := by
  obtain ⟨hrefs, hothers⟩ := agree_append.mp h
  obtain ⟨rfl, rfl⟩ := hstep hrefs
  cases step' with
  | error e => exact ⟨rfl, rfl⟩
  | ok a =>
    obtain ⟨rfl, rfl⟩ := hsteps hothers
    exact ⟨rfl, rfl⟩

mutual

/-- **The walk depends on the answers to what it asks for** alone. -/
theorem inline_congr (p : Position) : ∀ {v : Value}, Agree follow follow' (asked follow p v) →
    inline follow' p v = inline follow p v ∧ asked follow' p v = asked follow p v
  | .sequence items, h => by
    obtain ⟨hw, ha⟩ := inlineItems_congr p 0 h
    simp only [inline, asked, hw, ha, and_self]
  | .mapping entries, h => by
    cases hr : reference? entries with
    | none =>
      simp only [asked, hr] at h
      obtain ⟨hw, ha⟩ := inlineEntries_congr p 1 h
      simp only [inline, asked, hr, hw, ha, and_self]
    | some reference =>
      simp only [asked, hr] at h
      obtain ⟨hn, hsiblings⟩ := List.forall_mem_cons.mp h
      simp only at hn
      simp only [inline, asked, hr, hn]
      cases hnamed : follow p reference with
      | error e => exact ⟨rfl, rfl⟩
      | ok named =>
        rw [hnamed] at hsiblings
        cases named with
        | mapping lower =>
          obtain ⟨hw, ha⟩ := inlineSiblings_congr p 1 hsiblings
          simp only [hw, ha, and_self]
        | scalar _ | sequence _ | pair _ _ | set _ | looped _ _ => exact ⟨rfl, rfl⟩
  | .looped _ body, h => by
    rw [asked] at h
    obtain ⟨hw, ha⟩ := inline_congr p h
    simp only [inline, asked, hw, ha, and_self]
  | .scalar _, _ => ⟨rfl, rfl⟩
  | .pair _ _, _ => ⟨rfl, rfl⟩
  | .set _, _ => ⟨rfl, rfl⟩

theorem inlineItems_congr (p : Position) (place : Nat) : ∀ {items : List Value},
    Agree follow follow' (askedInItems follow p place items) →
    inlineItems follow' p place items = inlineItems follow p place items ∧
      askedInItems follow' p place items = askedInItems follow p place items
  | [], _ => ⟨rfl, rfl⟩
  | v :: rest, h => by
    simp only [inlineItems, askedInItems]
    exact step_congr (fun v rest => v :: rest) (inline_congr (place :: p))
      (inlineItems_congr p (place + 1)) h

theorem inlineEntries_congr (p : Position) (place : Nat) : ∀ {entries : List (Scalar × Value)},
    Agree follow follow' (askedInEntries follow p place entries) →
    inlineEntries follow' p place entries = inlineEntries follow p place entries ∧
      askedInEntries follow' p place entries = askedInEntries follow p place entries
  | [], _ => ⟨rfl, rfl⟩
  | (k, v) :: rest, h => by
    simp only [inlineEntries, askedInEntries]
    exact step_congr (fun v rest => (k, v) :: rest) (inline_congr (place :: p))
      (inlineEntries_congr p (place + 1)) h

theorem inlineSiblings_congr (p : Position) (place : Nat) : ∀ {entries : List (Scalar × Value)},
    Agree follow follow' (askedInSiblings follow p place entries) →
    inlineSiblings follow' p place entries = inlineSiblings follow p place entries ∧
      askedInSiblings follow' p place entries = askedInSiblings follow p place entries
  | [], _ => ⟨rfl, rfl⟩
  | (k, v) :: rest, h => by
    rw [askedInSiblings] at h
    simp only [inlineSiblings, askedInSiblings]
    split at h
    · rename_i hk
      simp only [hk, if_true]
      exact inlineSiblings_congr p (place + 1) h
    · rename_i hk
      simp only [hk]
      exact step_congr (fun v rest => (k, v) :: rest) (inline_congr (place :: p))
        (inlineSiblings_congr p (place + 1)) h

end

/-! ## §5 More answers -/

/-- A way of following answers wherever another one does not fail in some way, and as that one. -/
def Extends (f : Failure) (follow follow' : Position → String → Except Failure Value) : Prop :=
  ∀ q r, follow q r ≠ .error f → follow' q r = follow q r

/-- A walk that does not fail in that way asks for the same and makes the same. -/
theorem Extends.inline {f : Failure} (h : Extends f follow follow') {p : Position} {v : Value}
    (hne : inline follow p v ≠ .error f) :
    inline follow' p v = inline follow p v ∧ asked follow' p v = asked follow p v :=
  inline_congr p fun a ha => h a.1 a.2 fun hf => hne (inline_of_unanswered ⟨a, ha, hf⟩)

/-- One step of the walk and those behind it, with more answers. -/
theorem step_mono {α : Type} {refs refs' others others' : List (Position × String)}
    {step step' : Except Failure α} (hrefs : refs ⊆ refs')
    (hstep : ∀ a, step = .ok a → step' = .ok a) (hothers : others ⊆ others') :
    refs ++ askedAfter step others ⊆ refs' ++ askedAfter step' others' := by
  refine List.append_subset.mpr ⟨fun a ha => List.mem_append_left _ (hrefs ha), fun a ha => ?_⟩
  obtain ⟨⟨w, hw⟩, ha⟩ := mem_askedAfter.mp ha
  exact List.mem_append_right _ (mem_askedAfter.mpr ⟨⟨w, hstep w hw⟩, hothers ha⟩)

mutual

/-- With more answers no less is asked for. -/
theorem Extends.asked_subset {f : Failure} (h : Extends f follow follow') (p : Position) :
    ∀ v : Value, asked follow p v ⊆ asked follow' p v
  | .sequence items => by
    rw [asked, asked]
    exact h.askedInItems_subset p 0 items
  | .mapping entries => by
    simp only [asked]
    cases reference? entries with
    | none => exact h.askedInEntries_subset p 1 entries
    | some reference =>
      refine List.cons_subset_cons _ fun a ha => ?_
      obtain ⟨⟨lower, hlower⟩, ha⟩ := mem_askedBeside.mp ha
      have hsame : follow' p reference = .ok (.mapping lower) :=
        (h p reference (by simp [hlower])).trans hlower
      exact mem_askedBeside.mpr ⟨⟨lower, hsame⟩, h.askedInSiblings_subset p 1 entries ha⟩
  | .looped _ body => by
    rw [asked, asked]
    exact h.asked_subset p body
  | .scalar _ => List.Subset.refl _
  | .pair _ _ => List.Subset.refl _
  | .set _ => List.Subset.refl _

theorem Extends.askedInItems_subset {f : Failure} (h : Extends f follow follow') (p : Position)
    (place : Nat) : ∀ items : List Value,
      askedInItems follow p place items ⊆ askedInItems follow' p place items
  | [] => List.Subset.refl _
  | v :: rest => by
    rw [askedInItems, askedInItems]
    exact step_mono (h.asked_subset (place :: p) v)
      (fun w hw => (h.inline (by simp [hw])).1.trans hw) (h.askedInItems_subset p (place + 1) rest)

theorem Extends.askedInEntries_subset {f : Failure} (h : Extends f follow follow') (p : Position)
    (place : Nat) : ∀ entries : List (Scalar × Value),
      askedInEntries follow p place entries ⊆ askedInEntries follow' p place entries
  | [] => List.Subset.refl _
  | (k, v) :: rest => by
    rw [askedInEntries, askedInEntries]
    exact step_mono (h.asked_subset (place :: p) v)
      (fun w hw => (h.inline (by simp [hw])).1.trans hw)
      (h.askedInEntries_subset p (place + 1) rest)

theorem Extends.askedInSiblings_subset {f : Failure} (h : Extends f follow follow')
    (p : Position) (place : Nat) : ∀ entries : List (Scalar × Value),
      askedInSiblings follow p place entries ⊆ askedInSiblings follow' p place entries
  | [] => List.Subset.refl _
  | (k, v) :: rest => by
    rw [askedInSiblings, askedInSiblings]
    split
    · exact h.askedInSiblings_subset p (place + 1) rest
    · exact step_mono (h.asked_subset (place :: p) v)
        (fun w hw => (h.inline (by simp [hw])).1.trans hw)
        (h.askedInSiblings_subset p (place + 1) rest)

end

/-- With more answers no place is left out where a value starts again. -/
theorem Extends.again_step {α : Type} {step step' : Except Failure α} {again again' later later' : Prop}
    (hagain : again → again') (hstep : ∀ a, step = .ok a → step' = .ok a) (hlater : later → later') :
    again ∨ (∃ a, step = .ok a) ∧ later → again' ∨ (∃ a, step' = .ok a) ∧ later' :=
  Or.imp hagain fun ⟨⟨a, ha⟩, h⟩ => ⟨⟨a, hstep a ha⟩, hlater h⟩

mutual

theorem Extends.startsAgain {f : Failure} (h : Extends f follow follow') (p : Position) :
    ∀ v : Value, StartsAgain follow p v → StartsAgain follow' p v
  | .sequence items => h.startsAgainInItems p 0 items
  | .mapping entries => by
    rw [StartsAgain, StartsAgain]
    cases reference? entries with
    | none => exact h.startsAgainInEntries p 1 entries
    | some reference =>
      rintro ⟨⟨lower, hlower⟩, hagain⟩
      exact ⟨⟨lower, (h p reference (by simp [hlower])).trans hlower⟩,
        h.startsAgainInSiblings p 1 entries hagain⟩
  | .looped _ body => by
    rw [StartsAgain, StartsAgain]
    exact Or.imp_right (h.startsAgain p body)
  | .scalar _ => id
  | .pair _ _ => id
  | .set _ => id

theorem Extends.startsAgainInItems {f : Failure} (h : Extends f follow follow') (p : Position)
    (place : Nat) : ∀ items : List Value,
      StartsAgainInItems follow p place items → StartsAgainInItems follow' p place items
  | [] => id
  | v :: rest => again_step (h.startsAgain (place :: p) v)
      (fun w hw => (h.inline (by simp [hw])).1.trans hw) (h.startsAgainInItems p (place + 1) rest)

theorem Extends.startsAgainInEntries {f : Failure} (h : Extends f follow follow') (p : Position)
    (place : Nat) : ∀ entries : List (Scalar × Value),
      StartsAgainInEntries follow p place entries → StartsAgainInEntries follow' p place entries
  | [] => id
  | (_, v) :: rest => again_step (h.startsAgain (place :: p) v)
      (fun w hw => (h.inline (by simp [hw])).1.trans hw) (h.startsAgainInEntries p (place + 1) rest)

theorem Extends.startsAgainInSiblings {f : Failure} (h : Extends f follow follow') (p : Position)
    (place : Nat) : ∀ entries : List (Scalar × Value),
      StartsAgainInSiblings follow p place entries → StartsAgainInSiblings follow' p place entries
  | [] => id
  | (k, v) :: rest => by
    rw [StartsAgainInSiblings, StartsAgainInSiblings]
    split
    · exact h.startsAgainInSiblings p (place + 1) rest
    · exact again_step (h.startsAgain (place :: p) v)
        (fun w hw => (h.inline (by simp [hw])).1.trans hw)
        (h.startsAgainInSiblings p (place + 1) rest)

end

/-! ## §6 Other positions -/

/-- What one way of following answers to some references is answered by another one, at whatever
positions. -/
def Carries (follow follow' : Position → String → Except Failure Value)
    (refs : List (Position × String)) : Prop :=
  ∀ a ∈ refs, ∀ q w, follow a.1 a.2 = .ok w → follow' q a.2 = .ok w

/-- References without their positions. -/
abbrev texts (refs : List (Position × String)) : List String := refs.map (·.2)

theorem carries_append {refs others : List (Position × String)} :
    Carries follow follow' (refs ++ others) ↔
      Carries follow follow' refs ∧ Carries follow follow' others :=
  List.forall_mem_append

/-- One step of the walk and those behind it, elsewhere. -/
theorem step_carried {α β γ : Type} {refs refs' others others' : List (Position × String)}
    {step step' : Except Failure α} {steps steps' : Except Failure β} (make : α → β → γ) {c : γ}
    (hstep : ∀ a, step = .ok a → Carries follow follow' refs →
      step' = .ok a ∧ texts refs' = texts refs)
    (hsteps : ∀ b, steps = .ok b → Carries follow follow' others →
      steps' = .ok b ∧ texts others' = texts others)
    (h : (do
      let a ← step
      let b ← steps
      return make a b) = .ok c)
    (hc : Carries follow follow' (refs ++ askedAfter step others)) :
    (do
      let a ← step'
      let b ← steps'
      return make a b) = .ok c ∧
    texts (refs' ++ askedAfter step' others') = texts (refs ++ askedAfter step others) := by
  obtain ⟨a, ha, h⟩ := bind_eq_ok.mp h
  obtain ⟨b, hb, h⟩ := bind_eq_ok.mp h
  obtain ⟨hrefs, hothers⟩ := carries_append.mp hc
  rw [ha] at hothers ⊢
  obtain ⟨ha', hrefs⟩ := hstep a ha hrefs
  obtain ⟨hb', hothers⟩ := hsteps b hb hothers
  rw [ha', hb']
  refine ⟨h, ?_⟩
  simp only [texts, askedAfter, List.map_append] at hrefs hothers ⊢
  rw [hrefs, hothers]

mutual

/-- **A walk that comes to a value comes to it anywhere**, if what it asked for is answered there as it
was; and it asks for the same. -/
theorem inline_carried (p q : Position) : ∀ {v : Value}, Carries follow follow' (asked follow p v) →
    ∀ {w : Value}, inline follow p v = .ok w →
    inline follow' q v = .ok w ∧ texts (asked follow' q v) = texts (asked follow p v)
  | .sequence items, hc, w, h => by
    rw [inline] at h
    obtain ⟨inlined, hi, h⟩ := bind_eq_ok.mp h
    obtain ⟨hi', ha⟩ := inlineItems_carried p q 0 hc hi
    simp only [inline, asked, hi', ok_bind]
    exact ⟨h, ha⟩
  | .mapping entries, hc, w, h => by
    cases hr : reference? entries with
    | none =>
      simp only [inline, asked, hr] at h hc
      obtain ⟨inlined, hi, h⟩ := bind_eq_ok.mp h
      obtain ⟨hi', ha⟩ := inlineEntries_carried p q 1 hc hi
      simp only [inline, asked, hr, hi', ok_bind]
      exact ⟨h, ha⟩
    | some reference =>
      simp only [inline, asked, hr] at h hc
      obtain ⟨named, hn, h⟩ := bind_eq_ok.mp h
      obtain ⟨hfirst, hsiblings⟩ := List.forall_mem_cons.mp hc
      have hn' : follow' q reference = .ok named := hfirst q named hn
      simp only [inline, asked, hr, hn, hn', ok_bind]
      cases named with
      | mapping lower =>
        rw [hn] at hsiblings
        obtain ⟨upper, hu, h⟩ := bind_eq_ok.mp h
        obtain ⟨hu', ha⟩ := inlineSiblings_carried p q 1 hsiblings hu
        simp only [hu', ok_bind]
        exact ⟨h, congrArg (reference :: ·) ha⟩
      | scalar _ | sequence _ | pair _ _ | set _ | looped _ _ => exact ⟨h, rfl⟩
  | .looped _ body, hc, w, h => by
    rw [inline] at h
    rw [asked] at hc
    simp only [inline, asked]
    unfold unwind at h ⊢
    split at h
    · cases h
    · exact ⟨h, rfl⟩
    · exact inline_carried p q hc h
  | .scalar _, _, _, h => ⟨h, rfl⟩
  | .pair _ _, _, _, h => ⟨h, rfl⟩
  | .set _, _, _, h => ⟨h, rfl⟩
termination_by structural v => v

theorem inlineItems_carried (p q : Position) (place : Nat) : ∀ {items : List Value},
    Carries follow follow' (askedInItems follow p place items) →
    ∀ {inlined : List Value}, inlineItems follow p place items = .ok inlined →
    inlineItems follow' q place items = .ok inlined ∧
      texts (askedInItems follow' q place items) = texts (askedInItems follow p place items)
  | [], _, _, h => ⟨h, rfl⟩
  | v :: rest, hc, _, h => by
    simp only [inlineItems, askedInItems] at h hc ⊢
    exact step_carried (fun v rest => v :: rest)
      (fun _ hw hc => inline_carried (place :: p) (place :: q) hc hw)
      (fun _ hw hc => inlineItems_carried p q (place + 1) hc hw) h hc
termination_by structural v => v

theorem inlineEntries_carried (p q : Position) (place : Nat) :
    ∀ {entries : List (Scalar × Value)},
    Carries follow follow' (askedInEntries follow p place entries) →
    ∀ {inlined : List (Scalar × Value)}, inlineEntries follow p place entries = .ok inlined →
    inlineEntries follow' q place entries = .ok inlined ∧
      texts (askedInEntries follow' q place entries)
        = texts (askedInEntries follow p place entries)
  | [], _, _, h => ⟨h, rfl⟩
  | (k, v) :: rest, hc, _, h => by
    simp only [inlineEntries, askedInEntries] at h hc ⊢
    exact step_carried (fun v rest => (k, v) :: rest)
      (fun _ hw hc => inline_carried (place :: p) (place :: q) hc hw)
      (fun _ hw hc => inlineEntries_carried p q (place + 1) hc hw) h hc
termination_by structural v => v

theorem inlineSiblings_carried (p q : Position) (place : Nat) :
    ∀ {entries : List (Scalar × Value)},
    Carries follow follow' (askedInSiblings follow p place entries) →
    ∀ {inlined : List (Scalar × Value)}, inlineSiblings follow p place entries = .ok inlined →
    inlineSiblings follow' q place entries = .ok inlined ∧
      texts (askedInSiblings follow' q place entries)
        = texts (askedInSiblings follow p place entries)
  | [], _, _, h => ⟨h, rfl⟩
  | (k, v) :: rest, hc, _, h => by
    simp only [inlineSiblings, askedInSiblings] at h hc ⊢
    by_cases hk : referenceKey.same k = true
    · simp only [hk, if_true] at h hc ⊢
      exact inlineSiblings_carried p q (place + 1) hc h
    · simp only [hk] at h hc ⊢
      exact step_carried (fun v rest => (k, v) :: rest)
        (fun _ hw hc => inline_carried (place :: p) (place :: q) hc hw)
        (fun _ hw hc => inlineSiblings_carried p q (place + 1) hc hw) h hc
termination_by structural v => v

end

end SchemaDoc.Reference
