/-
SchemaDoc.Proofs.Failing — computations that may fail, taken apart.

A computation in steps gives a result when every step does, and fails with the
first failure. The lemmas here say so once, so that later proofs take a `do`
block apart step by step and never unfold the monad.
-/
import SchemaDoc.Failure

namespace SchemaDoc

variable {ε ε' α β : Type}

@[simp] theorem ok_bind (a : α) (f : α → Except ε β) : (Except.ok a >>= f) = f a := rfl

@[simp] theorem error_bind (e : ε) (f : α → Except ε β) :
    (Except.error e >>= f) = Except.error e := rfl

@[simp] theorem pure_eq_ok (a : α) : (pure a : Except ε α) = .ok a := rfl

@[simp] theorem mapError_ok (g : ε → ε') (a : α) :
    (Except.ok a : Except ε α).mapError g = .ok a := rfl

@[simp] theorem mapError_error (g : ε → ε') (e : ε) :
    (Except.error e : Except ε α).mapError g = .error (g e) := rfl

/-- A computation in two steps gives a result when both steps do. -/
theorem bind_eq_ok {x : Except ε α} {f : α → Except ε β} {b : β} :
    (x >>= f) = .ok b ↔ ∃ a, x = .ok a ∧ f a = .ok b := by
  cases x with
  | ok a => simp
  | error e => simp

/-- A computation in two steps fails in the first step, or in the second after a result of the
first. -/
theorem bind_eq_error {x : Except ε α} {f : α → Except ε β} {e : ε} :
    (x >>= f) = .error e ↔ x = .error e ∨ ∃ a, x = .ok a ∧ f a = .error e := by
  cases x with
  | ok a => simp
  | error e' => simp

/-- Making something of a result does not fail. -/
theorem bind_pure_eq_error {x : Except ε α} {g : α → β} {e : ε} :
    (x >>= fun a => pure (g a)) = .error e ↔ x = .error e := by
  cases x with
  | ok a => simp
  | error e' => simp

/-- Failures of a computation in two steps are renamed step by step. -/
theorem mapError_bind (g : ε → ε') (x : Except ε α) (f : α → Except ε β) :
    (x >>= f).mapError g = x.mapError g >>= fun a => (f a).mapError g := by
  cases x with
  | ok a => rfl
  | error e => rfl

theorem mapError_eq_ok {g : ε → ε'} {x : Except ε α} {a : α} :
    x.mapError g = .ok a ↔ x = .ok a := by
  cases x with
  | ok b => simp
  | error e => simp

/-- What is made of a result comes from one. -/
theorem map_eq_ok {x : Except ε α} {f : α → β} {b : β} :
    x.map f = .ok b ↔ ∃ a, x = .ok a ∧ f a = b := by
  cases x with
  | ok a => simp [Except.map]
  | error e => simp [Except.map]

theorem toOption_eq_some {x : Except ε α} {a : α} : x.toOption = some a ↔ x = .ok a := by
  cases x with
  | ok b => simp [Except.toOption]
  | error e => simp [Except.toOption]

theorem mapError_mapError {ε'' : Type} (g : ε → ε') (h : ε' → ε'') (x : Except ε α) :
    (x.mapError g).mapError h = x.mapError (h ∘ g) := by
  cases x with
  | ok a => rfl
  | error e => rfl

theorem orFail_eq_ok {x : Except Fault α} {a : α} : orFail x = .ok a ↔ x = .ok a :=
  mapError_eq_ok

/-- Every result of a list of computations is the result of one of them. -/
theorem exists_of_mem_mapM {f : α → Except ε β} : ∀ {xs : List α} {ys : List β},
    xs.mapM f = .ok ys → ∀ y ∈ ys, ∃ x ∈ xs, f x = .ok y
  | [], _, h, y, hy => by
    cases h
    cases hy
  | x :: xs, _, h, y, hy => by
    rw [List.mapM_cons] at h
    obtain ⟨y', hx, h⟩ := bind_eq_ok.mp h
    obtain ⟨ys', hxs, h⟩ := bind_eq_ok.mp h
    cases h
    rcases List.mem_cons.mp hy with rfl | hy
    · exact ⟨x, List.mem_cons_self .., hx⟩
    · obtain ⟨x', hm, hx'⟩ := exists_of_mem_mapM hxs y hy
      exact ⟨x', List.mem_cons_of_mem _ hm, hx'⟩

/-- Every computation of a list has its result among the results. -/
theorem mem_of_mapM {f : α → Except ε β} {x : α} {y : β} : ∀ {xs : List α} {ys : List β},
    xs.mapM f = .ok ys → x ∈ xs → f x = .ok y → y ∈ ys
  | x' :: xs, _, h, hmem, hx => by
    rw [List.mapM_cons] at h
    obtain ⟨y', hx', h⟩ := bind_eq_ok.mp h
    obtain ⟨ys', hxs, h⟩ := bind_eq_ok.mp h
    cases h
    rcases List.mem_cons.mp hmem with rfl | hmem
    · rw [hx] at hx'
      cases hx'
      exact List.mem_cons_self ..
    · exact List.mem_cons_of_mem _ (mem_of_mapM hxs hmem hx)

/-- Every result of a computation is such and such. -/
def Yields (P : α → Prop) (x : Except ε α) : Prop := ∀ a, x = .ok a → P a

theorem yields_ok {P : α → Prop} {a : α} (h : P a) : Yields P (.ok a : Except ε α) := by
  rintro _ ⟨⟩
  exact h

theorem yields_error {P : α → Prop} (e : ε) : Yields P (.error e : Except ε α) := nofun

theorem Yields.bind {P : β → Prop} {Q : α → Prop} {x : Except ε α} {f : α → Except ε β}
    (hx : Yields Q x) (hf : ∀ a, Q a → Yields P (f a)) : Yields P (x >>= f) := by
  intro b h
  obtain ⟨a, ha, hb⟩ := bind_eq_ok.mp h
  exact hf a (hx a ha) b hb

/-- What comes first does not matter to what every second step yields. -/
theorem yields_bind {P : β → Prop} {x : Except ε α} {f : α → Except ε β}
    (hf : ∀ a, Yields P (f a)) : Yields P (x >>= f) := by
  intro b h
  obtain ⟨a, -, hb⟩ := bind_eq_ok.mp h
  exact hf a b hb

theorem Yields.mapError {P : α → Prop} {x : Except ε α} (hx : Yields P x) (g : ε → ε') :
    Yields P (x.mapError g) := fun a h => hx a (mapError_eq_ok.mp h)

theorem yields_mapM {P : β → Prop} {f : α → Except ε β} {xs : List α}
    (h : ∀ x ∈ xs, Yields P (f x)) : Yields (fun ys => ∀ y ∈ ys, P y) (xs.mapM f) := by
  intro ys hys y hy
  obtain ⟨x, hx, hxy⟩ := exists_of_mem_mapM hys y hy
  exact h x hx y hxy

/-- A computation gives a result that is such and such, or fails in such and such a way. -/
inductive Gives (P : α → Prop) (Q : ε → Prop) : Except ε α → Prop
  | ok {a : α} : P a → Gives P Q (.ok a)
  | error {e : ε} : Q e → Gives P Q (.error e)

theorem Gives.ok_or_error {P : α → Prop} {Q : ε → Prop} {x : Except ε α} (hx : Gives P Q x) :
    (∃ a, x = .ok a ∧ P a) ∨ ∃ e, x = .error e ∧ Q e := by
  cases hx with
  | ok ha => exact Or.inl ⟨_, rfl, ha⟩
  | error he => exact Or.inr ⟨_, rfl, he⟩

theorem Gives.of_eq_ok {P : α → Prop} {Q : ε → Prop} {x : Except ε α} (hx : Gives P Q x) {a : α}
    (h : x = .ok a) : P a := by
  subst h
  cases hx with
  | ok ha => exact ha

theorem Gives.of_eq_error {P : α → Prop} {Q : ε → Prop} {x : Except ε α} (hx : Gives P Q x) {e : ε}
    (h : x = .error e) : Q e := by
  subst h
  cases hx with
  | error he => exact he

theorem Gives.imp {P P' : α → Prop} {Q : ε → Prop} {x : Except ε α} (hx : Gives P Q x)
    (h : ∀ a, P a → P' a) : Gives P' Q x := by
  cases hx with
  | ok ha => exact .ok (h _ ha)
  | error he => exact .error he

theorem Gives.imp_error {P : α → Prop} {Q Q' : ε → Prop} {x : Except ε α} (hx : Gives P Q x)
    (h : ∀ e, Q e → Q' e) : Gives P Q' x := by
  cases hx with
  | ok ha => exact .ok ha
  | error he => exact .error (h _ he)

theorem Gives.orFail {P : α → Prop} {Q : Fault → Prop} {Q' : Failure → Prop}
    {x : Except Fault α} (hx : Gives P Q x) (h : ∀ f, Q f → Q' (.fault f)) :
    Gives P Q' (SchemaDoc.orFail x) := by
  cases hx with
  | ok ha => exact .ok ha
  | error he => exact .error (h _ he)

theorem Gives.bind {P : β → Prop} {P' : α → Prop} {Q : ε → Prop} {x : Except ε α}
    {f : α → Except ε β} (hx : Gives P' Q x) (hf : ∀ a, P' a → Gives P Q (f a)) :
    Gives P Q (x >>= f) := by
  cases hx with
  | ok ha => exact hf _ ha
  | error he => exact .error he

theorem Gives.map {P : β → Prop} {P' : α → Prop} {Q : ε → Prop} {x : Except ε α} {f : α → β}
    (hx : Gives P' Q x) (hf : ∀ a, P' a → P (f a)) : Gives P Q (x.map f) := by
  cases hx with
  | ok ha => exact .ok (hf _ ha)
  | error he => exact .error he

theorem gives_mapM {P : β → Prop} {Q : ε → Prop} {f : α → Except ε β} : ∀ {xs : List α},
    (∀ x ∈ xs, Gives P Q (f x)) → Gives (fun ys => ∀ y ∈ ys, P y) Q (xs.mapM f)
  | [], _ => .ok fun _ hy => nomatch hy
  | x :: xs, h => by
    obtain ⟨hx, hxs⟩ := List.forall_mem_cons.mp h
    rw [List.mapM_cons]
    exact hx.bind fun y hy => (gives_mapM hxs).bind fun ys hys =>
      .ok (List.forall_mem_cons.mpr ⟨hy, hys⟩)

/-- A computation does not fail in some way. -/
def Never (e : ε) (x : Except ε α) : Prop := x ≠ .error e

@[simp] theorem never_ok (e : ε) (a : α) : Never e (.ok a) := nofun

@[simp] theorem never_error {e f : ε} : Never e (.error f : Except ε α) ↔ f ≠ e := by
  simp [Never]

theorem Never.bind {e : ε} {x : Except ε α} {f : α → Except ε β} (hx : Never e x)
    (hf : ∀ a, Never e (f a)) : Never e (x >>= f) := by
  intro h
  rcases bind_eq_error.mp h with h | ⟨a, -, h⟩
  · exact hx h
  · exact hf a h

theorem Never.map {e : ε} {x : Except ε α} (hx : Never e x) (f : α → β) : Never e (x.map f) := by
  cases x with
  | ok a => exact never_ok e (f a)
  | error e' => exact never_error.mpr (never_error.mp hx)

/-- Failures renamed to what is another way of failing only for another failure. -/
theorem Never.mapError {e : ε} {e' : ε'} {g : ε → ε'} {x : Except ε α} (hx : Never e x)
    (hg : ∀ f, g f = e' → f = e) : Never e' (x.mapError g) := by
  cases x with
  | ok a => exact never_ok e' a
  | error f => exact never_error.mpr fun hf => hx (congrArg Except.error (hg f hf))

theorem never_mapError {e' : ε'} {g : ε → ε'} (hg : ∀ f, g f ≠ e') (x : Except ε α) :
    Never e' (x.mapError g) := by
  cases x with
  | ok a => exact never_ok e' a
  | error f => exact never_error.mpr (hg f)

theorem never_mapM {e : ε} {f : α → Except ε β} : ∀ {xs : List α}, (∀ x ∈ xs, Never e (f x)) →
    Never e (xs.mapM f)
  | [], _ => never_ok e []
  | x :: xs, h => by
    obtain ⟨hx, hxs⟩ := List.forall_mem_cons.mp h
    rw [List.mapM_cons]
    exact hx.bind fun _ => (never_mapM hxs).bind fun _ => never_ok e _

/-- Two computations go alike: both give results, or both fail, that belong together. -/
inductive Parallel {ε ε' α α' : Type} (R : α → α' → Prop) (S : ε → ε' → Prop) :
    Except ε α → Except ε' α' → Prop
  | ok {a : α} {a' : α'} : R a a' → Parallel R S (.ok a) (.ok a')
  | error {e : ε} {e' : ε'} : S e e' → Parallel R S (.error e) (.error e')

section Parallel

variable {α' β' ζ ζ' : Type} {R : α → α' → Prop} {R' : β → β' → Prop} {S : ε → ε' → Prop}
  {x : Except ε α} {x' : Except ε' α'}

theorem Parallel.bind {f : α → Except ε β} {f' : α' → Except ε' β'} (hx : Parallel R S x x')
    (hf : ∀ a a', R a a' → Parallel R' S (f a) (f' a')) : Parallel R' S (x >>= f) (x' >>= f') := by
  cases hx with
  | ok ha => exact hf _ _ ha
  | error he => exact .error he

/-- The second steps may make use of what the second first step gives. -/
theorem Parallel.bind_of {f : α → Except ε β} {f' : α' → Except ε' β'} (hx : Parallel R S x x')
    (hf : ∀ a a', x' = .ok a' → R a a' → Parallel R' S (f a) (f' a')) :
    Parallel R' S (x >>= f) (x' >>= f') := by
  cases hx with
  | ok ha => exact hf _ _ rfl ha
  | error he => exact .error he

theorem Parallel.map {f : α → β} {f' : α' → β'} (hx : Parallel R S x x')
    (hf : ∀ a a', R a a' → R' (f a) (f' a')) : Parallel R' S (x.map f) (x'.map f') := by
  cases hx with
  | ok ha => exact .ok (hf _ _ ha)
  | error he => exact .error he

theorem Parallel.mapError {S' : ζ → ζ' → Prop} {g : ε → ζ} {g' : ε' → ζ'}
    (hx : Parallel R S x x') (hg : ∀ e e', S e e' → S' (g e) (g' e')) :
    Parallel R S' (x.mapError g) (x'.mapError g') := by
  cases hx with
  | ok ha => exact .ok ha
  | error he => exact .error (hg _ _ he)

theorem Parallel.imp {T : α → α' → Prop} (hx : Parallel R S x x') (h : ∀ a a', R a a' → T a a') :
    Parallel T S x x' := by
  cases hx with
  | ok ha => exact .ok (h _ _ ha)
  | error he => exact .error he

theorem Parallel.imp_error {T : ε → ε' → Prop} (hx : Parallel R S x x')
    (h : ∀ e e', S e e' → T e e') : Parallel R T x x' := by
  cases hx with
  | ok ha => exact .ok ha
  | error he => exact .error (h _ _ he)

/-- Computations with equal results and failures that look the same look the same. -/
theorem Parallel.mapError_eq {g : ε → ζ} {g' : ε' → ζ} {y : Except ε' α}
    (hx : Parallel Eq (fun e e' => g e = g' e') x y) : x.mapError g = y.mapError g' := by
  cases hx with
  | ok ha => rw [ha]; rfl
  | error he => exact congrArg Except.error he

/-- Two computations that go like a third one go alike. -/
theorem Parallel.meet {γ : Type} {R : α → γ → Prop} {R' : α' → γ → Prop} {S : ε → ε → Prop}
    {x : Except ε α} {x' : Except ε α'} {z : Except ε γ} (hx : Parallel R S x z)
    (hx' : Parallel R' S x' z) (hS : ∀ e e' f, S e f → S e' f → S e e') :
    Parallel (fun a a' => ∃ c, z = .ok c ∧ R a c ∧ R' a' c) S x x' := by
  cases hx with
  | ok ha =>
    cases hx' with
    | ok ha' => exact .ok ⟨_, rfl, ha, ha'⟩
  | error he =>
    cases hx' with
    | error he' => exact .error (hS _ _ _ he he')

/-- A computation goes like itself. -/
theorem Parallel.refl {S : ε → ε → Prop} (hS : ∀ e, S e e) (x : Except ε α) :
    Parallel Eq S x x := by
  cases x with
  | ok a => exact .ok rfl
  | error e => exact .error (hS e)

end Parallel

end SchemaDoc
