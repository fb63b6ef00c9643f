/-
SchemaDoc.Proofs.Schema.Filter — what the check of a schema turns a result into.

The check stands between the schema that a file is carried out to and the
question whether that is an object. So a failure on the way there is the same
with the check, and what passes the check is the same as without it. The check
only refuses, except where it cannot judge the schema at all: then it meets a
fault, in place of a schema or of a refused one (`file_strict_iff`). This
happens for every root that has no members to look for a dialect in, for every
dialect whose name is no address (`dialect_error_iff`), and where the rules of
the dialect meet a fault of their own.

§1 schemas that cannot be judged, §2 filters, §3 with and without the check,
§4 schemas that are not judged.
-/
import SchemaDoc.Proofs.Files.Suffix
import SchemaDoc.Proofs.Reference.Elsewhere
import SchemaDoc.Resolve

namespace SchemaDoc

/-! ## §1 Schemas that cannot be judged -/

theorem Value.bare_bare (v : Value) : v.bare.bare = v.bare := by
  fun_induction Value.bare v with
  | case1 _ _ ih => exact ih
  | case2 v hv => cases v <;> first | rfl | exact absurd rfl (hv _ _)

namespace Schema

variable {schema : Value}

/-- What stands under `$schema` is no address: a text or bytes that are none, or a value of another
kind, unless it is nothing. -/
def NoAddress : Value → Prop
  | .text s => ∃ m, Uri.split s.toList = .error m
  | .bytes bs => (∃ b ∈ bs, 128 ≤ b.toNat) ∨
      ∃ m, Uri.split (bs.map fun b => Char.ofNat b.toNat) = .error m
  | .scalar s => (Value.scalar s).isFilled = true
  | _ => True

/-- No dialect can be told of a schema. -/
inductive NoDialect (schema : Value) : Prop
  /-- The root is a scalar in which nothing can be looked for. -/
  | scalar {s : Scalar} (hroot : schema.bare = .scalar s) (hbool : s.kind ≠ .bool)
      (htext : s.kind ≠ .text)
  /-- The root is no mapping, and `$schema` is in it all the same. -/
  | part (hroot : ∀ entries, schema.bare ≠ .mapping entries)
      (hpart : schema.bare.contains dialectKey = .ok true)
  /-- The root is a mapping whose dialect has no address for a name. -/
  | name {entries : List (Scalar × Value)} {name : Value} (hroot : schema.bare = .mapping entries)
      (hname : Entries.get? entries dialectKey = some name) (hno : NoAddress name)

/-- Bytes are no ASCII exactly if one of them is beyond it. -/
theorem asciiOf_cases (bs : List UInt8) :
    (∃ b ∈ bs, 128 ≤ b.toNat) ∧ (∃ f, asciiOf bs = .error f) ∨
      (¬∃ b ∈ bs, 128 ≤ b.toNat) ∧
        asciiOf bs = .ok (String.ofList (bs.map fun b => Char.ofNat b.toNat)) := by
  unfold asciiOf
  split
  · rename_i b i h
    have hmem := List.fst_mem_of_mem_zipIdx (List.mem_of_find?_eq_some h)
    have hbeyond := List.find?_some h
    exact Or.inl ⟨⟨b, hmem, of_decide_eq_true hbeyond⟩, _, rfl⟩
  · rename_i h
    refine Or.inr ⟨?_, rfl⟩
    rintro ⟨b, hb, hle⟩
    obtain ⟨i, hi⟩ := List.getElem?_of_mem hb
    exact List.find?_eq_none.mp h (b, i) (List.mem_zipIdx_iff_getElem?.mpr hi) (decide_eq_true hle)

/-- A dialect cannot be told by its name exactly if that is no address. -/
theorem dialectOf_error_iff (name : Value) : (∃ f, dialectOf name = .error f) ↔ NoAddress name := by
  have hsplit (s : List Char) : (∃ f, (Uri.split s).mapError Fault.malformedUri = .error f) ↔
      ∃ m, Uri.split s = .error m := by
    cases Uri.split s <;> simp
  unfold dialectOf
  split
  · rename_i s
    rw [NoAddress, ← hsplit]
    cases (Uri.split s.toList).mapError Fault.malformedUri <;> simp
  · rename_i bs
    rw [NoAddress]
    rcases asciiOf_cases bs with ⟨hbeyond, f, hf⟩ | ⟨hascii, hs⟩
    · rw [hf]
      exact iff_of_true ⟨f, rfl⟩ (Or.inl hbeyond)
    · rw [hs, ok_bind, or_iff_right hascii, ← hsplit, String.toList_ofList]
      cases (Uri.split _).mapError Fault.malformedUri <;> simp
  · rename_i s htext hbytes
    have hno : NoAddress (.scalar s) = ((Value.scalar s).isFilled = true) := by
      cases s with
      | text t => exact absurd rfl (htext t)
      | bytes bs => exact absurd rfl (hbytes bs)
      | _ => rfl
    rw [hno]
    split <;> simp [*]
  · rename_i hscalar
    have hno : NoAddress name := by
      cases name with
      | scalar s => exact absurd rfl (hscalar s)
      | _ => trivial
    refine iff_of_true ?_ hno
    split <;> exact ⟨_, rfl⟩

/-- A value can be asked for `$schema` unless it is a scalar other than a text. -/
theorem contains_error_iff {v : Value} (hbare : v.bare = v) :
    (∃ f, v.contains dialectKey = .error f) ↔ ∃ s, v = .scalar s ∧ s.kind ≠ .text := by
  cases v with
  | scalar s => cases s with
    | text t => exact iff_of_false nofun fun ⟨_, hs, hne⟩ => by cases hs; exact hne rfl
    | _ => exact iff_of_true ⟨_, rfl⟩ ⟨_, rfl, nofun⟩
  | looped mark body =>
    have hsize := Value.sizeOf_bare body
    rw [Value.bare] at hbare
    rw [hbare, Value.looped.sizeOf_spec] at hsize
    omega
  | _ => simp [Value.contains]

/-- **Of these schemas, and of no others, no dialect can be told.** -/
theorem dialect_error_iff (schema : Value) : (∃ f, dialect schema = .error f) ↔ NoDialect schema := by
  have hbare : schema.bare.bare = schema.bare := Value.bare_bare schema
  unfold dialect dialectName?
  split
  · rename_i b hroot
    refine iff_of_false nofun fun h => ?_
    cases h with
    | scalar hs hbool => rw [hroot] at hs; cases hs; exact hbool rfl
    | part _ hpart => rw [hroot] at hpart; cases hpart
    | name hs => rw [hroot] at hs; cases hs
  · rename_i entries hroot
    have hiff : NoDialect schema ↔
        ∃ name, Entries.get? entries dialectKey = some name ∧ NoAddress name := by
      constructor
      · intro h
        cases h with
        | scalar hs => rw [hroot] at hs; cases hs
        | part hs => exact absurd hroot (hs entries)
        | name hs hname hno =>
          cases hs.symm.trans hroot
          exact ⟨_, hname, hno⟩
      · rintro ⟨name, hname, hno⟩
        exact .name hroot hname hno
    rw [hiff, ok_bind]
    cases Entries.get? entries dialectKey with
    | none => exact iff_of_false nofun nofun
    | some name => simp [dialectOf_error_iff]
  · rename_i hbool hmapping
    cases hcontains : schema.bare.contains dialectKey with
    | error f =>
      obtain ⟨s, hs, htext⟩ := (contains_error_iff hbare).mp ⟨f, hcontains⟩
      refine iff_of_true ⟨f, rfl⟩ (.scalar hs (fun hb => ?_) htext)
      cases s with
      | bool b => exact hbool b hs
      | _ => cases hb
    | ok found =>
      cases found with
      | true => exact iff_of_true ⟨_, rfl⟩ (.part hmapping hcontains)
      | false =>
        refine iff_of_false nofun fun h => ?_
        cases h with
        | scalar hs _ htext =>
          obtain ⟨f, hf⟩ := (contains_error_iff hbare).mpr ⟨_, hs, htext⟩
          rw [hcontains] at hf
          cases hf
        | part _ hpart => rw [hcontains] at hpart; cases hpart
        | name hs => exact hmapping _ hs

/-- The rules of a dialect meet a fault in a schema: when they are applied, or where a violation lies
at a place that has no text. -/
def Baffles (d : Dialect) (schema : Value) : Prop :=
  (∃ f, violation? d .toFirst schema = .error f) ∨
    ∃ v f, violation? d .toFirst schema = .ok (some v) ∧ v.location = .error f

/-- **The check meets a fault exactly where no dialect can be told**, or where the rules of the dialect
meet one. -/
theorem check_fault_iff (schema : Value) : (∃ f, check schema = .error (.fault f)) ↔
    NoDialect schema ∨ ∃ d, dialect schema = .ok d ∧ Baffles d schema := by
  rw [← dialect_error_iff]
  unfold check Baffles
  cases dialect schema with
  | error f => exact iff_of_true ⟨f, rfl⟩ (Or.inl ⟨f, rfl⟩)
  | ok d =>
    simp only [orFail, mapError_ok, ok_bind, reduceCtorEq, exists_false, false_or, Except.ok.injEq,
      exists_eq_left']
    cases violation? d .toFirst schema with
    | error f => exact iff_of_true ⟨f, rfl⟩ (Or.inl ⟨f, rfl⟩)
    | ok found => cases found with
      | none => exact iff_of_false nofun (by simp)
      | some v =>
        simp only [mapError_ok, ok_bind]
        cases hlocation : v.location with
        | error f => exact iff_of_true ⟨f, rfl⟩ (Or.inr ⟨v, f, rfl, hlocation⟩)
        | ok location =>
          refine iff_of_false nofun ?_
          rintro (⟨f, hf⟩ | ⟨w, f, hw, hf⟩)
          · cases hf
          · cases hw
            cases hlocation.symm.trans hf

/-- The check refuses a schema for its shape, or it cannot judge it. -/
theorem check_cases (schema : Value) : check schema = .ok () ∨
    (∃ location reason, check schema = .error (.invalidSchema location reason)) ∨
      ∃ f, check schema = .error (.fault f) := by
  unfold check
  cases dialect schema with
  | error f => exact Or.inr (Or.inr ⟨f, rfl⟩)
  | ok d =>
    simp only [orFail, mapError_ok, ok_bind]
    cases violation? d .toFirst schema with
    | error f => exact Or.inr (Or.inr ⟨f, rfl⟩)
    | ok found => cases found with
      | none => exact Or.inl rfl
      | some v =>
        simp only [mapError_ok, ok_bind]
        cases v.location with
        | error f => exact Or.inr (Or.inr ⟨f, rfl⟩)
        | ok location => exact Or.inr (Or.inl ⟨location, v.reason, rfl⟩)

theorem check_of_dialect {f : Fault} (h : dialect schema = .error f) :
    check schema = .error (.fault f) := by
  rw [check, h]
  rfl

/-- A root that is neither a truth value nor a text, and has no parts, has no members to look for a
dialect in. -/
theorem check_of_scalar {s : Scalar} (hroot : schema.bare = .scalar s) (hbool : s.kind ≠ .bool)
    (htext : s.kind ≠ .text) : ∃ f : Fault, check schema = .error (.fault f) ∧ f.category = .type := by
  have hdialect : ∃ f : Fault, dialect schema = .error f ∧ f.category = .type := by
    rw [dialect, dialectName?, hroot]
    cases s with
    | bool b => exact absurd rfl hbool
    | text t => exact absurd rfl htext
    | _ => exact ⟨_, rfl, rfl⟩
  obtain ⟨f, hf, hsort⟩ := hdialect
  exact ⟨f, check_of_dialect hf, hsort⟩

/-- A mapping whose dialect has a malformed address for a name. -/
theorem check_of_malformed {entries : List (Scalar × Value)} {name : String} {m : Uri.Malformed}
    (hroot : schema.bare = .mapping entries)
    (hname : Entries.get? entries dialectKey = some (.text name))
    (hsplit : Uri.split name.toList = .error m) :
    check schema = .error (.fault (.malformedUri m)) := by
  refine check_of_dialect ?_
  rw [dialect, dialectName?, hroot]
  simp only [hname, ok_bind]
  rw [dialectOf, hsplit]
  rfl

end Schema

/-! ## §2 Filters -/

/-- What a failure is caught by: its class and, if it is a fault, the sort of that. -/
def Failure.sort : Failure → FailureClass × Option FaultCategory
  | .fault f => (.internal, some f.category)
  | f => (f.category, none)

namespace Resolve

/-- One result is another one with some of what it shows refused as being of the wrong shape. -/
structure Filters (lax strict : Except Failure Value) : Prop where
  ok : ∀ v, lax = .ok v → strict = .ok v ∨ ∃ f, strict = .error f ∧ f.category = .shape
  error : ∀ f, lax = .error f →
    ∃ g, strict = .error g ∧ (g.sort = f.sort ∨ g.category = .shape)

theorem Filters.refl (x : Except Failure Value) : Filters x x where
  ok _ h := Or.inl h
  error f h := ⟨f, h, Or.inl rfl⟩

/-- A fault is no refusal. -/
theorem Filters.ne_fault {lax : Except Failure Value} {f : Fault}
    (h : Filters lax (.error (.fault f))) : ∃ g : Fault, lax = .error (.fault g) := by
  cases lax with
  | ok v =>
    rcases h.ok v rfl with hv | ⟨g, hg, hshape⟩
    · cases hv
    · cases hg
      cases hshape
  | error g =>
    obtain ⟨f', hf, hsort | hshape⟩ := h.error g rfl
    · cases hf
      cases g with
      | fault g => exact ⟨g, rfl⟩
      | _ => simp [Failure.sort] at hsort
    · cases hf
      cases hshape

/-! ## §3 With and without the check -/

/-- The schema that a file is carried out to. -/
def carriedOut (disk : Disk) (base : Path) (path : String) : Except Failure Value := do
  let found ← orFail (Load.locate disk path base)
  let document ← Load.file disk found
  (inlined disk base found document).result

theorem file_eq_finished (disk : Disk) (base : Path) (strict : Bool) (path : String) :
    (file disk base strict path).result = carriedOut disk base path >>= finished strict := by
  rw [file_result, carriedOut]
  cases orFail (Load.locate disk path base) with
  | error f => rfl
  | ok found =>
    simp only [ok_bind]
    cases Load.file disk found <;> rfl

theorem finished_strict (schema : Value) :
    finished true schema = Schema.check schema >>= fun _ => finished false schema := rfl

/-- Without the check nothing but a root that is no object is refused. -/
theorem finished_lax (schema : Value) :
    (∃ v, finished false schema = .ok v) ∨ finished false schema = .error .notObject := by
  have hroot : finished false schema = schema.objectRoot >>= fun entries =>
      pure (.mapping entries) := rfl
  rw [hroot]
  unfold Value.objectRoot
  split
  · split
    · exact Or.inl ⟨_, rfl⟩
    · exact Or.inr rfl
  · exact Or.inr rfl

/-- A check that refuses is a filter. -/
theorem filters_of_refused {schema : Value} {f : Failure} (h : Schema.check schema = .error f)
    (hshape : f.category = .shape) : Filters (finished false schema) (finished true schema) := by
  rw [finished_strict, h]
  exact ⟨fun _ _ => Or.inr ⟨f, rfl, hshape⟩, fun _ _ => ⟨f, rfl, Or.inr hshape⟩⟩

/-- The check of one schema is a filter unless it cannot judge the schema. -/
theorem filters_finished_iff (schema : Value) :
    Filters (finished false schema) (finished true schema) ↔
      ¬∃ f, Schema.check schema = .error (.fault f) := by
  rcases Schema.check_cases schema with h | ⟨location, reason, h⟩ | ⟨f, h⟩
  · rw [finished_strict, h]
    exact iff_of_true (Filters.refl _) nofun
  · refine iff_of_true (filters_of_refused h rfl) ?_
    rintro ⟨f, hf⟩
    cases h.symm.trans hf
  · refine iff_of_false (fun hfilter => ?_) fun hnone => hnone ⟨f, h⟩
    rw [finished_strict, h] at hfilter
    obtain ⟨g, hg⟩ := hfilter.ne_fault
    rcases finished_lax schema with ⟨v, hv⟩ | hv
    · rw [hv] at hg
      cases hg
    · rw [hv] at hg
      cases hg

/-- **The check is a pure filter exactly where it can judge what it is given**: a file has the same
schema with it, or is refused for its shape, and a failure stays of its class, unless the references
in the file are carried out to a schema that the check meets a fault in. This is one of which no
dialect can be told, or one that the rules of its dialect meet a fault in. -/
theorem file_strict_iff (disk : Disk) (base : Path) (path : String) :
    (Filters (file disk base false path).result (file disk base true path).result ↔
      ∀ schema, carriedOut disk base path = .ok schema →
        ∀ f, Schema.check schema ≠ .error (.fault f)) ∧
    ∀ schema, (∃ f, Schema.check schema = .error (.fault f)) ↔ Schema.NoDialect schema ∨
      ∃ d, Schema.dialect schema = .ok d ∧ Schema.Baffles d schema := by
  refine ⟨?_, Schema.check_fault_iff⟩
  rw [file_eq_finished, file_eq_finished]
  cases carriedOut disk base path with
  | error f => exact iff_of_true (Filters.refl _) nofun
  | ok schema =>
    simp only [ok_bind, filters_finished_iff, Except.ok.injEq, forall_eq', not_exists]

end Resolve

/-! ## §4 Schemas that are not judged -/

namespace Resolve

open Reference (bytesOf)

/-- A disk with an empty file and an object that states a dialect. -/
def unjudged : Disk :=
  ⟨⟨[(["e.yaml"], .file []), (["s.json"], .file (bytesOf
    "\x7b\"type\":\"object\",\"$schema\":\"http://[x\"\x7d"))]⟩, .absolute []⟩

theorem carriedOut_empty : carriedOut unjudged (.absolute []) "e.yaml" = .ok .null := by
  decide +kernel

/-- The object that the second file holds. -/
def strangeDialect : List (Scalar × Value) :=
  [(.text "type", .text "object"), (.text "$schema", .text "http://[x")]

theorem carriedOut_strangeDialect :
    carriedOut unjudged (.absolute []) "s.json" = .ok (.mapping strangeDialect) := by
  decide +kernel

/-- **The check turns a refusal and a success into faults**: an empty file is refused as no object
without it, and with it nothing can be looked for in what the file holds; an object is given without
it, and with it the address of the dialect is malformed. -/
theorem file_strict_faults :
    (file unjudged (.absolute []) false "e.yaml").result = .error .notObject ∧
      (∃ f : Fault, (file unjudged (.absolute []) true "e.yaml").result = .error (.fault f) ∧
        f.category = .type) ∧
      (file unjudged (.absolute []) false "s.json").result = .ok (.mapping strangeDialect) ∧
      (∃ f : Fault, (file unjudged (.absolute []) true "s.json").result = .error (.fault f)) ∧
      ¬Filters (file unjudged (.absolute []) false "e.yaml").result
        (file unjudged (.absolute []) true "e.yaml").result ∧
      ¬Filters (file unjudged (.absolute []) false "s.json").result
        (file unjudged (.absolute []) true "s.json").result := by
  have hnull : ∃ f : Fault, Schema.check .null = .error (.fault f) ∧ f.category = .type :=
    Schema.check_of_scalar rfl nofun nofun
  obtain ⟨f, hempty, hsort⟩ := hnull
  have hstrange : Schema.check (.mapping strangeDialect)
      = .error (.fault (.malformedUri .unbalancedBrackets)) :=
    Schema.check_of_malformed rfl rfl (by decide +kernel)
  have hfault : ∀ {schema : Value} {f : Fault}, Schema.check schema = .error (.fault f) →
      finished true schema = .error (.fault f) := fun h => by
    rw [finished_strict, h]
    rfl
  simp only [file_eq_finished, carriedOut_empty, carriedOut_strangeDialect, ok_bind,
    filters_finished_iff]
  exact ⟨rfl, ⟨f, hfault hempty, hsort⟩, rfl, ⟨_, hfault hstrange⟩, fun h => h ⟨f, hempty⟩,
    fun h => h ⟨_, hstrange⟩⟩

end Resolve

end SchemaDoc
