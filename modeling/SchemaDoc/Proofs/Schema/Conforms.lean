/-
SchemaDoc.Proofs.Schema.Conforms — what a schema has that no rule of its dialect is broken by.

A check finds nothing exactly if every clause is kept, and a clause exactly if
every demand on the value under its keyword is met. The lemmas here read the
demands off that recur in the rules: types, sequences, named schemas, and
alternatives of them.

§1 checks, §2 demands, §3 types of JSON values, §4 what recurs, §5 schemas of draft 4.
-/
import SchemaDoc.Proofs.Failing
import SchemaDoc.Proofs.Value.Json
import SchemaDoc.Proofs.Value.Sets
import SchemaDoc.Schema.Check

namespace SchemaDoc.Schema

variable {d : Dialect} {e : Extent} {v : Value}

/-! ## §1 Checks -/

theorem verdict_eq_none {met : Bool} {b : Breach} : verdict met v b = .ok none ↔ met = true := by
  unfold verdict
  cases met with
  | true => simp
  | false =>
    simp only [Bool.false_eq_true, if_false, iff_false]
    split <;> nofun

theorem andThen_eq_none {here : Finding} {next : Unit → Finding} :
    e.andThen here next = .ok none ↔ here = .ok none ∧ next () = .ok none := by
  unfold Extent.andThen
  split
  · simp
  · simp
  · cases e with
    | toFirst => simp
    | whole => cases next () <;> simp [Except.map]

theorem first_eq_none {fs : List Finding} : e.first fs = .ok none ↔ ∀ f ∈ fs, f = .ok none := by
  induction fs with
  | nil => simp [Extent.first]
  | cons f rest ih => rw [Extent.first, andThen_eq_none, ih, List.forall_mem_cons]

theorem clauses?_eq_none {cs : List Clause} :
    clauses? d e v cs = .ok none ↔ ∀ c ∈ cs, clause? d e v c = .ok none := by
  induction cs with
  | nil => simp
  | cons c rest ih => rw [clauses?, andThen_eq_none, ih, List.forall_mem_cons]

theorem violation?_eq_none :
    violation? d e v = .ok none ↔ ∀ c ∈ Rules.of d, clause? d e v c = .ok none := by
  rw [violation?, clauses?_eq_none]

theorem demands?_eq_none {ds : List Demand} :
    demands? d e v ds = .ok none ↔ ∀ x ∈ ds, demand? d e v x = .ok none := by
  induction ds with
  | nil => simp
  | cons x rest ih => rw [demands?, andThen_eq_none, ih, List.forall_mem_cons]

/-- A finding seen from elsewhere is none where there was none. -/
theorem map_eq_none {f : Finding} {g : Violation → Violation} :
    (f.map fun found => found.map g) = .ok none ↔ f = .ok none := by
  cases f with
  | error => simp [Except.map]
  | ok found => cases found <;> simp [Except.map]

theorem keyword_eq_none {name : String} {ds : List Demand} :
    clause? d e v (.keyword name ds) = .ok none ↔
      ∀ w, v.get? name = some w → demands? d e w ds = .ok none := by
  rw [clause?]
  split
  · rename_i w hw
    simp only [hw, Option.some.injEq, forall_eq']
    cases demands? d e w ds with
    | error => simp
    | ok found => cases found <;> simp
  · rename_i hw
    simp [hw]

/-! ## §2 Demands -/

theorem type_eq_none {t : JsonType} :
    demand? d e v (Rules.a t) = .ok none ↔ v.isOfType d t = true := by
  unfold Rules.a
  rw [demand?, isOneOf, isOneOf]
  split
  · rename_i h
    simp [verdict_eq_none, h]
  · rename_i h
    simp [verdict_eq_none, h]

theorem items?_eq_none {ds : List Demand} {place : Nat} {items : List Value} :
    items? d e ds place items = .ok none ↔ ∀ w ∈ items, demands? d e w ds = .ok none := by
  induction items generalizing place with
  | nil => simp
  | cons w rest ih => rw [items?, andThen_eq_none, map_eq_none, ih, List.forall_mem_cons]

theorem items_eq_none {ds : List Demand} {items : List Value} :
    demand? d e (.sequence items) (.items ds) = .ok none ↔
      ∀ w ∈ items, demands? d e w ds = .ok none := by
  rw [demand?]
  split
  · rename_i items' h
    cases h
    exact items?_eq_none
  · rename_i h
    exact absurd rfl (h items)

theorem mem_values {ds : List Demand} {entries : List (Scalar × Value)} {f : Scalar × Finding} :
    f ∈ values d e ds entries ↔ ∃ entry ∈ entries, f = (entry.1,
      (demands? d e entry.2 ds).map fun found => found.map (·.underKey entry.1)) := by
  induction entries with
  | nil => simp
  | cons entry rest ih => rw [values, List.mem_cons, ih]; simp

/-- The values of a JSON object are all looked at, whatever the order of its keys. -/
theorem values_eq_none {ds : List Demand} {entries : List (Scalar × Value)}
    (h : (Value.mapping entries).IsJson) :
    demand? d e (.mapping entries) (.values ds) = .ok none ↔
      ∀ entry ∈ entries, demands? d e entry.2 ds = .ok none := by
  obtain ⟨htext, hnodup, -⟩ := Value.isJson_mapping.mp h
  have hkeys : (values d e ds entries).map (·.1) = entries.map (·.1) := by
    clear h htext hnodup
    induction entries with
    | nil => simp
    | cons entry rest ih => rw [values, List.map_cons, List.map_cons, ih]
  have htext' : ∀ f ∈ values d e ds entries, ∃ s, f.1 = .text s := by
    intro f hf
    obtain ⟨entry, hentry, rfl⟩ := mem_values.mp hf
    exact htext entry hentry
  rw [demand?]
  split
  · rename_i entries' h'
    cases h'
    rw [first_eq_none]
    simp only [List.forall_mem_map, Sets.mem_inKeyOrder htext' (hkeys ▸ hnodup), mem_values]
    constructor
    · exact fun hall entry hentry => map_eq_none.mp (hall _ ⟨entry, hentry, rfl⟩)
    · rintro hall _ ⟨entry, hentry, rfl⟩
      exact map_eq_none.mpr (hall entry hentry)
  · rename_i h'
    exact absurd rfl (h' entries)

theorem meetsOne_eq_true : ∀ {alternatives : List (List Demand)},
    meetsOne d v alternatives = .ok true → ∃ ds ∈ alternatives, demands? d .whole v ds = .ok none
  | [], h => by
    rw [meetsOne] at h
    cases h
  | ds :: rest, h => by
    rw [meetsOne] at h
    obtain ⟨found, hfound, h⟩ := bind_eq_ok.mp h
    cases found with
    | none => exact ⟨ds, List.mem_cons_self .., hfound⟩
    | some _ =>
      obtain ⟨ds', hmem, h'⟩ := meetsOne_eq_true h
      exact ⟨ds', List.mem_cons_of_mem _ hmem, h'⟩

/-- One of some alternatives is met. -/
theorem exists_of_anyOf {alternatives : List (List Demand)}
    (h : demand? d e v (.anyOf alternatives) = .ok none) :
    ∃ ds ∈ alternatives, demands? d .whole v ds = .ok none := by
  rw [demand?] at h
  obtain ⟨met, hmet, h⟩ := bind_eq_ok.mp h
  rw [verdict_eq_none.mp h] at hmet
  exact meetsOne_eq_true hmet

/-! ## §3 Types of JSON values -/

theorem sequence_of_type (hv : v.IsJson) (h : v.isOfType d .array = true) :
    ∃ items, v = .sequence items := by
  have hkind : v.kind = .sequence := beq_iff_eq.mp h
  cases v with
  | sequence items => exact ⟨items, rfl⟩
  | scalar s => cases s <;> cases hkind
  | looped => exact absurd hv Value.not_isJson_looped
  | _ => cases hkind

theorem mapping_of_type (hv : v.IsJson) (h : v.isOfType d .object = true) :
    ∃ entries, v = .mapping entries := by
  have hkind : v.kind = .mapping := beq_iff_eq.mp h
  cases v with
  | mapping entries => exact ⟨entries, rfl⟩
  | scalar s => cases s <;> cases hkind
  | looped => exact absurd hv Value.not_isJson_looped
  | _ => cases hkind

theorem number_of_type (hv : v.IsJson) (h : v.isOfType d .number = true) :
    (∃ n, v = .integer n) ∨ ∃ x, v = .number x := by
  have hkind : v.kind = .integer ∨ v.kind = .number := by
    simpa only [Value.isOfType, Bool.or_eq_true, beq_iff_eq] using h
  cases v with
  | scalar s =>
    cases s with
    | integer n => exact Or.inl ⟨n, rfl⟩
    | number x => exact Or.inr ⟨x, rfl⟩
    | _ => rcases hkind with hkind | hkind <;> cases hkind
  | looped => exact absurd hv Value.not_isJson_looped
  | _ => rcases hkind with hkind | hkind <;> cases hkind

/-! ## §4 What recurs -/

theorem type_of_first {t : JsonType} {ds : List Demand}
    (h : demands? d e v (Rules.a t :: ds) = .ok none) : v.isOfType d t = true :=
  type_eq_none.mp (demands?_eq_none.mp h _ (List.mem_cons_self ..))

theorem violation?_of_demand (h : demands? d e v [.schema] = .ok none) :
    violation? d e v = .ok none := by
  have h := demands?_eq_none.mp h .schema (List.mem_singleton_self _)
  rwa [demand?] at h

/-- The name of a type names a type. -/
theorem typeNames_eq_none {d : Dialect} {e : Extent} (t : JsonType) :
    demands? d e (.text t.name) Rules.typeNames = .ok none := by
  have h : demands? d .whole (.text t.name) [.typeName] = .ok none := by
    rw [demands?_eq_none, List.forall_mem_singleton, demand?, verdict_eq_none]
    cases t <;> rfl
  rw [Rules.typeNames, demands?_eq_none, List.forall_mem_singleton, demand?, meetsOne, h]
  rfl

theorem schemas_of_namedSchemas (hv : v.IsJson) (h : demands? d e v Rules.namedSchemas = .ok none) :
    ∃ entries, v = .mapping entries ∧
      ∀ entry ∈ entries, violation? d e entry.2 = .ok none := by
  obtain ⟨entries, rfl⟩ := mapping_of_type hv (type_of_first h)
  have hvalues := (values_eq_none hv).mp
    (demands?_eq_none.mp h (.values [.schema]) (by simp [Rules.namedSchemas]))
  exact ⟨entries, rfl, fun entry hentry => violation?_of_demand (hvalues entry hentry)⟩

theorem schemas_of_someSchemas (hv : v.IsJson) (h : demands? d e v Rules.someSchemas = .ok none) :
    ∃ items, v = .sequence items ∧ ∀ w ∈ items, violation? d e w = .ok none := by
  obtain ⟨items, rfl⟩ := sequence_of_type hv (type_of_first h)
  have hitems := items_eq_none.mp
    (demands?_eq_none.mp h (.items [.schema]) (by simp [Rules.someSchemas]))
  exact ⟨items, rfl, fun w hw => violation?_of_demand (hitems w hw)⟩

/-! ## §5 Schemas of draft 4 -/

/-- No rule of draft 4 is broken. -/
def Conforms (v : Value) : Prop := ∃ e, violation? .draft4 e v = .ok none

namespace Conforms

variable {w : Value} {key : String}

theorem keyword (h : Conforms v) (ds : List Demand) (hmem : Clause.keyword key ds ∈ Rules.draft4)
    (hw : v.get? key = some w) : ∃ e, demands? .draft4 e w ds = .ok none := by
  obtain ⟨e, h⟩ := h
  exact ⟨e, keyword_eq_none.mp (violation?_eq_none.mp h _ hmem) w hw⟩

/-- Every schema is a mapping. -/
theorem mapping (hv : v.IsJson) (h : Conforms v) : ∃ entries, v = .mapping entries := by
  obtain ⟨e, h⟩ := h
  have htype := violation?_eq_none.mp h (.types [.object]) (by simp [Rules.of, Rules.draft4])
  rw [clause?, verdict_eq_none] at htype
  exact mapping_of_type hv (by simpa using htype)

theorem number (h : Conforms v) (hv : v.IsJson) (hw : v.get? key = some w)
    (hkey : key = "minimum" ∨ key = "maximum") :
    (∃ n, w = .integer n) ∨ ∃ x, w = .number x := by
  have hmem : Clause.keyword key Rules.number ∈ Rules.draft4 := by
    rcases hkey with rfl | rfl <;> simp [Rules.draft4]
  obtain ⟨e, h⟩ := h.keyword _ hmem hw
  exact number_of_type (hv.of_get? hw) (type_of_first h)

theorem properties (h : Conforms v) (hv : v.IsJson) (hw : v.get? "properties" = some w) :
    ∃ entries, w = .mapping entries ∧ ∀ entry ∈ entries, Conforms entry.2 := by
  obtain ⟨e, h⟩ := h.keyword (Rules.namedSchemas) (by simp [Rules.draft4]) hw
  obtain ⟨entries, rfl, hall⟩ := schemas_of_namedSchemas (hv.of_get? hw) h
  exact ⟨entries, rfl, fun entry hentry => ⟨e, hall entry hentry⟩⟩

/-- The schema of the members of an array, or their schemas one by one. -/
theorem items (h : Conforms v) (hv : v.IsJson) (hw : v.get? "items" = some w) :
    Conforms w ∨ ∃ items, w = .sequence items ∧ ∀ m ∈ items, Conforms m := by
  obtain ⟨e, h⟩ := h.keyword (Rules.schemaOrSome) (by simp [Rules.draft4]) hw
  obtain ⟨ds, hds, h⟩ := exists_of_anyOf (demands?_eq_none.mp h _ (List.mem_singleton_self _))
  simp only [List.mem_cons, List.not_mem_nil, or_false] at hds
  rcases hds with rfl | rfl
  · exact Or.inl ⟨.whole, violation?_of_demand h⟩
  · obtain ⟨items, rfl, hall⟩ := schemas_of_someSchemas (hv.of_get? hw) h
    exact Or.inr ⟨items, rfl, fun m hm => ⟨.whole, hall m hm⟩⟩

end Conforms

end SchemaDoc.Schema
