/-
SchemaDoc.Proofs.Json.RoundTrip — a default is read back from its JSON.

Defaults are shown as compact JSON, with whole doubles as the integers that they
are. A JSON value whose doubles are all whole is therefore read back as itself
but for its doubles, each of which comes back as the integer (`readsAs_document`).
Zero with a minus sign comes back as zero, and the largest doubles come back with
all their digits. Lists come back item by item and mappings with their keys in
order; of its texts every code point comes back, halves of surrogate pairs among
them.

An integer that is too long to be written has no JSON, so it is left out; a whole
double is never that long. Values may be nested as deeply as one likes: an
interpreter's limit on calls inside one another is not modelled in the writer,
and the reader is taken with room for every document (`Json.read`).

§1 values, §2 whole doubles as integers, §3 reading back.
-/
import SchemaDoc.Descriptor.Literal
import SchemaDoc.Load
import SchemaDoc.Proofs.Json.ReadBack
import SchemaDoc.Proofs.Value.Sameness
import SchemaDoc.Proofs.Value.Written

namespace SchemaDoc

/-! ## §1 Values -/

/-- A scalar of a JSON document that is no fraction: a double is a whole number. Integers are not
too long, and texts spell code points. -/
inductive Scalar.IsWhole : Scalar → Prop
  | null : IsWhole .null
  | bool (b : Bool) : IsWhole (.bool b)
  | integer {n : Int} (h : Decimal.isTooLong n = false) : IsWhole (.integer n)
  | number {x : Binary64} {n : Int} (h : x.identity = .finite n) : IsWhole (.number x)
  | text {t : String} (h : Text.Spelled t.toList) : IsWhole (.text t)

namespace Value

/-- A value of a JSON document without fractions. The keys of a mapping are different texts. -/
inductive IsWhole : Value → Prop
  | scalar {s : Scalar} (h : s.IsWhole) : IsWhole (.scalar s)
  | sequence {items : List Value} (h : ∀ v ∈ items, IsWhole v) : IsWhole (.sequence items)
  | mapping {entries : List (Scalar × Value)}
      (hkeys : ∀ e ∈ entries, ∃ t : String, e.1 = .text t ∧ Text.Spelled t.toList)
      (hnodup : (entries.map (·.1)).Nodup) (h : ∀ e ∈ entries, IsWhole e.2) :
      IsWhole (.mapping entries)

/-- The second value is the first one with each whole double replaced by the equal integer; the
keys of mappings stay in their order. -/
inductive ReadsAs : Value → Value → Prop
  | whole {x : Binary64} {n : Int} (h : x.identity = .finite n) : ReadsAs (.number x) (.integer n)
  | scalar {s : Scalar} (h : s.kind ≠ .number) : ReadsAs (.scalar s) (.scalar s)
  | sequence {vs ws : List Value} (h : List.Forall₂ ReadsAs vs ws) :
      ReadsAs (.sequence vs) (.sequence ws)
  | mapping {es fs : List (Scalar × Value)} (hkeys : es.map (·.1) = fs.map (·.1))
      (h : List.Forall₂ ReadsAs (es.map (·.2)) (fs.map (·.2))) :
      ReadsAs (.mapping es) (.mapping fs)

/-! ## §2 Whole doubles as integers -/

theorem itemsWithWholeNumbers_eq (items : List Value) :
    itemsWithWholeNumbers items = items.map withWholeNumbers := by
  induction items with
  | nil => rfl
  | cons v rest ih => rw [itemsWithWholeNumbers, ih, List.map_cons]

theorem entriesWithWholeNumbers_eq (entries : List (Scalar × Value)) :
    entriesWithWholeNumbers entries = entries.map fun e => (e.1, e.2.withWholeNumbers) := by
  induction entries with
  | nil => rfl
  | cons e rest ih => rw [entriesWithWholeNumbers, ih, List.map_cons]

theorem IsWhole.readsAs {v : Value} (h : v.IsWhole) : v.ReadsAs v.withWholeNumbers := by
  induction h with
  | scalar h =>
    cases h with
    | number hx =>
      rw [withWholeNumbers, wholeScalar, Binary64.toInt?_eq_some_iff.mpr hx]
      exact .whole hx
    | _ => exact .scalar (by simp [Scalar.kind])
  | sequence _ ih =>
    rw [withWholeNumbers, itemsWithWholeNumbers_eq]
    exact .sequence (List.forall₂_map_right_iff.mpr (List.forall₂_same.mpr ih))
  | mapping _ _ _ ih =>
    rw [withWholeNumbers, entriesWithWholeNumbers_eq]
    refine .mapping (by simp) ?_
    rw [List.map_map, List.forall₂_map_left_iff, List.forall₂_map_right_iff]
    exact List.forall₂_same.mpr ih

/-! ## §3 Reading back -/

theorem readsBack_wholeScalar {s : Scalar} (h : s.IsWhole) :
    Json.ReadsBack (.scalar (wholeScalar s)) := by
  cases h with
  | null => exact Json.readsBack_null
  | bool b => exact Json.readsBack_bool b
  | integer h => exact Json.readsBack_integer h
  | number h =>
    have hint := Binary64.toInt?_eq_some_iff.mpr h
    rw [wholeScalar, hint]
    exact Json.readsBack_integer (Binary64.not_isTooLong_of_toInt? hint)
  | text h => exact Json.readsBack_text h

/-- With integers in place of its doubles, a value is read back as it is. -/
theorem IsWhole.readsBack {v : Value} (h : v.IsWhole) : Json.ReadsBack v.withWholeNumbers := by
  induction h with
  | scalar h => exact readsBack_wholeScalar h
  | sequence _ ih =>
    rw [withWholeNumbers, itemsWithWholeNumbers_eq]
    exact Json.readsBack_sequence (List.forall_mem_map.mpr ih)
  | mapping hkeys hnodup _ ih =>
    rw [withWholeNumbers, entriesWithWholeNumbers_eq]
    refine Json.readsBack_mapping
      (List.forall_mem_map.mpr fun e he => ⟨hkeys e he, ih e he⟩) ?_
    rwa [List.map_map]

/-- **A default is read back from its JSON**, apart from whole doubles, which come back as
integers. -/
theorem readsAs_document {v : Value} (h : v.IsWhole) : ∃ json w, v.compactJson = .ok json ∧
    v.ReadsAs w ∧ ∀ origin reading, Load.document json ".json" origin reading = .ok w := by
  refine ⟨String.ofList (Json.write Json.compact v.withWholeNumbers), v.withWholeNumbers, ?_,
    h.readsAs, fun origin reading => ?_⟩
  · rw [compactJson, Json.render, h.readsBack.fault]
    rfl
  · have hformat : Format.ofSuffix? ".json" = some .json := by decide
    rw [Load.document, hformat]
    simp only [Load.json, String.toList_ofList, h.readsBack.read_write]

/-- A mapping, its keys out of order, with a zero that has a minus sign, a large double, an empty
mapping, an empty list and a text with characters that are escaped and others that are not. -/
def nestedDefault : Value :=
  .mapping [(.text "b", .number (.zero true)), (.text "a", .sequence
    [.number (.finite false 5000000000000000 1 (by decide)), .mapping [], .sequence [],
      .text "\"\\\n\x01é😀"])]

theorem isWhole_nestedDefault : nestedDefault.IsWhole := by
  have hspelled : ∀ {t : String} (cs : List Char), t.toList = Text.ofChars cs →
      Text.Spelled t.toList := fun cs ht => ht ▸ Text.spelled_ofChars cs
  have hzero : (Binary64.zero true).identity = .finite (0 : Int) :=
    Binary64.toInt?_eq_some_iff.mp (by decide)
  have hlarge : (Binary64.finite false 5000000000000000 1 (by decide)).identity
      = .finite (10000000000000000 : Int) := Binary64.toInt?_eq_some_iff.mp (by decide)
  refine .mapping ?_ (by decide) (List.forall_mem_cons.mpr ⟨.scalar (.number hzero),
    List.forall_mem_singleton.mpr (.sequence ?_)⟩)
  · exact List.forall_mem_cons.mpr ⟨⟨"b", rfl, hspelled ['b'] (by decide)⟩,
      List.forall_mem_singleton.mpr ⟨"a", rfl, hspelled ['a'] (by decide)⟩⟩
  · simp only [List.forall_mem_cons]
    exact ⟨.scalar (.number hlarge), .mapping (List.forall_mem_nil _) .nil (List.forall_mem_nil _),
      .sequence (List.forall_mem_nil _),
      .scalar (.text (hspelled ['"', '\\', '\n', '\x01', 'é', '😀'] (by decide))),
      List.forall_mem_nil _⟩

/-- The zero is shown without its sign, and the large double with all its digits. -/
theorem readsAs_document_nested : nestedDefault.IsWhole ∧ ∃ json w,
    nestedDefault.compactJson = .ok json ∧
    json = "\x7b\"b\":0,\"a\":[10000000000000000,\x7b\x7d,[],\"\\\"\\\\\\n\\u0001é😀\"]\x7d" ∧
    nestedDefault.ReadsAs w ∧ Load.document json ".json" Load.memory = .ok w := by
  obtain ⟨json, w, hjson, hw, hread⟩ := readsAs_document isWhole_nestedDefault
  have hshown : nestedDefault.compactJson
      = .ok "\x7b\"b\":0,\"a\":[10000000000000000,\x7b\x7d,[],\"\\\"\\\\\\n\\u0001é😀\"]\x7d" :=
    toOption_eq_some.mp (by decide +kernel)
  exact ⟨isWhole_nestedDefault, json, w, hjson, Except.ok.inj (hjson.symm.trans hshown), hw,
    hread _ _⟩

end Value

end SchemaDoc
