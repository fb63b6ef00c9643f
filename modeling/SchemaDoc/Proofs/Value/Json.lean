/-
SchemaDoc.Proofs.Value.Json — the values of JSON documents.

A JSON document has no bytes, dates, sets or pairs, no value that holds itself,
and its keys are different texts (`isJson_of_read`).

§1 JSON values, §2 what is read.
-/
import SchemaDoc.Json.Reader
import SchemaDoc.Proofs.Failing
import SchemaDoc.Proofs.Value.Every

namespace SchemaDoc

/-! ## §1 JSON values -/

/-- A scalar of a JSON document. -/
def Scalar.isJson : Scalar → Bool
  | .null | .bool _ | .integer _ | .number _ | .text _ => true
  | .bytes _ | .date _ | .timestamp _ => false

namespace Value

/-- A value that may stand in a JSON document, apart from the values in it. -/
def isJsonPart : Value → Bool
  | .scalar s => s.isJson
  | .sequence _ => true
  | .mapping entries =>
    entries.all (fun e => e.1.kind == .text) && decide (entries.map (·.1)).Nodup
  | _ => false

/-- A value of a JSON document. -/
def IsJson (v : Value) : Prop := v.every isJsonPart = true

theorem everyItem_iff {p : Value → Bool} : ∀ {items : List Value},
    everyItem p items = true ↔ ∀ v ∈ items, v.every p = true := by
  intro items
  induction items with
  | nil => simp [everyItem]
  | cons v rest ih => rw [everyItem, Bool.and_eq_true, ih, List.forall_mem_cons]

theorem everyEntry_iff {p : Value → Bool} : ∀ {entries : List (Scalar × Value)},
    everyEntry p entries = true ↔ ∀ e ∈ entries, e.2.every p = true := by
  intro entries
  induction entries with
  | nil => simp [everyEntry]
  | cons e rest ih => rw [everyEntry, Bool.and_eq_true, ih, List.forall_mem_cons]

theorem isJson_sequence {items : List Value} :
    (Value.sequence items).IsJson ↔ ∀ v ∈ items, v.IsJson := by
  rw [IsJson, every, Bool.and_eq_true, everyItem_iff]
  exact and_iff_right rfl

theorem kind_eq_text {s : Scalar} : s.kind = .text ↔ ∃ t, s = .text t := by
  cases s <;> simp [Scalar.kind]

theorem isJson_mapping {entries : List (Scalar × Value)} :
    (Value.mapping entries).IsJson ↔ (∀ e ∈ entries, ∃ t, e.1 = .text t) ∧
      (entries.map (·.1)).Nodup ∧ ∀ e ∈ entries, e.2.IsJson := by
  rw [IsJson, every, Bool.and_eq_true, everyEntry_iff, isJsonPart]
  simp only [Bool.and_eq_true, List.all_eq_true, beq_iff_eq, decide_eq_true_eq, kind_eq_text,
    and_assoc]
  rfl

theorem get?_nil (key : String) : (Value.mapping []).get? key = none := rfl

/-- The value under a key of a JSON object, entry by entry. -/
theorem get?_cons {k key : String} {v : Value} {rest : List (Scalar × Value)} :
    (Value.mapping ((.text k, v) :: rest)).get? key
      = if key = k then some v else (Value.mapping rest).get? key := by
  have hsame : ((Scalar.text key).same (.text k) = true) = (key = k) := by
    simp [Scalar.same, Scalar.toInt?]
  simp only [Value.get?, Value.bare, Entries.get?, hsame]

theorem not_isJson_looped {mark : Nat} {body : Value} : ¬(Value.looped mark body).IsJson :=
  fun h => nomatch (every_self h : isJsonPart (.looped mark body) = true)

theorem IsJson.bare_eq {v : Value} (h : v.IsJson) : v.bare = v := by
  cases v with
  | looped => exact absurd h not_isJson_looped
  | _ => rfl

theorem IsJson.of_get? {v w : Value} {key : String} (h : v.IsJson) (hw : v.get? key = some w) :
    w.IsJson := every_of_get? h hw

end Value

/-! ## §2 What is read -/

namespace Entries

theorem same_self (t : String) : (Scalar.text t).same (.text t) = true := by
  simp [Scalar.same, Scalar.toInt?]

theorem mem_insert {t : String} {v : Value} {e : Scalar × Value} :
    ∀ {entries : List (Scalar × Value)}, e ∈ insert entries (.text t) v →
      (e.1 = .text t ∨ e.1 ∈ entries.map (·.1)) ∧ (e.2 = v ∨ e ∈ entries)
  | [], h => by
    rw [insert, List.mem_singleton] at h
    subst h
    exact ⟨Or.inl rfl, Or.inl rfl⟩
  | (k, w) :: rest, h => by
    rw [insert] at h
    split at h
    · rcases List.mem_cons.mp h with rfl | h
      · exact ⟨Or.inr (List.mem_cons_self ..), Or.inl rfl⟩
      · exact ⟨Or.inr (List.mem_cons_of_mem _ (List.mem_map_of_mem h)),
          Or.inr (List.mem_cons_of_mem _ h)⟩
    · rcases List.mem_cons.mp h with rfl | h
      · exact ⟨Or.inr (List.mem_cons_self ..), Or.inr (List.mem_cons_self ..)⟩
      · obtain ⟨hkey, hvalue⟩ := mem_insert h
        exact ⟨hkey.imp id (List.mem_cons_of_mem _), hvalue.imp id (List.mem_cons_of_mem _)⟩

theorem nodup_insert {t : String} {v : Value} : ∀ {entries : List (Scalar × Value)},
    (entries.map (·.1)).Nodup → ((insert entries (.text t) v).map (·.1)).Nodup
  | [], _ => by simp [insert]
  | (k, w) :: rest, h => by
    rw [List.map_cons, List.nodup_cons] at h
    rw [insert]
    split
    · rw [List.map_cons, List.nodup_cons]
      exact h
    · rename_i hsame
      rw [List.map_cons, List.nodup_cons]
      refine ⟨fun hmem => ?_, nodup_insert h.2⟩
      obtain ⟨e, he, hk⟩ := List.mem_map.mp hmem
      rcases (mem_insert he).1 with hkey | hkey
      · have hkey : k = .text t := hk.symm.trans hkey
        rw [hkey] at hsame
        exact hsame (same_self t)
      · exact h.1 (hk ▸ hkey)

/-- A new text goes to the end. -/
theorem insert_of_not_mem {t : String} {v : Value} : ∀ {entries : List (Scalar × Value)},
    (∀ e ∈ entries, ∃ u : String, e.1 = .text u) → Scalar.text t ∉ entries.map (·.1) →
      insert entries (.text t) v = entries ++ [(.text t, v)]
  | [], _, _ => rfl
  | (k, w) :: rest, htext, h => by
    obtain ⟨⟨u, hu⟩, hrest⟩ := List.forall_mem_cons.mp htext
    obtain rfl : k = .text u := hu
    rw [List.map_cons, List.mem_cons, not_or] at h
    have hsame : ¬((Scalar.text t).same (.text u) = true) := by
      simpa [Scalar.same, Scalar.toInt?] using h.1
    rw [insert, if_neg hsame, insert_of_not_mem hrest h.2, List.cons_append]

/-- Entries under different texts are a mapping as they are. -/
theorem ofList_of_nodup {entries : List (Scalar × Value)}
    (htext : ∀ e ∈ entries, ∃ t : String, e.1 = .text t) (h : (entries.map (·.1)).Nodup) :
    ofList entries = entries := by
  suffices hall : ∀ start : List (Scalar × Value), (∀ e ∈ start, ∃ t : String, e.1 = .text t) →
      ((start ++ entries).map (·.1)).Nodup →
      entries.foldl (fun acc e => insert acc e.1 e.2) start = start ++ entries by
    exact hall [] (fun _ he => nomatch he) h
  clear h
  induction entries with
  | nil => exact fun start _ _ => (List.append_nil start).symm
  | cons e rest ih =>
    obtain ⟨⟨t, ht⟩, hrest⟩ := List.forall_mem_cons.mp htext
    intro start hstart hnodup
    have hnew : Scalar.text t ∉ start.map (·.1) := by
      rw [List.map_append, List.map_cons, ht] at hnodup
      exact fun hmem => (List.nodup_append.mp hnodup).2.2 _ hmem _ (List.mem_cons_self ..) rfl
    have heq : start ++ e :: rest = (start ++ [e]) ++ rest := by simp
    rw [List.foldl_cons, ht, insert_of_not_mem hstart hnew, ← ht, heq]
    refine ih hrest (start ++ [e]) ?_ (heq ▸ hnodup)
    exact List.forall_mem_append.mpr ⟨hstart, List.forall_mem_singleton.mpr ⟨t, ht⟩⟩

end Entries

namespace Value

theorem isJson_insert {entries : List (Scalar × Value)} {t : String} {v : Value}
    (h : (Value.mapping entries).IsJson) (hv : v.IsJson) :
    (Value.mapping (Entries.insert entries (.text t) v)).IsJson := by
  obtain ⟨htext, hnodup, hall⟩ := isJson_mapping.mp h
  refine isJson_mapping.mpr ⟨fun e he => ?_, Entries.nodup_insert hnodup, fun e he => ?_⟩
  · rcases (Entries.mem_insert he).1 with hkey | hkey
    · exact ⟨t, hkey⟩
    · obtain ⟨e', he', hk⟩ := List.mem_map.mp hkey
      rw [← hk]
      exact htext e' he'
  · rcases (Entries.mem_insert he).2 with hvalue | hvalue
    · rwa [hvalue]
    · exact hall e hvalue

/-- Entries under texts make a JSON object, also where names are repeated. -/
theorem isJson_ofList {entries : List (Scalar × Value)} (htext : ∀ e ∈ entries, ∃ t, e.1 = .text t)
    (hall : ∀ e ∈ entries, e.2.IsJson) : (Value.mapping (Entries.ofList entries)).IsJson := by
  have hempty : (Value.mapping []).IsJson := rfl
  suffices h : ∀ start, (Value.mapping start).IsJson →
      (Value.mapping (entries.foldl (fun acc e => Entries.insert acc e.1 e.2) start)).IsJson from
    h [] hempty
  clear hempty
  induction entries with
  | nil => exact fun start hstart => hstart
  | cons e rest ih =>
    obtain ⟨⟨t, ht⟩, htext⟩ := List.forall_mem_cons.mp htext
    obtain ⟨he, hall⟩ := List.forall_mem_cons.mp hall
    intro start hstart
    refine ih htext hall (Entries.insert start e.1 e.2) ?_
    rw [ht]
    exact isJson_insert hstart he

end Value

namespace Json

/-- What a step reads, apart from the text that is left. -/
abbrev Reads {α : Type} (P : α → Prop) (x : Step α) : Prop := Yields (fun r => P r.1) x

theorem Reads.map {α β : Type} {P : α → Prop} {P' : β → Prop} {x : Step α} {f : α → β}
    (h : Reads P x) (hf : ∀ a, P a → P' (f a)) :
    Reads P' (x.map fun (a, left) => (f a, left)) := by
  intro r hr
  obtain ⟨⟨a, left⟩, ha, rfl⟩ := map_eq_ok.mp hr
  exact hf a (h _ ha)

theorem isJson_name? {s : List Char} {v : Value} {left : List Char}
    (h : name? s = some (v, left)) : v.IsJson := by
  obtain ⟨⟨word, w⟩, hmem, h⟩ := List.exists_of_findSome?_eq_some h
  obtain ⟨_, -, h⟩ := Option.map_eq_some_iff.mp h
  cases h
  have hall : ∀ e ∈ names, e.2.isJsonPart = true := by decide
  have hpart := hall _ hmem
  cases v with
  | scalar s => exact hpart
  | _ => simp [names] at hmem

theorem isJson_number (start : List Char) (negative : Bool) (s : List Char) :
    Reads Value.IsJson (numberAfterSign start negative s) := by
  unfold numberAfterSign
  split
  · exact yields_error _
  · simp only
    split
    · split
      · exact yields_ok rfl
      · exact yields_error _
    · exact yields_ok rfl

/-- The members of an object: values under texts. -/
def AreMembers (es : List (Scalar × Value)) : Prop :=
  (∀ e ∈ es, ∃ t, e.1 = .text t) ∧ ∀ e ∈ es, e.2.IsJson

theorem reads_isJson : ∀ fuel : Nat, (∀ s, Reads Value.IsJson (value fuel s)) ∧
    (∀ s, Reads (fun vs => ∀ v ∈ vs, v.IsJson) (items fuel s)) ∧
    ∀ s, Reads AreMembers (members fuel s) := by
  intro fuel
  induction fuel with
  | zero => exact ⟨fun _ => yields_error _, fun _ => yields_error _, fun _ => yields_error _⟩
  | succ fuel ih =>
    obtain ⟨hvalue, hitems, hmembers⟩ := ih
    refine ⟨fun s => ?_, fun s => ?_, fun s => ?_⟩
    -- a value: a text, an object, an array, a name or a number
    · unfold value
      split
      · exact yields_error _
      · exact Reads.map (P := fun _ => True) (f := fun cs => Value.text (String.ofList cs))
          (fun _ _ => trivial) fun _ _ => rfl
      · split
        · exact yields_ok rfl
        · exact (hmembers _).map fun es hes => Value.isJson_ofList hes.1 hes.2
      · split
        · exact yields_ok rfl
        · exact (hitems _).map fun vs hvs => Value.isJson_sequence.mpr hvs
      · split
        · rename_i r hr
          exact yields_ok (isJson_name? hr)
        · split
          · exact isJson_number _ _ _
          · exact isJson_number _ _ _
    · unfold items
      refine (hvalue _).bind fun r hv => ?_
      obtain ⟨v, left⟩ := r
      simp only
      split
      · exact yields_ok (List.forall_mem_singleton.mpr hv)
      · exact (hitems _).bind fun _ hvs => yields_ok (List.forall_mem_cons.mpr ⟨hv, hvs⟩)
      · exact yields_error _
    · unfold members
      split
      · refine yields_bind fun r => ?_
        obtain ⟨k, left⟩ := r
        simp only
        split
        · refine (hvalue _).bind fun r hv => ?_
          obtain ⟨v, left⟩ := r
          simp only
          split
          · exact yields_ok
              ⟨List.forall_mem_singleton.mpr ⟨_, rfl⟩, List.forall_mem_singleton.mpr hv⟩
          · exact (hmembers _).bind fun _ hes => yields_ok
              ⟨List.forall_mem_cons.mpr ⟨⟨_, rfl⟩, hes.1⟩, List.forall_mem_cons.mpr ⟨hv, hes.2⟩⟩
          · exact yields_error _
        · exact yields_error _
      · exact yields_error _

/-- **A JSON text is read as a JSON value.** -/
theorem isJson_of_read {s : List Char} {v : Value} (h : read s = .ok v) : v.IsJson := by
  unfold read at h
  split at h
  · cases h
  · simp only at h
    split at h
    · cases h
    · rename_i v' left hread
      split at h
      · cases h
        exact (reads_isJson _).1 _ _ hread
      · cases h

end Json

end SchemaDoc
