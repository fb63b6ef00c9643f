/-
SchemaDoc.Proofs.Fields — what holds of every field of a schema.

The walk over a schema makes descriptors in one place only, at its leaves. So
what holds of the descriptor of any leaf holds of every field, wherever it
stands (`forall_of_ofSchema`). One case: the type expression of a field starts
with the type of its leaf (`startsWithType_of_ofSchema`).

§1 the walk, §2 type expressions.
-/
import SchemaDoc.Fields
import SchemaDoc.Proofs.Failing

namespace SchemaDoc

namespace Fields

/-! ## §1 The walk -/

/-- Every descriptor of a result is such and such. -/
abbrev Each (P : Descriptor → Prop) (x : Except Fault (List Descriptor)) : Prop :=
  Yields (fun ds => ∀ d ∈ ds, P d) x

variable {P : Descriptor → Prop}

theorem each_nil : Each P (.ok []) := yields_ok fun _ hd => nomatch hd

theorem each_append {x y : Except Fault (List Descriptor)} (hx : Each P x) (hy : Each P y) :
    Each P (do
      let here ← x
      let more ← y
      return here ++ more) :=
  hx.bind fun _ hhere => hy.bind fun _ hmore => yields_ok (List.forall_mem_append.mpr ⟨hhere, hmore⟩)

theorem each_singleton {x : Except Fault Descriptor} (h : Yields P x) :
    Each P (do
      let d ← x
      return [d]) :=
  h.bind fun _ hd => yields_ok (List.forall_mem_singleton.mpr hd)

section Equations

variable {depth required name : Value} {key : Scalar} {properties node : Value}

theorem ofProperties_of_mapping {entries : List (Scalar × Value)}
    (h : properties.bare = .mapping entries) :
    ofProperties depth required properties = ofEntries depth required entries := by
  rw [ofProperties]
  split
  · rename_i entries' h'
    rw [h] at h'
    cases h'
    rfl
  · rename_i hne
    exact absurd h (hne entries)

theorem ofProperties_of_not_mapping (h : ∀ entries, properties.bare ≠ .mapping entries) :
    ofProperties depth required properties =
      if properties.bare.isFilled then .error (.noAttribute properties.bare.kind "items")
      else .ok [] := by
  rw [ofProperties]
  split
  · rename_i entries h'
    exact absurd h' (h entries)
  · rfl

theorem ofProperty_of_skipped (h : node.shape = .skipped) :
    ofProperty depth required key node = .ok [] := by
  rw [ofProperty]
  split <;> rename_i h' <;> rw [h] at h' <;> cases h'

/-- An object contributes its properties, one level deeper. -/
theorem ofProperty_of_object {properties : Option Value} (h : node.shape = .object properties) :
    ofProperty depth required key node = (do
      let deeper ← depth.add (.integer 1)
      let own ← node.requiredSet
      properties.elim (.ok []) (ofProperties deeper own)) := by
  rw [ofProperty]
  split <;> rename_i h' <;> rw [h] at h' <;> cases h'
  cases properties <;> rfl

theorem ofProperty_of_array {members : List Value} (h : node.shape = .array members) :
    ofProperty depth required key node = ofMembers depth (.scalar key) members := by
  rw [ofProperty]
  split <;> rename_i h' <;> rw [h] at h' <;> cases h'
  rfl

/-- A leaf contributes one field. -/
theorem ofProperty_of_leaf (h : node.shape = .leaf) :
    ofProperty depth required key node = (do
      let isRequired ← required.contains key
      let d ← Descriptor.ofLeaf (.scalar key) node depth isRequired
      return [d]) := by
  rw [ofProperty]
  split <;> rename_i h' <;> rw [h] at h' <;> cases h'

theorem ofMember_of_skipped (h : node.shape = .skipped) : ofMember depth name node = .ok [] := by
  rw [ofMember]
  split <;> rename_i h' <;> rw [h] at h' <;> cases h'

/-- An object among the members of an array contributes its properties at their depth. -/
theorem ofMember_of_object {properties : Option Value} (h : node.shape = .object properties) :
    ofMember depth name node = (do
      let own ← node.requiredSet
      properties.elim (.ok []) (ofProperties depth own)) := by
  rw [ofMember]
  split <;> rename_i h' <;> rw [h] at h' <;> cases h'
  cases properties <;> rfl

theorem ofMember_of_array {members : List Value} (h : node.shape = .array members) :
    ofMember depth name node = ofMembers depth name members := by
  rw [ofMember]
  split <;> rename_i h' <;> rw [h] at h' <;> cases h'
  rfl

theorem ofMember_of_leaf (h : node.shape = .leaf) :
    ofMember depth name node = (do
      let d ← Descriptor.ofLeaf name node depth false
      return [d]) := by
  rw [ofMember]
  split <;> rename_i h' <;> rw [h] at h' <;> cases h'

end Equations

/-- What holds of the descriptor of every leaf holds of every field. -/
theorem each_ofProperties
    (hleaf : ∀ name node depth required, Yields P (Descriptor.ofLeaf name node depth required)) :
    ∀ depth required properties, Each P (ofProperties depth required properties) := by
  refine ofProperties.induct
    (fun depth required properties => Each P (ofProperties depth required properties))
    (fun depth required entries => Each P (ofEntries depth required entries))
    (fun depth required name node => Each P (ofProperty depth required name node))
    (fun depth name members => Each P (ofMembers depth name members))
    (fun depth name member => Each P (ofMember depth name member))
    ?_ ?_ ?_ ?_ ?_ ?_ ?_ ?_ ?_ ?_ ?_ ?_ ?_ ?_ ?_
  -- the properties of an object: a mapping, or an empty value, or a fault
  · intro depth required properties entries h ih
    rw [ofProperties_of_mapping h]
    exact ih
  · intro depth required properties hne hfilled
    rw [ofProperties_of_not_mapping hne, if_pos hfilled]
    exact yields_error _
  · intro depth required properties hne hfilled
    rw [ofProperties_of_not_mapping hne, if_neg hfilled]
    exact each_nil
  · intro depth required
    rw [ofEntries]
    exact each_nil
  · intro depth required name node rest here more
    rw [ofEntries]
    exact each_append here more
  · intro depth required name node h
    rw [ofProperty_of_skipped h]
    exact each_nil
  · intro depth required name node properties h ih
    rw [ofProperty_of_object h]
    refine yields_bind fun deeper => yields_bind fun own => ?_
    cases properties with
    | none => exact each_nil
    | some p => exact ih deeper own p rfl
  · intro depth required name node members h ih
    rw [ofProperty_of_array h]
    exact ih
  · intro depth required name node h
    rw [ofProperty_of_leaf h]
    exact yields_bind fun isRequired => each_singleton (hleaf _ _ _ _)
  · intro depth name
    rw [ofMembers]
    exact each_nil
  · intro depth name member rest here more
    rw [ofMembers]
    exact yields_bind fun deeper => each_append (here deeper) more
  · intro depth name member h
    rw [ofMember_of_skipped h]
    exact each_nil
  · intro depth name member properties h ih
    rw [ofMember_of_object h]
    refine yields_bind fun own => ?_
    cases properties with
    | none => exact each_nil
    | some p => exact ih own p rfl
  · intro depth name member members h ih
    rw [ofMember_of_array h]
    exact ih
  · intro depth name member h
    rw [ofMember_of_leaf h]
    exact each_singleton (hleaf _ _ _ _)

/-- The same for whole schemas. -/
theorem forall_of_ofSchema
    (hleaf : ∀ name node depth required, Yields P (Descriptor.ofLeaf name node depth required))
    {schema : Value} {ds : List Descriptor} (h : ofSchema schema = .ok ds) : ∀ d ∈ ds, P d := by
  unfold ofSchema at h
  split at h
  · cases h
  · obtain ⟨-, -, h⟩ := bind_eq_ok.mp h
    obtain ⟨required, -, h⟩ := bind_eq_ok.mp h
    exact each_ofProperties hleaf _ _ _ ds (orFail_eq_ok.mp h)

end Fields

/-! ## §2 Type expressions -/

namespace Descriptor

/-- The types of leaves. -/
def leafTypes : List String := ["string", "number", "integer", "array", "boolean"]

/-- A text starts with the type of a leaf. -/
def StartsWithType (t : String) : Prop := ∃ l ∈ leafTypes, l.toList <+: t.toList

theorem prefix_of_ofType {label t : String} {low high allowed : Value}
    (h : Expression.ofType label low high allowed = .ok t) : label.toList <+: t.toList := by
  obtain ⟨size, -, h⟩ := bind_eq_ok.mp h
  obtain ⟨values, -, h⟩ := bind_eq_ok.mp h
  cases h
  rw [String.toList_append, String.toList_append, List.append_assoc]
  exact List.prefix_append ..

theorem prefix_of_textLabel {node : Value} {t : String} (h : textLabel node = .ok t) :
    (fact node "type").display.toList <+: t.toList := by
  unfold textLabel at h
  generalize (fact node "type").display = kind at h ⊢
  generalize (if (fact node "format").isGiven then fact node "format" else fact node "pattern")
    = qualifier at h
  cases hq : qualifier.isGiven with
  | true =>
    rw [if_pos hq] at h
    obtain ⟨q, -, rfl⟩ := map_eq_ok.mp h
    rw [String.toList_append, String.toList_append, List.append_assoc]
    exact List.prefix_append ..
  | false =>
    simp only [hq, Bool.false_eq_true, if_false] at h
    cases h
    exact List.prefix_rfl

theorem startsWithType_of_leafType {node : Value} {t : String} (h : leafType node = .ok t) :
    StartsWithType t := by
  unfold leafType at h
  split at h
  · rename_i hkind
    obtain ⟨label, hlabel, h⟩ := bind_eq_ok.mp h
    have hstarts := prefix_of_textLabel hlabel
    rw [hkind] at hstarts
    exact ⟨"string", by decide, hstarts.trans (prefix_of_ofType h)⟩
  · rename_i hkind
    obtain ⟨low, -, h⟩ := bind_eq_ok.mp h
    obtain ⟨high, -, h⟩ := bind_eq_ok.mp h
    rw [hkind] at h
    exact ⟨"number", by decide, prefix_of_ofType h⟩
  · rename_i hkind
    obtain ⟨low, -, h⟩ := bind_eq_ok.mp h
    obtain ⟨high, -, h⟩ := bind_eq_ok.mp h
    rw [hkind] at h
    exact ⟨"integer", by decide, prefix_of_ofType h⟩
  · exact ⟨"array", by decide, prefix_of_ofType h⟩
  · exact ⟨"boolean", by decide, prefix_of_ofType h⟩
  · cases h

theorem startsWithType_of_ofLeaf {name node depth : Value} {required : Bool} {d : Descriptor}
    (h : ofLeaf name node depth required = .ok d) : StartsWithType d.typeExpression := by
  unfold ofLeaf at h
  split at h
  · obtain ⟨t, ht, h⟩ := bind_eq_ok.mp h
    obtain ⟨description, -, h⟩ := bind_eq_ok.mp h
    cases h
    exact startsWithType_of_leafType ht
  · cases h

end Descriptor

/-- A line of a schema's fields starts with braces around a text that starts with the type of a
leaf. -/
theorem Fields.exists_of_mem_linesOf {schema pad : Value} {lines : List String}
    (h : linesOf schema pad = .ok lines) : ∀ line ∈ lines, ∃ t rest,
      line.toList = '\x7b' :: t.toList ++ '\x7d' :: ' ' :: rest ∧ Descriptor.StartsWithType t := by
  obtain ⟨ds, hds, hlines⟩ := bind_eq_ok.mp h
  have hleaf : ∀ d ∈ ds, Descriptor.StartsWithType d.typeExpression :=
    forall_of_ofSchema (fun _ _ _ _ _ hd => Descriptor.startsWithType_of_ofLeaf hd) hds
  intro line hline
  obtain ⟨d, hd, hrender⟩ := exists_of_mem_mapM (orFail_eq_ok.mp hlines) line hline
  obtain ⟨padded, -, hrender⟩ := bind_eq_ok.mp hrender
  obtain ⟨n, -, hrender⟩ := bind_eq_ok.mp hrender
  obtain ⟨shown, -, hrender⟩ := bind_eq_ok.mp hrender
  cases hrender
  refine ⟨d.typeExpression, shown.toList ++ ' ' :: d.description.toList, ?_, hleaf d hd⟩
  simp [Expression.lineOf]

end SchemaDoc
