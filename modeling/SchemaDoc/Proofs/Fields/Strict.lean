/-
SchemaDoc.Proofs.Fields.Strict — a schema that was checked is documented without a fault.

Nothing checks a schema before its fields are read, unless that is asked for.
If a JSON document conforms to the rules of draft 4, then every operation that
the walk over it applies finds what it needs, at every node that it comes to:
properties are mappings to schemas, bounds are numbers, defaults can be
written. So its lines are made, or the root is no object schema
(`linesOf_of_check`); what remains are integers of too many digits, and a
padding that is too long to be held.

The walk takes as many steps as the schema is deep. An interpreter's limit on
calls inside one another is no part of it: neither the walk nor the rules it
is checked by count how deep they are.

§1 leaves, §2 the walk, §3 lines, §4 checked schemas, §5 a checked schema.
-/
import SchemaDoc.Proofs.Fields.Position
import SchemaDoc.Proofs.Schema.Conforms
import SchemaDoc.Proofs.Value.Written

namespace SchemaDoc

/-! ## §1 Leaves -/

variable {long : Prop}

namespace Expression

theorem written_boundText {bound : Value} (h : Written long bound.plainText) :
    Written long (boundText bound) := by
  unfold boundText
  split
  · exact h
  · exact written_ok _

theorem written_sizeSuffix {low high : Value} (hlow : Written long low.plainText)
    (hhigh : Written long high.plainText) : Written long (sizeSuffix low high) := by
  unfold sizeSuffix
  split
  · exact (written_boundText hlow).bind fun _ => (written_boundText hhigh).bind fun _ => written_ok _
  · exact written_ok _

theorem written_allowedSuffix {allowed : Value} (h : allowed.IsPlain long) :
    Written long (allowedSuffix allowed) := by
  unfold allowedSuffix
  split
  · refine Written.bind ?_ fun _ => written_ok _
    unfold allowedText
    split
    · exact written_ok _
    · exact written_ok _
    · exact Value.written_plainText h
  · exact written_ok _

theorem written_ofType {low high allowed : Value} (label : String)
    (hlow : Written long low.plainText) (hhigh : Written long high.plainText)
    (hallowed : allowed.IsPlain long) : Written long (ofType label low high allowed) :=
  (written_sizeSuffix hlow hhigh).bind fun _ => (written_allowedSuffix hallowed).bind fun _ =>
    written_ok _

end Expression

namespace Fields

open Schema (Conforms)

/-- A node that the walk can document. -/
structure Sound (long : Prop) (node : Value) : Prop where
  plain : node.IsPlain long
  conforms : Conforms node

end Fields

namespace Descriptor

open Fields (Sound)

/-- A given fact stands in the node. -/
theorem get?_of_isGiven {node : Value} {key : String} (h : (fact node key).isGiven = true) :
    node.get? key = some (fact node key) := by
  unfold fact at h ⊢
  cases hv : node.get? key with
  | some v => rfl
  | none =>
    rw [hv] at h
    cases h

theorem isPlain_fact {node : Value} (h : node.IsPlain long) (key : String) :
    (fact node key).IsPlain long := by
  unfold fact
  cases hv : node.get? key with
  | some v => exact h.of_get? hv
  | none => exact Value.isPlain_null

theorem written_descriptionOf {node : Value} (h : node.IsPlain long) :
    Written long (descriptionOf node) := by
  unfold descriptionOf
  split
  · exact Value.written_displayText (isPlain_fact h _)
  · split
    · exact Value.written_displayText (isPlain_fact h _)
    · exact written_ok _

theorem written_textLabel {node : Value} (h : node.IsPlain long) :
    Written long (textLabel node) := by
  unfold textLabel
  have hqualifier : (if (fact node "format").isGiven then fact node "format"
      else fact node "pattern").IsPlain long := by
    split
    · exact isPlain_fact h _
    · exact isPlain_fact h _
  generalize (if (fact node "format").isGiven then fact node "format" else fact node "pattern")
    = qualifier at hqualifier
  cases hq : qualifier.isGiven with
  | true =>
    rw [if_pos hq]
    exact (Value.written_displayText hqualifier).map fun _ _ => trivial
  | false =>
    simp only [hq, Bool.false_eq_true, if_false]
    exact written_ok _

/-- A number can be raised, and the sum can be written. -/
theorem written_add_one {v : Value} (hv : v.IsPlain long)
    (h : (∃ n, v = .integer n) ∨ ∃ x, v = .number x) :
    ∃ w, v.add (.integer 1) = .ok w ∧ Written long w.plainText := by
  rcases h with ⟨n, rfl⟩ | ⟨x, rfl⟩
  · refine ⟨_, Value.add_integer n 1, ?_⟩
    rw [Value.plainText, Scalar.plainText]
    exact written_limitedText (hv.integer (by omega))
  · exact ⟨_, rfl, Value.written_plainNumber long _⟩

/-- A number can be lowered, and the difference can be written. -/
theorem written_sub_one {v : Value} (hv : v.IsPlain long)
    (h : (∃ n, v = .integer n) ∨ ∃ x, v = .number x) :
    ∃ w, v.sub (.integer 1) = .ok w ∧ Written long w.plainText := by
  rcases h with ⟨n, rfl⟩ | ⟨x, rfl⟩
  · refine ⟨_, Value.sub_integer n 1, ?_⟩
    rw [Value.plainText, Scalar.plainText]
    exact written_limitedText (hv.integer (by omega))
  · exact ⟨_, rfl, Value.written_plainNumber long _⟩

section Conforming

variable {node : Value}

/-- A bound that can be written. -/
abbrev BoundGiven (long : Prop) (x : Except Fault Value) : Prop :=
  Gives (fun bound => Written long bound.plainText) (TooManyDigits long) x

/-- An exclusive bound is a number, so it can be raised. -/
theorem gives_lowerBound (h : Sound long node) : BoundGiven long (lowerBound node) := by
  have hplain := isPlain_fact h.plain "minimum"
  unfold lowerBound
  dsimp only
  split
  · rename_i hgiven
    split
    · obtain ⟨w, hw, hwritten⟩ := written_add_one hplain
        (h.conforms.number h.plain.json (get?_of_isGiven hgiven) (Or.inl rfl))
      rw [hw]
      exact .ok hwritten
    · exact .ok (Value.written_plainText hplain)
  · exact .ok (Value.written_plainText Value.isPlain_null)

theorem gives_upperBound (h : Sound long node) : BoundGiven long (upperBound node) := by
  have hplain := isPlain_fact h.plain "maximum"
  unfold upperBound
  dsimp only
  split
  · rename_i hgiven
    split
    · obtain ⟨w, hw, hwritten⟩ := written_sub_one hplain
        (h.conforms.number h.plain.json (get?_of_isGiven hgiven) (Or.inr rfl))
      rw [hw]
      exact .ok hwritten
    · exact .ok (Value.written_plainText hplain)
  · exact .ok (Value.written_plainText Value.isPlain_null)

/-- The type expression of a number. -/
theorem written_numberType (h : Sound long node) (label : String) : Written long (do
    let low ← lowerBound node
    let high ← upperBound node
    Expression.ofType label low high (fact node "enum")) :=
  (gives_lowerBound h).bind fun _ hlow => (gives_upperBound h).bind fun _ hhigh =>
    Expression.written_ofType label hlow hhigh (isPlain_fact h.plain _)

theorem written_leafType (h : Sound long node) (hleaf : Fields.IsLeaf node) :
    Written long (leafType node) := by
  obtain ⟨kind, hmem, hkind⟩ : ∃ kind ∈ leafTypes, fact node "type" = .text kind := by
    rcases hleaf with ⟨kind, hmem, hkind⟩ | ⟨hkind, -⟩
    · refine ⟨kind, ?_, by rw [fact, hkind]; rfl⟩
      simp only [scalarTypes, leafTypes, List.mem_cons, List.not_mem_nil, or_false] at hmem ⊢
      tauto
    · exact ⟨"array", by decide, by rw [fact, hkind]; rfl⟩
  have hfact : ∀ key, Written long (fact node key).plainText := fun key =>
    Value.written_plainText (isPlain_fact h.plain key)
  have hnull : Value.null.IsPlain long := Value.isPlain_null
  simp only [leafTypes, List.mem_cons, List.not_mem_nil, or_false] at hmem
  unfold leafType
  rw [hkind]
  rcases hmem with rfl | rfl | rfl | rfl | rfl
  · exact (written_textLabel h.plain).bind fun label =>
      Expression.written_ofType label (hfact _) (hfact _) (isPlain_fact h.plain _)
  · exact written_numberType h _
  · exact written_numberType h _
  · exact Expression.written_ofType _ (hfact _) (hfact _) hnull
  · exact Expression.written_ofType _ (Value.written_plainText hnull)
      (Value.written_plainText hnull) hnull

end Conforming

/-- A field whose line can be made: it has a name that is a text, a counted depth, and a default
that can be written as JSON, if any. -/
structure Printable (long : Prop) (d : Descriptor) : Prop where
  name : ∃ s, d.name = .text s
  depth : ∃ n : Nat, d.depth = .integer n
  default : ∀ w, d.default = some w → w.IsPlain long

/-- The field of a leaf that can be documented. -/
theorem gives_ofLeaf {node : Value} (h : Sound long node) (hleaf : Fields.IsLeaf node)
    (name : String) (depth : Nat) (required : Bool) :
    Gives (Printable long) (TooManyDigits long)
      (ofLeaf (.text name) node (.integer depth) required) := by
  obtain ⟨entries, hnode⟩ := h.conforms.mapping h.plain.json
  have hmapping : node.isMapping = true := by rw [hnode]; rfl
  unfold ofLeaf
  rw [if_pos hmapping]
  refine Gives.bind (written_leafType h hleaf) fun t _ =>
    Gives.bind (written_descriptionOf h.plain) fun d _ => ?_
  exact .ok ⟨⟨name, rfl⟩, ⟨depth, rfl⟩, fun w hw => h.plain.of_get? hw⟩

end Descriptor

/-! ## §2 The walk -/

namespace Fields

open Descriptor (Printable)

/-- Properties that the walk can document: none, or sound nodes under texts. -/
inductive SoundProperties (long : Prop) : Value → Prop
  | none : SoundProperties long .null
  | mapping {entries : List (Scalar × Value)} :
    (∀ e ∈ entries, ∃ t, e.1 = .text t) → (∀ e ∈ entries, Sound long e.2) →
      SoundProperties long (.mapping entries)

theorem Sound.properties {node properties : Value} (h : Sound long node)
    (hp : node.get? "properties" = some properties) : SoundProperties long properties := by
  obtain ⟨entries, rfl, hall⟩ := h.conforms.properties h.plain.json hp
  have hplain := h.plain.of_get? hp
  exact .mapping hplain.keys fun e he => ⟨hplain.entries e he, hall e he⟩

theorem Sound.members {node items : Value} (h : Sound long node)
    (hi : node.get? "items" = some items) : ∀ member ∈ items.memberSchemas, Sound long member := by
  have hplain := h.plain.of_get? hi
  rcases h.conforms.items h.plain.json hi with hone | ⟨members, rfl, hall⟩
  · obtain ⟨entries, rfl⟩ := hone.mapping hplain.json
    exact List.forall_mem_singleton.mpr ⟨hplain, hone⟩
  · exact fun member hm => ⟨hplain.items member hm, hall member hm⟩

/-- Below an object stand properties that can be documented. -/
theorem Sound.of_object {node p : Value} (h : Sound long node) (hs : node.shape = .object (some p)) :
    SoundProperties long p := by
  rcases shape_cases node with ⟨-, hs'⟩ | ⟨items, -, -, -, hs'⟩ | ⟨-, hs'⟩ | ⟨-, hs'⟩
  · rw [hs, Shape.object.injEq] at hs'
    exact h.properties hs'.symm
  · rw [hs] at hs'
    cases hs'
  · rw [hs] at hs'
    cases hs'
  · rw [hs] at hs'
    cases hs'

/-- Below an array stand members that can be documented. -/
theorem Sound.of_array {node : Value} {members : List Value} (h : Sound long node)
    (hs : node.shape = .array members) : ∀ member ∈ members, Sound long member := by
  rcases shape_cases node with ⟨-, hs'⟩ | ⟨items, -, hitems, -, hs'⟩ | ⟨-, hs'⟩ | ⟨-, hs'⟩
  · rw [hs] at hs'
    cases hs'
  · rw [hs, Shape.array.injEq] at hs'
    rw [hs']
    exact h.members hitems
  · rw [hs] at hs'
    cases hs'
  · rw [hs] at hs'
    cases hs'

/-- A set of names, as the walk hands it down. -/
def IsNames (required : Value) : Prop := ∃ names : List String, required = .set (names.map .text)

theorem isPlain_of_listed {v : Value} (h : v.IsPlain long) : ∀ m ∈ v.listed, m.IsPlain long := by
  unfold Value.listed
  rw [h.json.bare_eq]
  split
  · exact h.items
  · cases (Value.every_self h.json : Value.isJsonPart (.pair _ _) = true)
  · cases (Value.every_self h.json : Value.isJsonPart (.set _) = true)
  · exact List.forall_mem_nil _

theorem gives_requiredSet {node : Value} (h : node.IsPlain long) :
    Gives IsNames (TooManyDigits long) node.requiredSet := by
  have hnames : Written long node.requiredNames := by
    unfold Value.requiredNames
    split
    · rename_i names hlist
      have hlisted := isPlain_of_listed (h.of_get? hlist)
      exact (gives_mapM fun m hm => Value.written_displayText (hlisted m hm)).imp fun _ _ => trivial
    · exact written_ok _
  exact hnames.map fun names _ => ⟨names, rfl⟩

/-- A depth that was counted. -/
def IsDepth (depth : Value) : Prop := ∃ n : Nat, depth = .integer n

/-- The fields can all be printed; what remains are integers of too many digits. -/
abbrev Prints (long : Prop) (x : Except Fault (List Descriptor)) : Prop :=
  Gives (fun ds => ∀ d ∈ ds, Printable long d) (TooManyDigits long) x

theorem prints_nil : Prints long (.ok []) := .ok fun _ hd => nomatch hd

theorem prints_append {x y : Except Fault (List Descriptor)} (hx : Prints long x) (hy : Prints long y) :
    Prints long (do
      let here ← x
      let more ← y
      return here ++ more) :=
  hx.bind fun _ hhere => hy.bind fun _ hmore => .ok (List.forall_mem_append.mpr ⟨hhere, hmore⟩)

theorem prints_singleton {x : Except Fault Descriptor}
    (h : Gives (Printable long) (TooManyDigits long) x) : Prints long (do
      let d ← x
      return [d]) :=
  h.bind fun _ hd => .ok (List.forall_mem_singleton.mpr hd)

/-- One level deeper is a depth again. -/
theorem IsDepth.deeper {depth : Value} {f : Value → Except Fault (List Descriptor)}
    (h : IsDepth depth) (hf : ∀ deeper, IsDepth deeper → Prints long (f deeper)) :
    Prints long (depth.add (.integer 1) >>= f) := by
  obtain ⟨n, rfl⟩ := h
  exact hf _ ⟨n + 1, rfl⟩

/-- **The walk over properties that can be documented meets no fault** but integers of too many
digits. -/
theorem prints_ofProperties : ∀ depth required properties, IsDepth depth → IsNames required →
    SoundProperties long properties → Prints long (ofProperties depth required properties) := by
  refine ofProperties.induct
    (fun depth required properties => IsDepth depth → IsNames required →
      SoundProperties long properties → Prints long (ofProperties depth required properties))
    (fun depth required entries => IsDepth depth → IsNames required →
      (∀ e ∈ entries, ∃ t, e.1 = .text t) → (∀ e ∈ entries, Sound long e.2) →
      Prints long (ofEntries depth required entries))
    (fun depth required name node => IsDepth depth → IsNames required →
      (∃ t, name = .text t) → Sound long node → Prints long (ofProperty depth required name node))
    (fun depth name members => IsDepth depth → (∃ t, name = .text t) →
      (∀ member ∈ members, Sound long member) → Prints long (ofMembers depth name members))
    (fun depth name member => IsDepth depth → (∃ t, name = .text t) → Sound long member →
      Prints long (ofMember depth name member))
    ?_ ?_ ?_ ?_ ?_ ?_ ?_ ?_ ?_ ?_ ?_ ?_ ?_ ?_ ?_
  -- the properties of an object: a mapping, or none
  · intro depth required properties entries h ih hdepth hnames hsound
    rw [ofProperties_of_mapping h]
    cases hsound with
    | none => cases h
    | mapping htext hall =>
      cases h
      exact ih hdepth hnames htext hall
  · intro depth required properties hne hfilled _ _ hsound
    cases hsound with
    | none => cases hfilled
    | mapping => exact absurd rfl (hne _)
  · intro depth required properties hne hfilled _ _ _
    rw [ofProperties_of_not_mapping hne, if_neg hfilled]
    exact prints_nil
  · intro depth required _ _ _ _
    rw [ofEntries]
    exact prints_nil
  · intro depth required name node rest here more hdepth hnames htext hall
    obtain ⟨hname, htext⟩ := List.forall_mem_cons.mp htext
    obtain ⟨hnode, hall⟩ := List.forall_mem_cons.mp hall
    rw [ofEntries]
    exact prints_append (here hdepth hnames hname hnode) (more hdepth hnames htext hall)
  -- a property of an object
  · intro depth required name node h _ _ _ _
    rw [ofProperty_of_skipped h]
    exact prints_nil
  · intro depth required name node properties h ih hdepth _ _ hsound
    rw [ofProperty_of_object h]
    refine hdepth.deeper fun deeper hdeeper => (gives_requiredSet hsound.plain).bind fun own hown => ?_
    cases properties with
    | none => exact prints_nil
    | some p => exact ih deeper own p rfl hdeeper hown (hsound.of_object h)
  · rintro depth required name node members h ih hdepth - ⟨t, rfl⟩ hsound
    rw [ofProperty_of_array h]
    exact ih hdepth ⟨t, rfl⟩ (hsound.of_array h)
  · rintro depth required name node h ⟨n, rfl⟩ ⟨names, rfl⟩ ⟨t, rfl⟩ hsound
    rw [ofProperty_of_leaf h, contains_set, ok_bind]
    exact prints_singleton
      (Descriptor.gives_ofLeaf hsound (isLeaf_of_shape h) _ _ _)
  -- the members of an array
  · intro depth name _ _ _
    rw [ofMembers]
    exact prints_nil
  · intro depth name member rest here more hdepth hname hall
    obtain ⟨hmember, hall⟩ := List.forall_mem_cons.mp hall
    rw [ofMembers]
    exact hdepth.deeper fun deeper hdeeper =>
      prints_append (here deeper hdeeper hname hmember) (more hdepth hname hall)
  · intro depth name member h _ _ _
    rw [ofMember_of_skipped h]
    exact prints_nil
  · intro depth name member properties h ih hdepth _ hsound
    rw [ofMember_of_object h]
    refine (gives_requiredSet hsound.plain).bind fun own hown => ?_
    cases properties with
    | none => exact prints_nil
    | some p => exact ih own p rfl hdepth hown (hsound.of_object h)
  · intro depth name member members h ih hdepth hname hsound
    rw [ofMember_of_array h]
    exact ih hdepth hname (hsound.of_array h)
  · rintro depth name member h ⟨n, rfl⟩ ⟨t, rfl⟩ hsound
    rw [ofMember_of_leaf h]
    exact prints_singleton
      (Descriptor.gives_ofLeaf hsound (isLeaf_of_shape h) _ _ _)

end Fields

/-! ## §3 Lines -/

/-- The pads in front of a name fit: neither their number nor their letters are too many. -/
def Fits (pad : String) (depth : Nat) : Prop :=
  depth < Value.countLimit ∧ (Text.letters pad.toList).length * depth ≤ Value.sizeLimit

/-- The faults of a value that is repeated too often. -/
inductive TooMuchPadding : Fault → Prop
  | beyondCounts : TooMuchPadding .beyondCounts
  | tooOften : TooMuchPadding (.tooOften .text)
  | tooLarge : TooMuchPadding .tooLarge

/-- What a line may fail by: an integer of too many digits, or pads that do not fit. -/
def Unprinted (long : Prop) (pad : String) (d : Descriptor) (f : Fault) : Prop :=
  TooManyDigits long f ∨ TooMuchPadding f ∧ ∃ n : Nat, d.depth = .integer n ∧ ¬Fits pad n

namespace Value

theorem sizeLimit_lt_countLimit : sizeLimit < countLimit := by decide

/-- A text that fits is repeated to a text. -/
theorem gives_repeated (pad : String) (depth : Nat) :
    Gives (fun v => ∃ s, v = .text s) (fun f => TooMuchPadding f ∧ ¬Fits pad depth)
      ((Value.text pad).repeated depth) := by
  unfold repeated
  split
  · rename_i hcount
    refine .error ⟨.beyondCounts, fun hfits => ?_⟩
    have := hfits.1
    omega
  · change Gives _ _ (repeatedList (.tooOften .text) (Text.letters pad.toList) depth
      >>= fun letters => pure (Value.text (String.ofList letters.flatten)))
    unfold repeatedList
    split
    · exact .ok ⟨_, rfl⟩
    · split
      · rename_i hoften
        refine .error ⟨.tooOften, fun hfits => ?_⟩
        exact absurd (Nat.le_trans hoften hfits.2) (Nat.not_le.mpr sizeLimit_lt_countLimit)
      · split
        · rename_i hlarge
          exact .error ⟨.tooLarge, fun hfits => absurd hfits.2 (Nat.not_le.mpr hlarge)⟩
        · exact .ok ⟨_, rfl⟩

end Value

namespace Expression

/-- A name with its default is a text again. -/
theorem gives_withDefault {default : Option Value} (h : ∀ w, default = some w → w.IsPlain long)
    (name : String) :
    Gives (fun v => ∃ s, v = .text s) (TooManyDigits long) (withDefault (.text name) default) := by
  unfold withDefault
  split
  · rename_i w hw
    have hplain := h w (Option.filter_eq_some_iff.mp hw).1
    exact Gives.bind (Value.written_compactJson hplain) fun json _ => .ok ⟨_, rfl⟩
  · exact .ok ⟨name, rfl⟩

/-- So is a name expression. -/
theorem gives_ofName {default : Option Value} (h : ∀ w, default = some w → w.IsPlain long)
    (name : String) (required : Bool) :
    Gives (fun v => ∃ s, v = .text s) (TooManyDigits long)
      (ofName (.text name) required default) := by
  unfold ofName
  refine Gives.bind (gives_withDefault h name) fun named hnamed => ?_
  obtain ⟨s, rfl⟩ := hnamed
  split
  · exact .ok ⟨s, rfl⟩
  · exact .ok ⟨_, rfl⟩

end Expression

namespace Descriptor

/-- A field that can be printed has its line, unless its pads do not fit. -/
theorem gives_render {d : Descriptor} (h : Printable long d) (pad : String) :
    Gives (fun _ => True) (Unprinted long pad d) (d.render (.text pad)) := by
  obtain ⟨n, hn⟩ := h.depth
  obtain ⟨name, hname⟩ := h.name
  have hpadded : Gives (fun v => ∃ s, v = .text s) (Unprinted long pad d)
      (d.paddedName (.text pad)) := by
    unfold paddedName
    rw [hn, hname]
    change Gives _ _ ((Value.text pad).repeated n >>= fun space => space.add (.text name))
    refine Gives.bind ((Value.gives_repeated pad n).imp_error fun f hf => Or.inr ⟨hf.1, n, hn, hf.2⟩)
      fun space hspace => ?_
    obtain ⟨s, rfl⟩ := hspace
    exact .ok ⟨_, rfl⟩
  unfold render
  refine hpadded.bind fun padded hpadded => ?_
  obtain ⟨s, rfl⟩ := hpadded
  refine ((Expression.gives_ofName h.default s d.required).imp_error fun f hf => Or.inl hf).bind
    fun named hnamed => ?_
  obtain ⟨shown, rfl⟩ := hnamed
  exact .ok trivial

end Descriptor

/-! ## §4 Checked schemas -/

namespace Schema

/-- A schema that names no dialect is checked as one of draft 4. -/
theorem dialect_of_unnamed {schema : Value} {d : Dialect} (hname : schema.get? "$schema" = none)
    (h : dialect schema = .ok d) : d = .draft4 := by
  obtain ⟨name, hname', h⟩ := bind_eq_ok.mp h
  suffices hnone : name = none by
    rw [hnone] at h
    cases h
    rfl
  unfold Value.get? at hname
  unfold dialectName? at hname'
  split at hname'
  · cases hname'
    rfl
  · rename_i entries hbare
    rw [hbare] at hname
    cases hname'
    exact hname
  · obtain ⟨found, -, hname'⟩ := bind_eq_ok.mp hname'
    split at hname'
    · cases hname'
    · cases hname'
      rfl

/-- A check that refuses nothing finds no violation of draft 4. -/
theorem conforms_of_check {schema : Value} (hname : schema.get? "$schema" = none)
    (h : check schema = .ok ()) : Conforms schema := by
  obtain ⟨d, hd, h⟩ := bind_eq_ok.mp h
  obtain ⟨found, hfound, h⟩ := bind_eq_ok.mp h
  obtain rfl := dialect_of_unnamed hname (orFail_eq_ok.mp hd)
  cases found with
  | none => exact ⟨.toFirst, orFail_eq_ok.mp hfound⟩
  | some v =>
    obtain ⟨location, -, h⟩ := bind_eq_ok.mp h
    cases h

/-- A mapping that names no dialect is not refused where no rule of draft 4 is broken. -/
theorem check_of_violation? {entries : List (Scalar × Value)}
    (hname : (Value.mapping entries).get? "$schema" = none)
    (h : violation? .draft4 .toFirst (.mapping entries) = .ok none) :
    check (.mapping entries) = .ok () := by
  have hname' : dialectName? (.mapping entries) = .ok none := congrArg Except.ok hname
  have hdialect : dialect (.mapping entries) = .ok .draft4 := by
    rw [dialect, hname']
    rfl
  rw [check, hdialect]
  change orFail (violation? .draft4 .toFirst (.mapping entries)) >>= _ = _
  rw [h]
  rfl

end Schema

namespace Fields

open Descriptor (Printable)

/-- Why a checked schema may have no lines: its root is none that is documented, it has an integer of
too many digits, or the pads of one of its fields do not fit. The last is the machine's refusal and
no one's rule: a pad that is taken so often that the text is beyond counting, or beyond
`Value.sizeLimit`, which stands for memory. -/
inductive Refusal (schema : Value) (pad : String) : Failure → Prop
  | composition : schema.has "allOf" = true → Refusal schema pad .composition
  | notObject : schema.get? "type" ≠ some (.text "object") → Refusal schema pad .notObject
  | digits : ¬schema.IsShort → Refusal schema pad (.fault (.tooManyDigits none))
  | padding {f : Fault} {ds : List Descriptor} {d : Descriptor} {depth : Nat} :
    ofSchema schema = .ok ds → d ∈ ds → d.depth = .integer depth → ¬Fits pad depth →
      TooMuchPadding f → Refusal schema pad (.fault f)

theorem objectRoot_cases (schema : Value) : (∃ entries, schema.objectRoot = .ok entries) ∨
    schema.get? "type" ≠ some (.text "object") ∧ schema.objectRoot = .error .notObject := by
  unfold Value.objectRoot Value.get?
  cases schema.bare with
  | mapping entries =>
    dsimp only
    split
    · exact Or.inl ⟨entries, rfl⟩
    · rename_i hne
      exact Or.inr ⟨hne, rfl⟩
  | _ => exact Or.inr ⟨nofun, rfl⟩

section Checked

variable {schema : Value} {pad : String}

theorem refusal_of_tooManyDigits {f : Fault} (h : TooManyDigits (¬schema.IsShort) f) :
    Refusal schema pad (.fault f) := by
  obtain ⟨hlong, rfl⟩ := h
  exact .digits hlong

theorem gives_ofSchema (h : Sound (¬schema.IsShort) schema) :
    Gives (fun ds => ∀ d ∈ ds, Printable (¬schema.IsShort) d) (Refusal schema pad)
      (ofSchema schema) := by
  unfold ofSchema
  split
  · rename_i hall
    exact .error (.composition hall)
  dsimp only
  rcases objectRoot_cases schema with ⟨entries, hroot⟩ | ⟨htype, hroot⟩
  · rw [hroot, ok_bind]
    refine ((gives_requiredSet h.plain).orFail fun _ => refusal_of_tooManyDigits).bind
      fun required hrequired => ?_
    refine (prints_ofProperties _ _ _ ⟨0, rfl⟩ hrequired ?_).orFail fun _ => refusal_of_tooManyDigits
    cases hp : schema.get? "properties" with
    | none => exact .none
    | some p => exact h.properties hp
  · rw [hroot]
    exact .error (.notObject htype)

/-- **A JSON document that names no dialect and that was checked has its lines**, or its root is none
that is documented. The walk, the bounds, the type expressions and the defaults meet no fault at
whatever depth, unless an integer has too many digits; and the pads must fit. -/
theorem linesOf_of_check (hjson : schema.IsJson) (hname : schema.get? "$schema" = none)
    (hcheck : Schema.check schema = .ok ()) (pad : String) :
    (∃ lines, linesOf schema (.text pad) = .ok lines) ∨
      ∃ f, linesOf schema (.text pad) = .error f ∧ Refusal schema pad f := by
  have hsound : Sound (¬schema.IsShort) schema :=
    ⟨⟨hjson, Classical.not_not.mp⟩, Schema.conforms_of_check hname hcheck⟩
  suffices h : Gives (fun _ => True) (Refusal schema pad) (linesOf schema (.text pad)) by
    rcases h.ok_or_error with ⟨lines, hlines, -⟩ | hf
    · exact Or.inl ⟨lines, hlines⟩
    · exact Or.inr hf
  have hfields := (gives_ofSchema hsound : Gives _ (Refusal schema pad) _)
  unfold linesOf
  generalize hds : ofSchema schema = fields at hfields ⊢
  cases hfields with
  | error hf => exact .error hf
  | ok hds' =>
    rename_i ds
    rw [ok_bind]
    have hlines : Gives (fun _ => True) (fun f => ∃ d ∈ ds, Unprinted (¬schema.IsShort) pad d f)
        (ds.mapM fun d => d.render (.text pad)) :=
      (gives_mapM fun d hd =>
        (Descriptor.gives_render (hds' d hd) pad).imp_error fun f hf => ⟨d, hd, hf⟩).imp
          fun _ _ => trivial
    refine hlines.orFail fun f hf => ?_
    obtain ⟨d, hd, hdigits | ⟨hpad, n, hn, hfits⟩⟩ := hf
    · exact refusal_of_tooManyDigits hdigits
    · exact .padding hds hd hn hfits hpad

end Checked

/-! ## §5 A checked schema -/

open Schema Rules

/-- An integer above one, with a default. -/
def count : Value := .mapping [(.text "type", .text "integer"), (.text "minimum", .integer 1),
  (.text "exclusiveMinimum", .bool true), (.text "default", .integer 2)]

/-- An object with that integer as its only property. -/
def counted : Value := .mapping [
  (.text "type", .text "object"), (.text "properties", .mapping [(.text "count", count)])]

theorem violation?_count (e : Extent) : violation? .draft4 e count = .ok none := by
  have hget : ∀ key, count.get? key = if key = "type" then some (.text "integer")
      else if key = "minimum" then some (.integer 1)
      else if key = "exclusiveMinimum" then some (.bool true)
      else if key = "default" then some (.integer 2) else none := by
    intro key
    simp only [count, Value.get?_cons, Value.get?_nil]
  have htype : demands? .draft4 e (.text "integer") typeNames = .ok none :=
    typeNames_eq_none .integer
  have hmapping : count.isOfType .draft4 .object = true := rfl
  simp only [violation?_eq_none, Rules.of, draft4, List.forall_mem_cons, keyword_eq_none, hget,
    String.reduceEq, if_false, if_true, reduceCtorEq, false_imp_iff, implies_true, true_and,
    Option.some.injEq, forall_eq', htype]
  simp only [clause?, verdict_eq_none, Value.has, hget]
  simp only [number, truth, demands?_eq_none, List.forall_mem_singleton, type_eq_none]
  simp [hmapping]
  exact ⟨rfl, rfl⟩

theorem violation?_counted (e : Extent) : violation? .draft4 e counted = .ok none := by
  have hget : ∀ key, counted.get? key = if key = "type" then some (.text "object")
      else if key = "properties" then some (.mapping [(.text "count", count)]) else none := by
    intro key
    simp only [counted, Value.get?_cons, Value.get?_nil]
  have htype : demands? .draft4 e (.text "object") typeNames = .ok none :=
    typeNames_eq_none .object
  have hproperties : demands? .draft4 e (.mapping [(.text "count", count)]) namedSchemas
      = .ok none := by
    have hjson : (Value.mapping [(.text "count", count)]).IsJson := rfl
    have hobject : (Value.mapping [(.text "count", count)]).isOfType .draft4 .object = true := rfl
    have hvalues : demand? .draft4 e (.mapping [(.text "count", count)]) (.values [.schema])
        = .ok none := by
      rw [values_eq_none hjson, List.forall_mem_singleton, demands?_eq_none,
        List.forall_mem_singleton, demand?]
      exact violation?_count e
    rw [namedSchemas, demands?_eq_none, List.forall_mem_cons, List.forall_mem_singleton,
      type_eq_none]
    exact ⟨hobject, hvalues⟩
  have hmapping : counted.isOfType .draft4 .object = true := rfl
  simp only [violation?_eq_none, Rules.of, draft4, List.forall_mem_cons, keyword_eq_none, hget,
    String.reduceEq, if_false, if_true, reduceCtorEq, false_imp_iff, implies_true, true_and,
    Option.some.injEq, forall_eq', htype, hproperties]
  simp only [clause?, verdict_eq_none, Value.has, hget]
  simp [hmapping]

theorem isJson_counted : counted.IsJson := rfl

theorem check_counted : check counted = .ok () :=
  check_of_violation? rfl (violation?_counted .toFirst)

/-- That object was checked, so it has lines. -/
theorem linesOf_of_check_counted : counted.IsJson ∧ counted.get? "$schema" = none ∧
    check counted = .ok () ∧ ((∃ lines, linesOf counted (.text "  ") = .ok lines) ∨
      ∃ f, linesOf counted (.text "  ") = .error f ∧ Refusal counted "  " f) :=
  ⟨isJson_counted, rfl, check_counted, linesOf_of_check isJson_counted rfl check_counted "  "⟩

end Fields

end SchemaDoc
