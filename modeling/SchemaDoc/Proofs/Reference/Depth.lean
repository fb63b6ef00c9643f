/-
SchemaDoc.Proofs.Reference.Depth — looking up never meets the fault of too great a depth.

Only the walk counts how far references lead on. What a single reference leads
to is found or not found, or is a value of the wrong kind, but is never too
deep (`never_lead`): so a document is reported as too deep only where the hops
have run out. This is about references that do not end. The limit that an
interpreter sets on calls inside one another is not modelled, here and in the
other modules on references: a walk over a finite tree, however deep, ends.

§1 resources, §2 registries, §3 following one reference, §4 the root of a
document.
-/
import SchemaDoc.Proofs.Failing
import SchemaDoc.Reference.Expand

namespace SchemaDoc

/-! ## §1 Resources -/

/-- A computation does not meet the fault of too great a depth. -/
abbrev Shallow {α : Type} (x : Except Fault α) : Prop := Never .tooDeep x

@[simp] theorem shallow_contains (name : Scalar) (v : Value) : Shallow (v.contains name) := by
  fun_induction Value.contains v name <;> simp_all

namespace Reference

@[simp] theorem shallow_joined (base reference : String) : Shallow (joined base reference) :=
  never_mapError nofun _

@[simp] theorem shallow_strippable (v : Value) : Shallow (strippable v) := by
  unfold strippable
  split <;> simp

@[simp] theorem shallow_startable (v : Value) : Shallow (startable v) := by
  unfold startable
  split <;> simp

@[simp] theorem shallow_lookUp (v : Value) (key : String) : Shallow (lookUp v key) := by
  unfold lookUp
  split <;> simp

@[simp] theorem shallow_lookUpGiven (v : Value) (key : String) : Shallow (lookUpGiven v key) :=
  (shallow_lookUp v key).bind fun _ => never_ok _ _

@[simp] theorem shallow_ofValue (dialect : Dialect) (v : Value) :
    Shallow (Resource.ofValue dialect v) := by
  unfold Resource.ofValue
  split
  · split
    · simp
    · simp
    · exact (shallow_strippable _).bind fun _ => never_ok _ _
  · simp

@[simp] theorem shallow_olderName (v : Value) (keyword : String) : Shallow (olderName v keyword) := by
  refine (shallow_contains _ v).bind fun has => ?_
  split
  · simp
  · refine (shallow_lookUpGiven v keyword).bind fun found => ?_
    split
    · simp
    · exact (shallow_startable _).bind fun _ => never_ok _ _

@[simp] theorem shallow_name? (r : Resource) : Shallow r.name? := by
  have hraw : Shallow (rawName r) := by
    unfold rawName
    repeat' split
    all_goals simp
  refine hraw.bind fun found => ?_
  split
  · simp
  · exact (shallow_strippable _).bind fun _ => never_ok _ _

@[simp] theorem shallow_anchors (r : Resource) : Shallow r.anchors := by
  have hin : ∀ keyword, Shallow (anchorInName r keyword) := by
    intro keyword
    refine (shallow_lookUp _ _).bind fun found => ?_
    split
    · simp
    · exact (shallow_startable _).bind fun _ => never_ok _ _
  have hunder : ∀ keyword dynamic, Shallow (anchorUnder r keyword dynamic) := by
    intro keyword dynamic
    refine (shallow_lookUpGiven _ _).bind fun found => ?_
    split
    · simp
    · rename_i v
      have hname : Shallow (anchorName v) := by
        unfold anchorName
        split <;> simp
      exact hname.bind fun _ => never_ok _ _
  unfold Resource.anchors
  split
  · exact hin _
  · exact hin _
  · simp
  · exact hin _
  · exact hin _
  · exact hunder _ _
  · exact (hunder _ _).bind fun _ => (hunder _ _).bind fun _ => never_ok _ _

@[simp] theorem shallow_itemsOf (v : Value) : Shallow (itemsOf v) := by
  unfold itemsOf
  split <;> simp

@[simp] theorem shallow_valuesOf (v : Value) : Shallow (valuesOf v) := by
  unfold valuesOf
  split <;> simp

theorem shallow_underKeywords {contents : Value} {keywords : List String}
    {parts : Value → Except Fault (List Value)} (h : ∀ v, Shallow (parts v)) :
    ∀ x ∈ underKeywords contents keywords parts, Shallow x := by
  intro x hx
  obtain ⟨k, -, hk⟩ := List.mem_filterMap.mp hx
  obtain ⟨v, -, rfl⟩ := Option.map_eq_some_iff.mp hk
  exact h v

theorem shallow_subschemas (r : Resource) : ∀ x ∈ subschemas r, Shallow x := by
  have hitems : Shallow (mixedItems r.contents) := by
    refine (shallow_lookUpGiven _ _).bind fun found => ?_
    repeat' split
    all_goals simp
  have hdependencies : Shallow (mixedDependencies r.contents) := by
    refine (shallow_lookUpGiven _ _).bind fun found => ?_
    split
    · simp
    · exact (shallow_valuesOf _).bind fun _ => never_ok _ _
  intro x hx
  simp only [subschemas, List.mem_append] at hx
  rcases hx with ((((hx | hx) | hx) | hx) | hx) | hx
  · exact shallow_underKeywords (fun _ => never_ok _ _) x hx
  · exact shallow_underKeywords shallow_itemsOf x hx
  · exact shallow_underKeywords shallow_valuesOf x hx
  all_goals
    split at hx
    · cases List.mem_singleton.mp hx
      first | assumption | exact never_ok _ _
    · cases hx

@[simp] theorem shallow_inside (r : Resource) : Shallow r.inside := by
  have hresources : Shallow (resourcesOf r.dialect (subschemas r)) := by
    refine (never_mapM fun part hpart => ?_).bind fun _ => never_ok _ _
    exact (shallow_subschemas r part hpart).bind fun values =>
      never_mapM fun v _ => shallow_ofValue _ v
  unfold Resource.inside
  split
  · exact hresources
  · exact hresources
  · simp
  · exact hresources

/-! ## §2 Registries -/

theorem shallow_openAll : ∀ (fuel : Nat) (g : Registry) (stack : List (String × Resource)),
    Shallow (Registry.openAll fuel g stack)
  | 0, _, _ => never_ok _ _
  | _ + 1, _, [] => never_ok _ _
  | fuel + 1, g, (uri, r) :: rest => by
    rw [Registry.openAll]
    refine (shallow_name? r).bind fun name => ?_
    have hrest : ∀ uri (g : Registry), Shallow (do
        let anchors ← r.anchors
        let g := { g with anchors := (anchors.map fun a => ((uri, a.name), a)).reverse ++ g.anchors }
        let inside ← r.inside
        Registry.openAll fuel g ((inside.map fun r => (uri, r)).reverse ++ rest)) := fun uri g =>
      (shallow_anchors r).bind fun _ => (shallow_inside r).bind fun _ => shallow_openAll fuel _ _
    cases name with
    | none => exact hrest uri g
    | some n => exact (shallow_joined uri n).bind fun uri => hrest uri _

@[simp] theorem shallow_opened (g : Registry) : Shallow g.opened := shallow_openAll _ _ _

/-- A look-up that does not meet the fault of too great a depth. -/
abbrev ShallowStop {α : Type} (x : Except Stop α) : Prop := Never (.fault .tooDeep) x

theorem shallow_orStop {α : Type} {x : Except Fault α} (h : Shallow x) : ShallowStop (orStop x) :=
  h.mapError fun f hf => by simpa using hf

theorem shallow_retrieve (disk : Disk) (reading : Mark) (uri : String) :
    ShallowStop (Registry.retrieve disk reading uri) := by
  unfold Registry.retrieve
  split
  · simp
  · simp only
    repeat' split
    all_goals simp

theorem shallow_fetch (disk : Disk) (g : Registry) (reading : Mark) (uri : String) :
    ShallowStop (g.fetch disk reading uri) := by
  unfold Registry.fetch
  split
  · simp
  · refine (shallow_orStop (shallow_opened g)).bind fun g => ?_
    split
    · simp
    · exact (shallow_retrieve disk reading uri).bind fun _ => never_ok _ _

theorem shallow_anchor (g : Registry) (uri name : String) : ShallowStop (g.anchor uri name) := by
  unfold Registry.anchor
  split
  · simp
  · refine (shallow_orStop (shallow_opened g)).bind fun inner => ?_
    split
    · simp
    · split
      · exact never_error.mpr nofun
      · refine (shallow_orStop (shallow_name? _)).bind fun own => ?_
        split
        · simp
        · exact never_error.mpr nofun

/-! ## §3 Following one reference -/

namespace Resolver

theorem shallow_insideOf (r : Resolver) (resource : Resource) : Shallow (r.inside resource) := by
  refine (shallow_name? resource).bind fun name => ?_
  split
  · simp
  · exact (shallow_joined _ _).bind fun _ => never_ok _ _

theorem shallow_integer (base : Nat) (s : String) : Shallow (Reading.integer base s) := by
  unfold Reading.integer
  simp only
  repeat' split
  all_goals simp

theorem shallow_stepInto (contents : Value) (segment : List Char) :
    ShallowStop (stepInto contents segment) := by
  unfold stepInto
  split
  · exact (shallow_orStop (shallow_integer _ _)).bind fun _ => never_ok _ _
  · simp only
    split <;> simp

theorem shallow_follow (dialect : Dialect) (pointer : String) :
    ∀ (segments : List (List Char)) (names : List (Option String)) (contents : Value)
      (r : Resolver), ShallowStop (r.follow dialect pointer segments names contents)
  | [], _, _, _ => never_ok _ _
  | segment :: rest, names, contents, r => by
    rw [follow]
    refine (shallow_stepInto contents segment).bind fun found => ?_
    split
    · exact never_error.mpr nofun
    · simp only
      split
      · refine (shallow_orStop (shallow_insideOf r _)).bind fun inner => ?_
        split
        · exact shallow_follow dialect pointer rest _ _ _
        · exact shallow_follow dialect pointer rest _ _ _
      · exact shallow_follow dialect pointer rest _ _ _

theorem shallow_outermost (r : Resolver) (name : String) :
    ∀ (uris : List String) (found : Resource), ShallowStop (r.outermost name uris found)
  | [], _ => never_ok _ _
  | uri :: rest, found => by
    rw [outermost]
    have hanchor := shallow_anchor r.registry uri name
    split
    · exact shallow_outermost r name rest _
    · split
      · exact shallow_outermost r name rest _
      · simp
    · rename_i stop _ h
      rw [h] at hanchor
      exact never_error.mpr (never_error.mp hanchor)

theorem shallow_anchored (r : Resolver) (a : Anchor) (name : String) :
    ShallowStop (r.anchored a name) := by
  unfold anchored
  split
  · exact (shallow_outermost r name _ _).bind fun resource =>
      (shallow_orStop (shallow_insideOf r resource)).bind fun _ => never_ok _ _
  · simp

theorem shallow_lookUp (disk : Disk) (r : Resolver) (reading : Mark) (reference : String) :
    ShallowStop (r.lookUp disk reading reference) := by
  have htarget : Shallow (r.target reference) := by
    unfold target
    split
    · simp
    · exact (shallow_joined _ _).bind fun _ => never_mapError nofun _
  refine (shallow_orStop htarget).bind fun target => ?_
  refine (shallow_fetch disk _ reading _).bind fun (registry, resource) => ?_
  simp only
  split
  · exact shallow_follow _ _ _ _ _ _
  · split
    · simp
    · exact (shallow_anchor _ _ _).bind fun found => shallow_anchored _ _ _

end Resolver

theorem never_orFail {α : Type} {x : Except Fault α} (h : Shallow x) :
    Never (.fault .tooDeep) (orFail x) :=
  h.mapError fun f hf => by simpa using hf

/-- **Where a reference leads is never too deep.** -/
theorem never_lead (disk : Disk) (earlier : Option String) (here : Place) (p : Position)
    (reference : String) : Never (.fault .tooDeep) (here.lead disk earlier p reference) := by
  refine (never_orFail (shallow_joined _ _)).bind fun target => ?_
  split
  · exact never_error.mpr nofun
  · refine ((Resolver.shallow_lookUp disk _ p reference).mapError ?_).bind fun found =>
      (never_orFail (never_mapError nofun _)).bind fun _ => never_ok _ _
    rintro (path | reason | f) hf
    · cases hf
    · cases earlier <;> cases hf
    · cases hf
      rfl

/-! ## §4 The root of a document -/

theorem shallow_resolveFrom (before names : List String) :
    Shallow (Path.resolveFrom before names) := by
  fun_induction Path.resolveFrom before names with
  | case1 => exact never_ok _ _
  | case2 _ _ ih => exact ih
  | case3 before name rest _ f hf =>
    refine never_error.mpr ?_
    rintro rfl
    unfold Path.fault? Path.textFault? at hf
    split at hf
    · cases hf
    · split at hf <;> cases hf
  | case4 _ _ _ _ _ ih => exact ih

theorem shallow_rootUri (disk : Disk) (base : Path) (name : String) :
    Shallow (rootUri disk base name) := by
  have hresolve : Shallow (disk.resolve base) := (shallow_resolveFrom _ _).map _
  refine hresolve.bind fun directory => ?_
  unfold Uri.ofPath
  split <;> simp

theorem shallow_rootPlace (uri : String) (document : Value) : Shallow (rootPlace uri document) :=
  (shallow_ofValue _ _).bind fun _ => never_ok _ _

end Reference

end SchemaDoc
