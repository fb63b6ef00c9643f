/-
SchemaDoc.Proofs.Reference.Found — what references find is part of what is known.

A look-up makes no values. What it finds is a part of the document that it
starts from or of a file on the disk, by whatever names, anchors and pointers
it gets there. So a condition that every part of these satisfies holds of
everything that is found (`lookUp_found`).

§1 parts of resources, §2 registries, §3 pointers, §4 look-ups.
-/
import SchemaDoc.Proofs.Failing
import SchemaDoc.Proofs.Value.Every
import SchemaDoc.Reference.Expand

namespace SchemaDoc.Reference

/-! ## §1 Parts of resources -/

/-- A condition on values that asks nothing of scalars. -/
def OfStructure (p : Value → Bool) : Prop := ∀ s, p (.scalar s) = true

/-- Every part of a value satisfies a condition. -/
abbrev Such (p : Value → Bool) (v : Value) : Prop := v.every p = true

/-- Every part of every value of a list satisfies a condition. -/
abbrev AllSuch (p : Value → Bool) (vs : List Value) : Prop := ∀ v ∈ vs, Such p v

variable {p : Value → Bool} {v : Value} {r : Resource}

theorem such_scalar (hp : OfStructure p) (s : Scalar) : Such p (.scalar s) := hp s

theorem yields_lookUp {key : String} (hv : Such p v) :
    Yields (fun found => ∀ w ∈ found, Such p w) (lookUp v key) := by
  have hbare := Value.every_bare hv
  unfold lookUp
  split
  · rename_i entries he
    rw [he] at hbare
    refine yields_ok fun w hw => ?_
    obtain ⟨k, hk⟩ := Entries.mem_of_get? hw
    exact Value.every_of_mapping hbare _ hk
  · exact yields_error _

theorem yields_lookUpGiven {key : String} (hv : Such p v) :
    Yields (fun found => ∀ w ∈ found, Such p w) (lookUpGiven v key) :=
  (yields_lookUp hv).bind fun _ hfound => yields_ok fun w hw =>
    hfound w (Option.mem_filter_iff.mp hw).1

theorem yields_itemsOf (hp : OfStructure p) (hv : Such p v) :
    Yields (AllSuch p) (itemsOf v) := by
  have hbare := Value.every_bare hv
  unfold itemsOf
  split
  · rename_i items he
    rw [he] at hbare
    exact yields_ok (Value.every_of_sequence hbare)
  · rename_i first second he
    rw [he] at hbare
    obtain ⟨hfirst, hsecond⟩ := Value.every_of_pair hbare
    exact yields_ok (List.forall_mem_cons.mpr ⟨hfirst, List.forall_mem_singleton.mpr hsecond⟩)
  · refine yields_ok fun w hw => ?_
    obtain ⟨s, -, rfl⟩ := List.mem_map.mp hw
    exact such_scalar hp s
  · refine yields_ok fun w hw => ?_
    obtain ⟨e, -, rfl⟩ := List.mem_map.mp hw
    exact such_scalar hp e.1
  · refine yields_ok fun w hw => ?_
    obtain ⟨c, -, rfl⟩ := List.mem_map.mp hw
    exact such_scalar hp _
  · refine yields_ok fun w hw => ?_
    obtain ⟨b, -, rfl⟩ := List.mem_map.mp hw
    exact such_scalar hp _
  · exact yields_error _

theorem yields_valuesOf (hv : Such p v) : Yields (AllSuch p) (valuesOf v) := by
  have hbare := Value.every_bare hv
  unfold valuesOf
  split
  · rename_i entries he
    rw [he] at hbare
    refine yields_ok fun w hw => ?_
    obtain ⟨e, he, rfl⟩ := List.mem_map.mp hw
    exact Value.every_of_mapping hbare e he
  · exact yields_error _

theorem yields_underKeywords {keywords : List String} {parts : Value → Except Fault (List Value)}
    (hv : Such p v) (hparts : ∀ w, Such p w → Yields (AllSuch p) (parts w)) :
    ∀ x ∈ underKeywords v keywords parts, Yields (AllSuch p) x := by
  intro x hx
  obtain ⟨k, -, hk⟩ := List.mem_filterMap.mp hx
  obtain ⟨w, hw, rfl⟩ := Option.map_eq_some_iff.mp hk
  exact hparts w (Value.every_of_get? hv hw)

theorem yields_mixedItems (hp : OfStructure p) (hv : Such p v) :
    Yields (AllSuch p) (mixedItems v) := by
  refine (yields_lookUpGiven hv).bind fun found hfound => ?_
  split
  · exact yields_ok fun _ h => nomatch h
  · rename_i w
    have hw : Such p w := hfound w rfl
    split
    · exact yields_itemsOf hp hw
    · exact yields_itemsOf hp hw
    · exact yields_itemsOf hp hw
    · exact yields_itemsOf hp hw
    · exact yields_ok (by simpa [AllSuch] using hw)

theorem yields_mixedDependencies (hv : Such p v) : Yields (AllSuch p) (mixedDependencies v) := by
  refine (yields_lookUpGiven hv).bind fun found hfound => ?_
  split
  · exact yields_ok fun _ h => nomatch h
  · rename_i w
    refine (yields_valuesOf (hfound w rfl)).bind fun values hvalues => ?_
    split
    · exact yields_ok hvalues
    · exact yields_ok fun _ h => nomatch h

theorem allSuch_mixedAdditional (hv : Such p v) : AllSuch p (mixedAdditional v) := by
  intro w hw
  obtain ⟨k, -, hk⟩ := List.mem_filterMap.mp hw
  exact Value.every_of_get? hv (Option.filter_eq_some_iff.mp hk).1

theorem yields_subschemas (hp : OfStructure p) (hr : Such p r.contents) :
    ∀ x ∈ subschemas r, Yields (AllSuch p) x := by
  have hsingle : ∀ w, Such p w → Yields (AllSuch p) (.ok [w] : Except Fault (List Value)) :=
    fun w hw => yields_ok (by simpa [AllSuch] using hw)
  intro x hx
  simp only [subschemas, List.mem_append] at hx
  rcases hx with ((((hx | hx) | hx) | hx) | hx) | hx
  · exact yields_underKeywords hr hsingle x hx
  · exact yields_underKeywords hr (fun _ => yields_itemsOf hp) x hx
  · exact yields_underKeywords hr (fun _ => yields_valuesOf) x hx
  · split at hx
    · rw [List.mem_singleton.mp hx]
      exact yields_mixedItems hp hr
    · cases hx
  · split at hx
    · rw [List.mem_singleton.mp hx]
      exact yields_mixedDependencies hr
    · cases hx
  · split at hx
    · rw [List.mem_singleton.mp hx]
      exact yields_ok (allSuch_mixedAdditional hr)
    · cases hx

theorem yields_ofValue {d : Dialect} (hv : Such p v) :
    Yields (fun r => Such p r.contents) (Resource.ofValue d v) := by
  unfold Resource.ofValue
  split
  · split
    · exact yields_ok hv
    · exact yields_ok hv
    · exact yields_bind fun _ => yields_ok hv
  · exact yields_ok hv

theorem yields_resourcesOf {d : Dialect} {parts : List (Except Fault (List Value))}
    (h : ∀ x ∈ parts, Yields (AllSuch p) x) :
    Yields (fun found => ∀ r ∈ found, Such p r.contents) (resourcesOf d parts) := by
  have hall : Yields (fun found => ∀ rs ∈ found, ∀ r ∈ rs, Such p r.contents)
      (parts.mapM fun part => part >>= List.mapM (Resource.ofValue d)) :=
    yields_mapM fun x hx => (h x hx).bind fun vs hvs =>
      yields_mapM fun w hw => yields_ofValue (hvs w hw)
  refine hall.bind fun found hfound => yields_ok fun r hr => ?_
  obtain ⟨rs, hrs, hr⟩ := List.mem_flatten.mp hr
  exact hfound rs hrs r hr

theorem yields_resources_inside (hp : OfStructure p) (hr : Such p r.contents) :
    Yields (fun found => ∀ q ∈ found, Such p q.contents) r.inside := by
  unfold Resource.inside
  split
  · exact yields_resourcesOf (yields_subschemas hp hr)
  · exact yields_resourcesOf (yields_subschemas hp hr)
  · exact yields_ok fun _ h => nomatch h
  · exact yields_resourcesOf (yields_subschemas hp hr)

theorem yields_anchorUnder {keyword : String} {dynamic : Bool} :
    Yields (fun found => ∀ a ∈ found, a.resource = r) (anchorUnder r keyword dynamic) := by
  refine yields_bind fun found => ?_
  split
  · exact yields_ok fun _ h => nomatch h
  · refine yields_bind fun _ => yields_ok fun a ha => ?_
    rw [List.mem_singleton.mp ha]

theorem yields_anchorInName {keyword : String} :
    Yields (fun found => ∀ a ∈ found, a.resource = r) (anchorInName r keyword) := by
  refine yields_bind fun found => ?_
  split
  · exact yields_ok fun _ h => nomatch h
  · refine yields_bind fun s => yields_ok fun a ha => ?_
    split at ha
    · rw [List.mem_singleton.mp ha]
    · cases ha

/-- The anchors of a resource name it. -/
theorem yields_anchors : Yields (fun found => ∀ a ∈ found, a.resource = r) r.anchors := by
  unfold Resource.anchors
  split
  · exact yields_anchorInName
  · exact yields_anchorInName
  · exact yields_ok fun _ h => nomatch h
  · exact yields_anchorInName
  · exact yields_anchorInName
  · exact yields_anchorUnder
  · refine yields_anchorUnder.bind fun fixed hfixed => yields_anchorUnder.bind fun dynamic hdynamic =>
      yields_ok fun a ha => ?_
    rcases List.mem_append.mp ha with ha | ha
    · exact hfixed a ha
    · exact hdynamic a ha

/-! ## §2 Registries -/

theorem withoutFragmentMark_eq {s : String} (h : '#' ∉ s.toList) : withoutFragmentMark s = s := by
  have hdrop : s.toList.reverse.dropWhile (· == '#') = s.toList.reverse := by
    cases hr : s.toList.reverse with
    | nil => rfl
    | cons c rest =>
      have hc : c ∈ s.toList := List.mem_reverse.mp (hr ▸ List.mem_cons_self ..)
      have hne : c ≠ '#' := fun e => h (e ▸ hc)
      simp [hne]
  rw [withoutFragmentMark, hdrop, List.reverse_reverse, String.ofList_toList]

/-- Every part of what is known by a URI or as an anchor satisfies a condition. -/
structure Registry.Holds (p : Value → Bool) (g : Registry) : Prop where
  resources : ∀ e ∈ g.resources, Such p e.2.contents
  anchors : ∀ e ∈ g.anchors, Such p e.2.resource.contents

/-- A value is read from a file of the disk, in some reading. -/
def IsRead (disk : Disk) (contents : Value) : Prop :=
  ∃ path bytes text reading, disk.bytes? path = .ok (some bytes) ∧ Load.text bytes = .ok text ∧
    Load.document text (Text.lower path.suffix) path.toString reading = .ok contents

/-- Every part of what is read from the files of a disk satisfies a condition. -/
def FilesHold (p : Value → Bool) (disk : Disk) : Prop := ∀ v, IsRead disk v → Such p v

variable {g : Registry} {disk : Disk}

theorem Registry.Holds.find? (hg : g.Holds p) {uri : String} (h : g.find? uri = some r) :
    Such p r.contents := by
  obtain ⟨before, after, he, -⟩ := List.lookup_eq_some_iff.mp h
  exact hg.resources (uri, r) (by simp [he])

theorem Registry.Holds.anchor? (hg : g.Holds p) {uri name : String} {a : Anchor}
    (h : g.anchor? uri name = some a) : Such p a.resource.contents := by
  obtain ⟨e, he, rfl⟩ := Option.map_eq_some_iff.mp h
  exact hg.anchors e (List.mem_of_find?_eq_some he)

theorem Registry.holds_empty (p : Value → Bool) : Registry.Holds p {} where
  resources := fun _ h => nomatch h
  anchors := fun _ h => nomatch h

theorem Registry.Holds.add (hg : g.Holds p) (uri : String) (hr : Such p r.contents) :
    (g.add uri r).Holds p :=
  ⟨List.forall_mem_cons.mpr ⟨hr, hg.resources⟩, hg.anchors⟩

/-- Looking into resources enters only parts of them. -/
theorem yields_openAll (hp : OfStructure p) {fuel : Nat} : ∀ {g : Registry}
    {stack : List (String × Resource)}, g.Holds p → (∀ e ∈ stack, Such p e.2.contents) →
      Yields (Registry.Holds p) (Registry.openAll fuel g stack) := by
  induction fuel with
  | zero => exact fun hg _ => yields_ok hg
  | succ fuel ih =>
    intro g stack hg hstack
    cases stack with
    | nil => exact yields_ok hg
    | cons e rest =>
      obtain ⟨uri, r⟩ := e
      obtain ⟨hr, hrest⟩ := List.forall_mem_cons.mp hstack
      -- whatever name the resource is entered under, and after it has been
      have hentered (uri : String) {g : Registry} (hg : g.Holds p) :
          Yields (Registry.Holds p) (do
            let anchors ← r.anchors
            let g := { g with
              anchors := (anchors.map fun a => ((uri, a.name), a)).reverse ++ g.anchors }
            let inside ← r.inside
            Registry.openAll fuel g ((inside.map fun r => (uri, r)).reverse ++ rest)) := by
        refine yields_anchors.bind fun anchors hanchors => ?_
        refine (yields_resources_inside hp hr).bind fun inside hinside => ih ?_ ?_
        · refine ⟨hg.resources, List.forall_mem_append.mpr ⟨fun e he => ?_, hg.anchors⟩⟩
          obtain ⟨a, ha, rfl⟩ := List.mem_map.mp (List.mem_reverse.mp he)
          rw [hanchors a ha]
          exact hr
        · refine List.forall_mem_append.mpr ⟨fun e he => ?_, hrest⟩
          obtain ⟨q, hq, rfl⟩ := List.mem_map.mp (List.mem_reverse.mp he)
          exact hinside q hq
      refine yields_bind fun name => ?_
      cases name with
      | none => exact hentered uri hg
      | some n =>
        exact yields_bind fun uri =>
          hentered uri ⟨List.forall_mem_cons.mpr ⟨hr, hg.resources⟩, hg.anchors⟩

theorem yields_opened (hp : OfStructure p) (hg : g.Holds p) :
    Yields (Registry.Holds p) g.opened := by
  refine yields_openAll hp ⟨hg.resources, hg.anchors⟩ fun e he => ?_
  obtain ⟨uri, -, he⟩ := List.mem_filterMap.mp he
  obtain ⟨r, hr, rfl⟩ := Option.map_eq_some_iff.mp he
  exact hg.find? hr

theorem yields_retrieve {reading : Mark} {uri : String} (hdisk : FilesHold p disk) :
    Yields (fun r => Such p r.contents) (Registry.retrieve disk reading uri) := by
  unfold Registry.retrieve
  split
  · exact yields_error _
  split
  · exact yields_error _
  dsimp only
  split
  · exact yields_error _
  · exact yields_error _
  rename_i bytes hbytes
  split
  · exact yields_error _
  rename_i contents hread
  obtain ⟨text, htext, hread⟩ := bind_eq_ok.mp hread
  have hcontents : Such p contents :=
    hdisk contents ⟨_, bytes, text, reading, hbytes, orFail_eq_ok.mp htext, hread⟩
  split
  · exact yields_error _
  · rename_i r hr
    exact yields_ok (yields_ofValue hcontents r hr)

theorem yields_fetch {reading : Mark} {uri : String} (hp : OfStructure p)
    (hdisk : FilesHold p disk) (hg : g.Holds p) :
    Yields (fun found => found.1.Holds p ∧ Such p found.2.contents)
      (g.fetch disk reading uri) := by
  unfold Registry.fetch
  split
  · rename_i r hr
    exact yields_ok ⟨hg, hg.find? hr⟩
  refine ((yields_opened hp hg).mapError _).bind fun g hg => ?_
  split
  · rename_i r hr
    exact yields_ok ⟨hg, hg.find? hr⟩
  · exact (yields_retrieve hdisk).bind fun r hr => yields_ok ⟨hg.add uri hr, hr⟩

theorem yields_anchor {uri name : String} (hp : OfStructure p) (hg : g.Holds p) :
    Yields (fun found => found.1.Holds p ∧ Such p found.2.resource.contents)
      (g.anchor uri name) := by
  unfold Registry.anchor
  split
  · rename_i a ha
    exact yields_ok ⟨hg, hg.anchor? ha⟩
  refine ((yields_opened hp hg).mapError _).bind fun inner hinner => ?_
  split
  · rename_i a ha
    exact yields_ok ⟨hinner, hinner.anchor? ha⟩
  split
  · exact yields_error _
  refine yields_bind fun own => ?_
  split
  · rename_i a ha
    obtain ⟨u, -, ha⟩ := Option.bind_eq_some_iff.mp ha
    exact yields_ok ⟨hinner, hinner.anchor? ha⟩
  · exact yields_error _

/-! ## §3 Pointers -/

theorem mem_of_itemAt? {α : Type} {items : List α} {i : Int} {a : α}
    (h : Resolver.itemAt? items i = some a) : a ∈ items := by
  unfold Resolver.itemAt? at h
  split at h
  · exact List.mem_of_getElem? h
  · split at h
    · exact List.mem_of_getElem? h
    · cases h

theorem allSuch_of_indexed? (hp : OfStructure p) (hv : Such p v) {items : List Value}
    (h : Resolver.indexed? v = some items) : AllSuch p items := by
  have hbare := Value.every_bare hv
  unfold Resolver.indexed? at h
  split at h
  · rename_i he
    rw [he] at hbare
    cases h
    exact Value.every_of_sequence hbare
  · rename_i he
    rw [he] at hbare
    cases h
    obtain ⟨hfirst, hsecond⟩ := Value.every_of_pair hbare
    exact List.forall_mem_cons.mpr ⟨hfirst, List.forall_mem_singleton.mpr hsecond⟩
  · cases h
    intro w hw
    obtain ⟨c, -, rfl⟩ := List.mem_map.mp hw
    exact such_scalar hp _
  · cases h
    intro w hw
    obtain ⟨b, -, rfl⟩ := List.mem_map.mp hw
    exact such_scalar hp _
  · cases h

/-- A step of a pointer leads to a part. -/
theorem yields_stepInto (hp : OfStructure p) (hv : Such p v) {segment : List Char} :
    Yields (fun found => ∀ w ∈ found, Such p w.1) (Resolver.stepInto v segment) := by
  have hbare := Value.every_bare hv
  unfold Resolver.stepInto
  split
  · rename_i items hi
    refine yields_bind fun i => yields_ok fun w hw => ?_
    obtain ⟨u, hu, rfl⟩ := Option.map_eq_some_iff.mp hw
    exact allSuch_of_indexed? hp hv hi u (mem_of_itemAt? hu)
  · dsimp only
    split
    · rename_i entries he
      rw [he] at hbare
      refine yields_ok fun w hw => ?_
      obtain ⟨u, hu, rfl⟩ := Option.map_eq_some_iff.mp hw
      obtain ⟨k, hk⟩ := Entries.mem_of_get? hu
      exact Value.every_of_mapping hbare _ hk
    · exact yields_error _

/-- What is inside a resource changes the base alone. -/
theorem yields_resolver_inside {q : Resolver} :
    Yields (fun inner => ∀ s ∈ inner, s.registry = q.registry) (q.inside r) := by
  refine yields_bind fun name => ?_
  split
  · exact yields_ok fun _ h => nomatch h
  · refine yields_bind fun base => yields_ok fun s hs => ?_
    cases hs
    rfl

/-- What a way through a document comes to, and the resolver there: a part, and no new registry. -/
abbrev PartOf (p : Value → Bool) (q : Resolver) (x : Value × Resolver) : Prop :=
  Such p x.1 ∧ x.2.registry = q.registry

theorem yields_follow {d : Dialect} {pointer : String} (hp : OfStructure p) :
    ∀ {segments : List (List Char)} {names : List (Option String)} {v : Value} {q : Resolver},
      Such p v → Yields (PartOf p q) (q.follow d pointer segments names v)
  | [], _, _, _, hv => yields_ok ⟨hv, rfl⟩
  | segment :: rest, names, v, q, hv => by
    rw [Resolver.follow]
    refine (yields_stepInto hp hv).bind fun found hfound => ?_
    split
    · exact yields_error _
    · rename_i w name
      have hw : Such p w := hfound _ rfl
      dsimp only
      split
      · refine (yields_resolver_inside.mapError _).bind fun inner hinner => ?_
        split
        · rename_i s
          intro x hx
          obtain ⟨hpart, hsame⟩ := yields_follow hp hw x hx
          exact ⟨hpart, hsame.trans (hinner s rfl)⟩
        · exact yields_follow hp hw
      · exact yields_follow hp hw

theorem yields_pointer {pointer : String} {q : Resolver} (hp : OfStructure p)
    (hr : Such p r.contents) : Yields (PartOf p q) (q.pointer r pointer) :=
  yields_follow hp hr

theorem yields_outermost {q : Resolver} {name : String} (hp : OfStructure p)
    (hq : q.registry.Holds p) : ∀ {uris : List String} {r : Resource}, Such p r.contents →
      Yields (fun found => Such p found.contents) (q.outermost name uris r)
  | [], _, hr => yields_ok hr
  | uri :: rest, r, hr => by
    rw [Resolver.outermost]
    split
    · rename_i a ha
      refine yields_outermost hp hq ?_
      split
      · exact (yields_anchor hp hq _ ha).2
      · exact hr
    · split
      · exact yields_outermost hp hq hr
      · exact yields_error _
    · exact yields_error _

theorem yields_anchored {q : Resolver} {a : Anchor} {name : String} (hp : OfStructure p)
    (hq : q.registry.Holds p) (ha : Such p a.resource.contents) :
    Yields (PartOf p q) (q.anchored a name) := by
  unfold Resolver.anchored
  split
  · refine (yields_outermost hp hq ha).bind fun found hfound => ?_
    refine (yields_resolver_inside.mapError _).bind fun inner hinner => yields_ok ⟨hfound, ?_⟩
    cases inner with
    | none => rfl
    | some s => exact hinner s rfl
  · exact yields_ok ⟨ha, rfl⟩

/-! ## §4 Look-ups -/

/-- **What a look-up finds is part of what is known**, and so is all that is known afterwards. -/
theorem lookUp_found {reading : Mark} {q : Resolver} {reference : String} (hp : OfStructure p)
    (hdisk : FilesHold p disk) (hq : q.registry.Holds p) :
    Yields (fun x => Such p x.1 ∧ x.2.registry.Holds p) (q.lookUp disk reading reference) := by
  have hpart {s : Resolver} (hs : s.registry.Holds p) {x : Except Stop (Value × Resolver)}
      (hx : Yields (PartOf p s) x) : Yields (fun x => Such p x.1 ∧ x.2.registry.Holds p) x :=
    fun found hfound => ⟨(hx found hfound).1, (hx found hfound).2 ▸ hs⟩
  refine yields_bind fun target => ?_
  obtain ⟨uri, fragment⟩ := target
  refine (yields_fetch hp hdisk hq).bind fun found hfound => ?_
  obtain ⟨registry, resource⟩ := found
  obtain ⟨hregistry, hresource⟩ := hfound
  dsimp only
  split
  · exact hpart hregistry (yields_pointer hp hresource)
  split
  · exact yields_ok ⟨hresource, hregistry⟩
  refine (yields_anchor hp hregistry).bind fun found hfound => ?_
  obtain ⟨registry, a⟩ := found
  obtain ⟨hregistry, ha⟩ := hfound
  exact hpart hregistry (yields_anchored hp hregistry ha)

end SchemaDoc.Reference
