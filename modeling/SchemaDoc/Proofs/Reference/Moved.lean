/-
SchemaDoc.Proofs.Reference.Moved — look-ups with a text in front of every URI.

Documents that give themselves no names are known by URIs that nothing is done
with but to compare them. So a text put in front of all of them changes
nothing about what is found, as long as it ends in a slash: registries and
resolvers with it, and without it, go alike step by step.

§1 registries, §2 looking inside, §3 anchors, §4 resolvers, §5 what stays.
-/
import SchemaDoc.Proofs.Reference.Nameless

namespace SchemaDoc.Reference

/-! ## §1 Registries -/

/-- A registry with a text in front of every URI. -/
def Registry.below (front : String) (g : Registry) : Registry where
  resources := g.resources.map fun e => (front ++ e.1, e.2)
  anchors := g.anchors.map fun e => ((front ++ e.1.1, e.1.2), e.2)
  unopened := g.unopened.map (front ++ ·)

/-- A text that ends in a slash. -/
def Slashed (front : String) : Prop := ∃ s, front.toList = s ++ ['/']

variable {front uri name : String} {g : Registry} {r : Resource}

theorem Slashed.ne_empty (h : Slashed front) : front ≠ "" := by
  rintro rfl
  obtain ⟨s, hs⟩ := h
  simp at hs

theorem beq_append (front u v : String) : (front ++ u == front ++ v) = (u == v) := by
  rw [Bool.eq_iff_iff, beq_iff_eq, beq_iff_eq, ← String.toList_inj, ← String.toList_inj,
    String.toList_append, String.toList_append, List.append_cancel_left_eq]

/-- Number signs are taken away from what stands behind the slash. -/
theorem withoutFragmentMark_append (h : Slashed front) (uri : String) :
    withoutFragmentMark (front ++ uri) = front ++ withoutFragmentMark uri := by
  obtain ⟨s, hs⟩ := h
  have hslash : ∀ rest : List Char, (rest ++ '/' :: s.reverse).dropWhile (· == '#')
      = rest.dropWhile (· == '#') ++ '/' :: s.reverse := by
    intro rest
    induction rest with
    | nil => rfl
    | cons c rest ih =>
      rw [List.cons_append, List.dropWhile_cons, List.dropWhile_cons, ih]
      split <;> rfl
  rw [withoutFragmentMark, withoutFragmentMark, ← String.toList_inj, String.toList_ofList,
    String.toList_append, String.toList_append, String.toList_ofList, hs, List.reverse_append,
    List.reverse_append, List.reverse_singleton, List.singleton_append, hslash]
  simp

namespace Registry

theorem find?_below (g : Registry) (uri : String) :
    (g.below front).find? (front ++ uri) = g.find? uri := by
  unfold find? below
  generalize g.resources = resources
  induction resources with
  | nil => rfl
  | cons e rest ih => rw [List.map_cons, List.lookup_cons, List.lookup_cons, beq_append, ih]

theorem anchor?_below (g : Registry) (uri name : String) :
    (g.below front).anchor? (front ++ uri) name = g.anchor? uri name := by
  unfold anchor? below
  generalize g.anchors = anchors
  induction anchors with
  | nil => rfl
  | cons e rest ih =>
    obtain ⟨⟨u, n⟩, a⟩ := e
    rw [List.map_cons, List.find?_cons, List.find?_cons]
    dsimp only
    rw [beq_append]
    split
    · rfl
    · exact ih

theorem add_below (h : Slashed front) (g : Registry) (uri : String) (r : Resource) :
    (g.below front).add (front ++ uri) r = (g.add uri r).below front := by
  simp only [add, below, withoutFragmentMark_append h, List.map_cons]

/-! ## §2 Looking inside -/

theorem openAll_below {fuel : Nat} {stack : List (String × Resource)}
    (h : ∀ e ∈ stack, Unnamed e.2.contents) :
    openAll fuel (g.below front) (stack.map fun e => (front ++ e.1, e.2))
      = (openAll fuel g stack).map (below front) := by
  induction fuel generalizing g stack with
  | zero => rfl
  | succ fuel ih =>
    cases stack with
    | nil => rfl
    | cons e rest =>
      obtain ⟨uri, r⟩ := e
      obtain ⟨hr, hrest⟩ := List.forall_mem_cons.mp h
      rw [List.map_cons, openAll, openAll]
      rcases name?_of_unnamed hr with hn | ⟨f, hn⟩
      · rw [hn]
        simp only [ok_bind, pure_eq_ok]
        cases r.anchors with
        | error f => rfl
        | ok anchors =>
          simp only [ok_bind]
          cases hi : r.inside with
          | error f => rfl
          | ok inside =>
            simp only [ok_bind]
            have hstack : ∀ e ∈ (inside.map fun r => (uri, r)).reverse ++ rest,
                Unnamed e.2.contents := by
              refine List.forall_mem_append.mpr ⟨fun e he => ?_, hrest⟩
              obtain ⟨q, hq, rfl⟩ := List.mem_map.mp (List.mem_reverse.mp he)
              exact yields_resources_inside ofStructure_isUnnamedPart hr _ hi q hq
            rw [← ih hstack]
            simp [below, List.map_reverse, Function.comp_def]
      · rw [hn]
        rfl

/-- What is looked into has no names. -/
theorem opened_below (hg : g.Holds isUnnamedPart) :
    (g.below front).opened = g.opened.map (below front) := by
  have hstack : (g.below front).unopened.filterMap
        (fun uri => ((g.below front).find? uri).map fun r => (uri, r))
      = (g.unopened.filterMap fun uri => (g.find? uri).map fun r => (uri, r)).map
          fun e => (front ++ e.1, e.2) := by
    have hfind : (fun uri => ((g.below front).find? uri).map fun r => (uri, r)) ∘ (front ++ ·)
        = fun uri => ((g.find? uri).map fun r => (uri, r)).map fun e => (front ++ e.1, e.2) := by
      funext uri
      rw [Function.comp_apply, find?_below]
      cases g.find? uri <;> rfl
    rw [List.map_filterMap, ← hfind, ← List.filterMap_map]
    rfl
  have hunnamed : ∀ e ∈ g.unopened.filterMap fun uri => (g.find? uri).map fun r => (uri, r),
      Unnamed e.2.contents := by
    intro e he
    obtain ⟨uri, -, he⟩ := List.mem_filterMap.mp he
    obtain ⟨r, hr, rfl⟩ := Option.map_eq_some_iff.mp he
    exact hg.find? hr
  simp only [opened, hstack, List.foldl_map]
  exact openAll_below (g := { g with unopened := [] }) hunnamed

/-- Looking inside enters nothing but anchors. -/
theorem yields_opened_resources (hg : g.Holds isUnnamedPart) :
    Yields (fun found => found.resources = g.resources) g.opened := by
  have hunnamed : ∀ e ∈ g.unopened.filterMap fun uri => (g.find? uri).map fun r => (uri, r),
      Unnamed e.2.contents := by
    intro e he
    obtain ⟨uri, -, he⟩ := List.mem_filterMap.mp he
    obtain ⟨r, hr, rfl⟩ := Option.map_eq_some_iff.mp he
    exact hg.find? hr
  intro found hfound
  simp only [opened] at hfound
  rw [openAll_frame hunnamed] at hfound
  obtain ⟨anchors, -, rfl⟩ := map_eq_ok.mp hfound
  rfl

end Registry

/-! ## §3 Anchors -/

/-- Two ways in which a reference has no answer are of one kind. -/
inductive Stop.Alike : Stop → Stop → Prop
  | missing {path path' : String} : Alike (.missing path) (.missing path')
  | nowhere {reason reason' : String} : Alike (.nowhere reason) (.nowhere reason')
  | fault (f : Fault) : Alike (.fault f) (.fault f)

theorem Stop.Alike.refl : ∀ s : Stop, Alike s s
  | .missing _ => .missing
  | .nowhere _ => .nowhere
  | .fault f => .fault f

theorem Stop.Alike.meet {s s' t : Stop} (h : Alike s t) (h' : Alike s' t) : Alike s s' := by
  cases h <;> cases h' <;> constructor

/-- A result with a text in front of its URIs. -/
abbrev MovedPair {α : Type} (front : String) (x y : Registry × α) : Prop :=
  x = (y.1.below front, y.2)

theorem Registry.anchor_below (hfront : Slashed front) (hg : g.Holds isUnnamedPart)
    (uri name : String) :
    Parallel (MovedPair front) Stop.Alike ((g.below front).anchor (front ++ uri) name)
      (g.anchor uri name) := by
  unfold Registry.anchor
  rw [anchor?_below]
  split
  · exact .ok rfl
  rw [opened_below hg]
  cases g.opened with
  | error f => exact .error (.fault f)
  | ok inner =>
    show Parallel _ _ (Except.ok (inner.below front) >>= _) (Except.ok inner >>= _)
    simp only [ok_bind, anchor?_below, withoutFragmentMark_append hfront, find?_below]
    split
    · exact .ok rfl
    split
    · exact .error .nowhere
    rename_i r hr
    rcases name?_of_unnamed (hg.find? hr) with hn | ⟨f, hn⟩
    · rw [hn]
      exact .error .nowhere
    · rw [hn]
      exact .error (.fault f)

/-! ## §4 Resolvers -/

namespace Resolver

variable {q : Resolver}

/-- A resolver with a text in front of every URI. -/
def below (front : String) (q : Resolver) : Resolver :=
  ⟨q.registry.below front, front ++ q.base, q.passed.map (front ++ ·)⟩

/-- The resolver in another resource, from a base that is not empty. -/
def entered (q : Resolver) (registry : Registry) (base : String) : Resolver :=
  ⟨registry, base, if q.passed.isEmpty || base != q.base then q.base :: q.passed else q.passed⟩

theorem enter_below (h : front ≠ "") (q : Resolver) (g : Registry) (uri : String) :
    (q.below front).enter (g.below front) (front ++ uri) = (q.entered g uri).below front := by
  have hbase : (front ++ q.base != "") = true := by
    rw [bne_iff_ne, Ne, ← String.toList_inj, String.toList_append]
    intro he
    exact h (String.toList_inj.mp (List.append_eq_nil_iff.mp he).1)
  have hne : (front ++ uri != front ++ q.base) = (uri != q.base) := by
    rw [bne, bne, beq_append]
  unfold enter entered below
  simp only [hbase, hne, List.isEmpty_map, Bool.true_and]
  split <;> rfl

/-- A value and its resolver with a text in front of the URIs. -/
abbrev Moved (front : String) (x y : Value × Resolver) : Prop := x = (y.1, y.2.below front)

theorem pointer_below (hr : Unnamed r.contents) (pointer : String) :
    Parallel (Moved front) Stop.Alike ((q.below front).pointer r pointer) (q.pointer r pointer) := by
  rcases rigid_pointer hr pointer with ⟨w, hw⟩ | ⟨e, he⟩
  · have hw (q : Resolver) : q.pointer r pointer = .ok (w, q) := hw q
    rw [hw, hw]
    exact .ok rfl
  · have he (q : Resolver) : q.pointer r pointer = .error e := he q
    rw [he, he]
    exact .error (.refl e)

theorem outermost_below (hfront : Slashed front) (hq : q.registry.Holds isUnnamedPart) :
    ∀ (uris : List String) (found : Resource),
      Parallel Eq Stop.Alike ((q.below front).outermost name (uris.map (front ++ ·)) found)
        (q.outermost name uris found)
  | [], found => .ok rfl
  | uri :: rest, found => by
    have hanchor := Registry.anchor_below hfront hq uri name
    rw [List.map_cons, outermost, outermost]
    simp only [below]
    revert hanchor
    generalize (q.registry.below front).anchor (front ++ uri) name = x
    generalize q.registry.anchor uri name = y
    -- the answers are matched on, so they are told apart together
    rintro (⟨rfl⟩ | ⟨_ | _ | f⟩)
    · exact outermost_below hfront hq rest _
    · exact .error .missing
    · simp only [withoutFragmentMark_append hfront, Registry.find?_below]
      split
      · exact outermost_below hfront hq rest found
      · exact .error .nowhere
    · exact .error (.fault f)

theorem anchored_below (hfront : Slashed front) (hq : q.registry.Holds isUnnamedPart) {a : Anchor}
    (ha : Unnamed a.resource.contents) :
    Parallel (Moved front) Stop.Alike ((q.below front).anchored a name) (q.anchored a name) := by
  unfold anchored
  split
  · have hyields : Yields (fun found => Unnamed found.contents)
        (q.outermost name q.passed a.resource) := yields_outermost ofStructure_isUnnamedPart hq ha
    refine (outermost_below hfront hq q.passed a.resource).bind_of fun found _ hfound hsame => ?_
    subst hsame
    rcases inside_of_unnamed (hyields found hfound) with hi | ⟨f, hi⟩
    · rw [hi, hi]
      exact .ok rfl
    · rw [hi, hi]
      exact .error (.fault f)
  · exact .ok rfl

/-- What a resolver finds at a fragment of a resource that is known by a URI. -/
def reach (q : Resolver) (g : Registry) (r : Resource) (uri fragment : String) :
    Except Stop (Value × Resolver) :=
  if fragment.toList.head? = some '/' then (q.entered g uri).pointer r fragment
  else if fragment = "" then return (r.contents, q.entered g uri)
  else do
    let (g, a) ← g.anchor uri fragment
    (q.entered g uri).anchored a fragment

/-- **What is found at a fragment does not depend on the text in front.** -/
theorem reach_below (hfront : Slashed front) (hg : g.Holds isUnnamedPart) (hr : Unnamed r.contents)
    (fragment : String) :
    Parallel (Moved front) Stop.Alike
      (if fragment.toList.head? = some '/' then
        ((q.below front).enter (g.below front) (front ++ uri)).pointer r fragment
      else if fragment = "" then
        return (r.contents, (q.below front).enter (g.below front) (front ++ uri))
      else do
        let (g, a) ← (g.below front).anchor (front ++ uri) fragment
        ((q.below front).enter g (front ++ uri)).anchored a fragment)
      (q.reach g r uri fragment) := by
  unfold reach
  split
  · rw [enter_below hfront.ne_empty]
    exact pointer_below hr fragment
  split
  · rw [enter_below hfront.ne_empty]
    exact .ok rfl
  have hyields : Yields (fun found => found.1.Holds isUnnamedPart ∧
      Unnamed found.2.resource.contents) (g.anchor uri fragment) :=
    yields_anchor ofStructure_isUnnamedPart hg
  refine (Registry.anchor_below hfront hg uri fragment).bind_of fun found moved hfound hmoved => ?_
  subst hmoved
  obtain ⟨hholds, ha⟩ := hyields moved hfound
  dsimp only
  rw [enter_below hfront.ne_empty]
  exact anchored_below hfront hholds ha

end Resolver

/-! ## §5 What stays -/

variable {p : Value → Bool} {known : String → Prop} {disk : Disk} {reading : Mark}

/-- A condition on values leaves no names. -/
def LeavesUnnamed (p : Value → Bool) : Prop := ∀ v, Such p v → Unnamed v

/-- What is known satisfies a condition, and so do the URIs that it is known by. -/
structure Registry.Stands (p : Value → Bool) (known : String → Prop) (g : Registry) : Prop where
  holds : g.Holds p
  keyed : ∀ e ∈ g.resources, known e.1

namespace Registry

theorem Holds.unnamed (hp : LeavesUnnamed p) (hg : g.Holds p) : g.Holds isUnnamedPart :=
  ⟨fun e he => hp _ (hg.resources e he), fun e he => hp _ (hg.anchors e he)⟩

theorem mem_of_find? (h : g.find? uri = some r) : (uri, r) ∈ g.resources := by
  obtain ⟨before, after, he, -⟩ := List.lookup_eq_some_iff.mp h
  simp [he]

theorem yields_opened_stands (hp : OfStructure p) (hunnamed : LeavesUnnamed p)
    (hg : g.Stands p known) : Yields (Stands p known) g.opened := fun found hfound =>
  ⟨yields_opened hp hg.holds found hfound,
    yields_opened_resources (hg.holds.unnamed hunnamed) found hfound ▸ hg.keyed⟩

theorem yields_anchor_stands (hp : OfStructure p) (hunnamed : LeavesUnnamed p)
    (hg : g.Stands p known) (uri name : String) :
    Yields (fun found => found.1.Stands p known) (g.anchor uri name) := by
  unfold anchor
  split
  · exact yields_ok hg
  refine ((yields_opened_stands hp hunnamed hg).mapError _).bind fun inner hinner => ?_
  split
  · exact yields_ok hinner
  split
  · exact yields_error _
  refine yields_bind fun own => ?_
  split
  · exact yields_ok hinner
  · exact yields_error _

/-- **A resource is fetched alike below two texts**, if it is read alike. -/
theorem fetch_below {front' : String} (hfront : Slashed front) (hfront' : Slashed front')
    (hp : OfStructure p) (hunnamed : LeavesUnnamed p) (hg : g.Stands p known)
    (huri : withoutFragmentMark uri = uri)
    (hread : Parallel (fun x y => x = y ∧ Such p x.contents ∧ known uri) Stop.Alike
      (retrieve disk reading (front ++ uri)) (retrieve disk reading (front' ++ uri))) :
    Parallel (fun x y => ∃ found : Registry × Resource, MovedPair front x found ∧
        MovedPair front' y found ∧ found.1.Stands p known ∧ Such p found.2.contents ∧ known uri)
      Stop.Alike ((g.below front).fetch disk reading (front ++ uri))
      ((g.below front').fetch disk reading (front' ++ uri)) := by
  have hopened := hg.holds.unnamed hunnamed
  unfold fetch
  rw [find?_below, find?_below, opened_below hopened, opened_below hopened]
  cases hr : g.find? uri with
  | some r => exact .ok ⟨(g, r), rfl, rfl, hg, hg.holds.find? hr, hg.keyed _ (mem_of_find? hr)⟩
  | none =>
    cases hinner : g.opened with
    | error f => exact .error (.fault f)
    | ok inner =>
      have hstands := yields_opened_stands hp hunnamed hg inner hinner
      simp only [Except.map, orStop, mapError_ok, ok_bind, find?_below]
      cases hr : inner.find? uri with
      | some r =>
        exact .ok ⟨(inner, r), rfl, rfl, hstands, hstands.holds.find? hr,
          hstands.keyed _ (mem_of_find? hr)⟩
      | none =>
        refine hread.bind fun r r' hr => ?_
        obtain ⟨rfl, hr, hknown⟩ := hr
        refine .ok ⟨(inner.add uri r, r), ?_, ?_, ⟨hstands.holds.add uri hr, ?_⟩, hr, hknown⟩
        · rw [MovedPair, add_below hfront]
        · rw [MovedPair, add_below hfront']
        · exact List.forall_mem_cons.mpr ⟨huri.symm ▸ hknown, hstands.keyed⟩

end Registry

namespace Resolver

variable {q : Resolver}

/-- What is found, and the resolver there, which has the base that was asked for. -/
structure Reached (p : Value → Bool) (known : String → Prop) (uri : String) (x : Value × Resolver) :
    Prop where
  such : Such p x.1
  stands : x.2.registry.Stands p known
  base : x.2.base = uri

theorem yields_reach (hp : OfStructure p) (hunnamed : LeavesUnnamed p) (hg : g.Stands p known)
    (hr : Such p r.contents) (fragment : String) :
    Yields (Reached p known uri) (q.reach g r uri fragment) := by
  unfold reach
  split
  · intro x hx
    obtain ⟨hpart, -⟩ := yields_pointer hp hr x hx
    rcases rigid_pointer (hunnamed _ hr) fragment with ⟨w, hw⟩ | ⟨e, he⟩
    · obtain rfl := Except.ok.inj ((hw (q.entered g uri)).symm.trans hx)
      exact ⟨hpart, hg, rfl⟩
    · exact absurd ((he (q.entered g uri)).symm.trans hx) nofun
  split
  · exact yields_ok ⟨hr, hg, rfl⟩
  intro x hx
  obtain ⟨⟨inner, a⟩, hfound, hx⟩ := bind_eq_ok.mp hx
  have hinner := Registry.yields_anchor_stands hp hunnamed hg uri fragment _ hfound
  have ha := (yields_anchor hp hg.holds _ hfound).2
  dsimp only at hx ha hinner
  unfold anchored at hx
  split at hx
  · obtain ⟨found, hout, hx⟩ := bind_eq_ok.mp hx
    have hsuch := yields_outermost hp hinner.holds ha found hout
    obtain ⟨own, hown, hx⟩ := bind_eq_ok.mp hx
    cases hx
    rcases inside_of_unnamed (hunnamed _ hsuch) with hi | ⟨f, hi⟩
    · rw [hi] at hown
      cases hown
      exact ⟨hsuch, hinner, rfl⟩
    · rw [hi] at hown
      cases hown
  · cases hx
    exact ⟨ha, hinner, rfl⟩

/-- **A reference is looked up alike below two texts**, if it has the same target there and that is
read alike. -/
theorem lookUp_below {front' reference fragment : String} (hfront : Slashed front)
    (hfront' : Slashed front') (hp : OfStructure p) (hunnamed : LeavesUnnamed p)
    (hq : q.registry.Stands p known) (huri : withoutFragmentMark uri = uri)
    (htarget : (q.below front).target reference = .ok (front ++ uri, fragment))
    (htarget' : (q.below front').target reference = .ok (front' ++ uri, fragment))
    (hread : Parallel (fun x y => x = y ∧ Such p x.contents ∧ known uri) Stop.Alike
      (Registry.retrieve disk reading (front ++ uri))
      (Registry.retrieve disk reading (front' ++ uri))) :
    Parallel (fun x y => ∃ found, Moved front x found ∧ Moved front' y found ∧
        Reached p known uri found ∧ known uri)
      Stop.Alike ((q.below front).lookUp disk reading reference)
      ((q.below front').lookUp disk reading reference) := by
  unfold lookUp
  simp only [htarget, htarget', orStop, mapError_ok, ok_bind]
  refine (Registry.fetch_below hfront hfront' hp hunnamed hq huri hread).bind fun x y hxy => ?_
  obtain ⟨⟨g, r⟩, rfl, rfl, hg, hr, hknown⟩ := hxy
  have hunnamed' := hg.holds.unnamed hunnamed
  refine ((reach_below hfront hunnamed' (hunnamed _ hr) fragment).meet
    (reach_below hfront' hunnamed' (hunnamed _ hr) fragment) fun _ _ _ => Stop.Alike.meet).imp ?_
  rintro x y ⟨found, hfound, hx, hy⟩
  exact ⟨found, hx, hy, yields_reach hp hunnamed hg hr fragment found hfound, hknown⟩

end Resolver

end SchemaDoc.Reference
