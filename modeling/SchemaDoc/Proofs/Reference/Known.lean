/-
SchemaDoc.Proofs.Reference.Known — what is known about documents without names.

A registry of such documents knows each of them by the URI that it was read
from, and no two of them by one URI. A document that is read for a reference is
looked into before the next one is read, so at most one of them waits for that
(`Sound`). What a look-up finds is then what stands in the document of the URI
(`lookUp_spec`), and a look-up finds it whatever else is known, as long as the
documents that wait can be looked into (`exists_lookUp`).

§1 one document, §2 sound registries, §3 asking, §4 look-ups.
-/
import SchemaDoc.Proofs.Reference.Nameless

namespace SchemaDoc.Reference

variable {disk : Disk} {reading : Mark} {g : Registry} {uri name : String} {r : Resource}

/-! ## §1 One document -/

/-- A resource looked into on its own. -/
def openedAlone (uri : String) (r : Resource) : Except Fault Registry :=
  (({} : Registry).add uri r).opened

/-- What stands at a fragment of a document, if anything does. -/
def Resource.part? (uri : String) (r : Resource) (fragment : String) : Option Value :=
  if fragment.toList.head? = some '/' then
    ((Resolver.mk {} uri []).pointer r fragment).toOption.map (·.1)
  else if fragment = "" then some r.contents
  else (openedAlone uri r).toOption.bind fun found =>
    (found.anchor? uri fragment).map (·.resource.contents)

/-- A pointer leads to what stands there, and leaves the resolver as it was. -/
theorem pointer_eq_ok {q : Resolver} {fragment : String} {x : Value × Resolver}
    (hr : Nameless r.contents) (hslash : fragment.toList.head? = some '/') :
    q.pointer r fragment = .ok x ↔ x.2 = q ∧ r.part? uri fragment = some x.1 := by
  rw [Resource.part?, if_pos hslash]
  rcases rigid_pointer (unnamed_of_nameless hr) fragment with ⟨w, hw⟩ | ⟨e, he⟩
  · have hw (q : Resolver) : q.pointer r fragment = .ok (w, q) := hw q
    simp [hw, Except.toOption, Prod.ext_iff, and_comm, eq_comm]
  · have he (q : Resolver) : q.pointer r fragment = .error e := he q
    simp [he, Except.toOption]

namespace Registry

theorem find?_add (hu : withoutFragmentMark uri = uri) (seen : String) :
    (g.add uri r).find? seen = if seen = uri then some r else g.find? seen := by
  simp only [find?, add, hu, List.lookup_cons]
  split
  · rename_i h
    simp [beq_iff_eq.mp h]
  · rename_i h
    simp [beq_eq_false_iff_ne.mp h]

theorem anchor?_under (found : Registry) :
    (g.under found).anchor? uri name = (found.anchor? uri name).or (g.anchor? uri name) := by
  simp [anchor?, under, List.find?_append, Option.map_or]

theorem AnchorsOf.anchor?_eq_none {found : Registry} (h : AnchorsOf uri found) {seen : String}
    (hne : seen ≠ uri) : found.anchor? seen name = none := by
  rw [anchor?, Option.map_eq_none_iff, List.find?_eq_none]
  intro e he hm
  simp only [Bool.and_eq_true, beq_iff_eq] at hm
  exact hne (hm.1.symm.trans (h e he).1)

theorem AnchorsOf.not_dynamic {found : Registry} (h : AnchorsOf uri found) {a : Anchor}
    (ha : found.anchor? uri name = some a) : a.dynamic = false := by
  obtain ⟨e, he, rfl⟩ := Option.map_eq_some_iff.mp ha
  exact (h e (List.mem_of_find?_eq_some he)).2

/-- Looking into the one document that waits is looking into it on its own. -/
theorem opened_eq (hw : g.unopened = [uri]) (hr : g.find? uri = some r)
    (hn : Nameless r.contents) (hu : withoutFragmentMark uri = uri) :
    g.opened = (openedAlone uri r).map ({ g with unopened := [] } : Registry).under := by
  have hone : (({} : Registry).add uri r).find? uri = some r := by rw [find?_add hu, if_pos rfl]
  have hadd : (({} : Registry).add uri r).unopened = [uri] := by simp [add, hu]
  simp only [openedAlone, opened, hw, hr, hone, hadd, List.filterMap_cons, List.filterMap_nil,
    Option.map_some, List.foldl_cons, List.foldl_nil]
  have hstack : ∀ e ∈ [(uri, r)], Unnamed e.2.contents := by
    simpa using unnamed_of_nameless hn
  have hframe (h : Registry) : openAll (1 + r.contents.size) h [(uri, r)]
      = (openAll (1 + r.contents.size) {} [(uri, r)]).map h.under := openAll_frame hstack
  rw [hframe { g with unopened := [] }, hframe { ({} : Registry).add uri r with unopened := [] }]
  cases openAll (1 + r.contents.size) {} [(uri, r)] with
  | error f => rfl
  | ok found => simp [Except.map, under, add]

theorem opened_of_nil (hw : g.unopened = []) : g.opened = .ok g := by
  obtain ⟨resources, anchors, unopened⟩ := g
  obtain rfl : unopened = [] := hw
  rfl

theorem yields_openedAlone (hn : Nameless r.contents) (hu : withoutFragmentMark uri = uri) :
    Yields (AnchorsOf uri) (openedAlone uri r) := by
  have hone : (({} : Registry).add uri r).find? uri = some r := by rw [find?_add hu, if_pos rfl]
  have hadd : (({} : Registry).add uri r).unopened = [uri] := by simp [add, hu]
  simp only [openedAlone, opened, hone, hadd, List.filterMap_cons, List.filterMap_nil,
    Option.map_some]
  refine yields_openAll_anchors (fun e he => nomatch he) ?_
  simpa using hn

/-! ## §2 Sound registries -/

/-- Documents without names are known by their URIs, each with the anchors that looking into it on its
own finds. At most one of them has not been looked into. -/
structure Sound (g : Registry) : Prop where
  nameless : ∀ {uri r}, g.find? uri = some r → Nameless r.contents
  waiting : ∀ {uri}, uri ∈ g.unopened → g.unopened = [uri] ∧ (g.find? uri).isSome ∧
    withoutFragmentMark uri = uri
  silent : ∀ {uri}, g.find? uri = none ∨ uri ∈ g.unopened → ∀ name, g.anchor? uri name = none
  looked : ∀ {uri r}, g.find? uri = some r → uri ∉ g.unopened →
    ∃ found, openedAlone uri r = .ok found ∧ ∀ name, g.anchor? uri name = found.anchor? uri name

/-- What is known after looking into everything: the same documents, and none that waits. -/
structure LooksInto (g g' : Registry) : Prop where
  sound : g'.Sound
  same : ∀ uri, g'.find? uri = g.find? uri
  done : g'.unopened = []

theorem Sound.yields_opened (hg : g.Sound) : Yields (LooksInto g) g.opened := by
  cases hw : g.unopened with
  | nil =>
    rw [opened_of_nil hw]
    exact yields_ok ⟨hg, fun _ => rfl, hw⟩
  | cons uri rest =>
    obtain ⟨hone, hsome, hu⟩ := hg.waiting (hw ▸ List.mem_cons_self ..)
    obtain ⟨r, hr⟩ := Option.isSome_iff_exists.mp hsome
    have hn := hg.nameless hr
    rw [opened_eq hone hr hn hu]
    intro g' hg'
    obtain ⟨found, hfound, rfl⟩ := map_eq_ok.mp hg'
    have hown := yields_openedAlone hn hu found hfound
    refine ⟨⟨hg.nameless, fun h => (nomatch h), fun {seen} h name => ?_, fun {seen q} hq _ => ?_⟩,
      fun _ => rfl, rfl⟩
    · have hnone : g.find? seen = none := h.resolve_right fun h => nomatch h
      have hne : seen ≠ uri := by
        rintro rfl
        rw [hr] at hnone
        cases hnone
      rw [anchor?_under, hown.anchor?_eq_none hne, Option.none_or]
      exact hg.silent (Or.inl hnone) name
    · by_cases hs : seen = uri
      · subst hs
        obtain rfl : r = q := Option.some.inj (hr.symm.trans hq)
        refine ⟨found, hfound, fun name => ?_⟩
        have hsilent : ({ g with unopened := [] } : Registry).anchor? seen name = none :=
          hg.silent (Or.inr (hone ▸ List.mem_singleton_self seen)) name
        rw [anchor?_under, hsilent, Option.or_none]
      · have hopen : seen ∉ g.unopened := by
          rw [hone]
          simpa using hs
        obtain ⟨other, hother, hsame⟩ := hg.looked hq hopen
        refine ⟨other, hother, fun name => ?_⟩
        rw [anchor?_under, hown.anchor?_eq_none hs, Option.none_or]
        exact hsame name

/-- The document of a URI, if one is known, can be looked into. -/
def Opens (g : Registry) (uri : String) : Prop :=
  ∀ r, g.find? uri = some r → ∃ found, openedAlone uri r = .ok found

/-- Every document that waits can be looked into, the one of a URI perhaps left out. -/
def OpensBut (g : Registry) (uri : String) : Prop :=
  ∀ seen ∈ g.unopened, seen ≠ uri → g.Opens seen

theorem Sound.exists_opened (hg : g.Sound) (h : ∀ seen ∈ g.unopened, g.Opens seen) :
    ∃ g', g.opened = .ok g' := by
  cases hw : g.unopened with
  | nil => exact ⟨g, opened_of_nil hw⟩
  | cons uri rest =>
    have hmem : uri ∈ g.unopened := hw ▸ List.mem_cons_self ..
    obtain ⟨hone, hsome, hu⟩ := hg.waiting hmem
    obtain ⟨r, hr⟩ := Option.isSome_iff_exists.mp hsome
    obtain ⟨found, hfound⟩ := h uri hmem r hr
    rw [opened_eq hone hr (hg.nameless hr) hu, hfound]
    exact ⟨_, rfl⟩

theorem Sound.add (hg : g.Sound) (hw : g.unopened = []) (hu : withoutFragmentMark uri = uri)
    (hnew : g.find? uri = none) (hn : Nameless r.contents) : (g.add uri r).Sound := by
  have hunopened : (g.add uri r).unopened = [uri] := by simp [Registry.add, hu, hw]
  refine ⟨fun {seen q} hq => ?_, fun {seen} hs => ?_, fun {seen} h name => ?_,
    fun {seen q} hq hs => ?_⟩
  · rw [find?_add hu] at hq
    split at hq
    · cases hq
      exact hn
    · exact hg.nameless hq
  · rw [hunopened, List.mem_singleton] at hs
    subst hs
    rw [find?_add hu, if_pos rfl]
    exact ⟨hunopened, rfl, hu⟩
  · refine hg.silent (Or.inl ?_) name
    rcases h with h | h
    · rw [find?_add hu] at h
      split at h
      · cases h
      · exact h
    · rw [hunopened, List.mem_singleton] at h
      rw [h]
      exact hnew
  · rw [hunopened, List.mem_singleton] at hs
    rw [find?_add hu, if_neg hs] at hq
    exact hg.looked hq (hw ▸ List.not_mem_nil)

/-- A registry of one document is sound. -/
theorem sound_alone (hu : withoutFragmentMark uri = uri) (hn : Nameless r.contents) :
    (({} : Registry).add uri r).Sound :=
  Sound.add ⟨fun h => (nomatch h), fun h => (nomatch h), fun _ _ => rfl, fun h => (nomatch h)⟩ rfl hu
    rfl hn

/-! ## §3 Asking -/

/-- What is known after asking for a URI: no more than what was known, and the document of the URI. -/
structure Learns (disk : Disk) (reading : Mark) (uri : String) (g g' : Registry) : Prop where
  sound : g'.Sound
  source : ∀ {seen r}, g'.find? seen = some r → g.find? seen = some r ∨
    seen = uri ∧ g.find? uri = none ∧ retrieve disk reading uri = .ok r
  waits : ∀ {seen}, seen ∈ g'.unopened → seen = uri ∨ seen ∈ g.unopened

theorem Learns.trans_looksInto {g' g'' : Registry} (h : Learns disk reading uri g g')
    (hl : LooksInto g' g'') : Learns disk reading uri g g'' := by
  refine ⟨hl.sound, fun hr => ?_, fun hs => ?_⟩
  · rw [hl.same] at hr
    exact h.source hr
  · rw [hl.done] at hs
    cases hs

/-- What waits besides the document of the URI waited before. -/
theorem Learns.opensBut {g' : Registry} (h : Learns disk reading uri g g') (hg : g.OpensBut uri) :
    g'.OpensBut uri := fun seen hs hne r hr =>
  hg seen ((h.waits hs).resolve_left hne) hne r ((h.source hr).resolve_right fun h => hne h.1)

theorem Sound.learns (hg : g.Sound) : Learns disk reading uri g g :=
  ⟨hg, Or.inl, Or.inr⟩

/-- What is read from the URI is a document without names. -/
def ReadsNameless (disk : Disk) (reading : Mark) (uri : String) : Prop :=
  ∀ r, retrieve disk reading uri = .ok r → Nameless r.contents

theorem Sound.yields_fetch (hg : g.Sound) (hu : withoutFragmentMark uri = uri)
    (hread : ReadsNameless disk reading uri) :
    Yields (fun x => Learns disk reading uri g x.1 ∧ x.1.find? uri = some x.2)
      (g.fetch disk reading uri) := by
  unfold fetch
  split
  · rename_i r hr
    exact yields_ok ⟨hg.learns, hr⟩
  · rename_i hnew
    refine (hg.yields_opened.mapError _).bind fun g' hg' => ?_
    rw [hg'.same, hnew]
    intro x hx
    obtain ⟨r, hr, hx⟩ := bind_eq_ok.mp hx
    cases hx
    have hnew' : g'.find? uri = none := (hg'.same uri).trans hnew
    refine ⟨⟨hg'.sound.add hg'.done hu hnew' (hread r hr), fun {seen q} hq => ?_,
      fun {seen} hs => ?_⟩, ?_⟩
    · rw [find?_add hu] at hq
      split at hq
      · rename_i hs
        cases hq
        exact Or.inr ⟨hs, hnew, hr⟩
      · rw [hg'.same] at hq
        exact Or.inl hq
    · simp only [Registry.add, hu, hg'.done, List.mem_singleton] at hs
      exact Or.inl hs
    · rw [find?_add hu, if_pos rfl]

/-- An anchor that is found is one that looking into the document on its own finds. -/
theorem Sound.yields_anchor (hg : g.Sound) (hr : g.find? uri = some r)
    (hu : withoutFragmentMark uri = uri) :
    Yields (fun x => (x.1 = g ∨ LooksInto g x.1) ∧
      ∃ found, openedAlone uri r = .ok found ∧ found.anchor? uri name = some x.2)
      (g.anchor uri name) := by
  unfold anchor
  split
  · rename_i a ha
    refine yields_ok ⟨Or.inl rfl, ?_⟩
    have hopen : uri ∉ g.unopened := fun hm => by
      rw [hg.silent (Or.inr hm)] at ha
      cases ha
    obtain ⟨found, hfound, hsame⟩ := hg.looked hr hopen
    exact ⟨found, hfound, (hsame name).symm.trans ha⟩
  · refine (hg.yields_opened.mapError _).bind fun g' hg' => ?_
    split
    · rename_i a ha
      refine yields_ok ⟨Or.inr hg', ?_⟩
      obtain ⟨found, hfound, hsame⟩ := hg'.sound.looked ((hg'.same uri).trans hr)
        (hg'.done ▸ List.not_mem_nil)
      exact ⟨found, hfound, (hsame name).symm.trans ha⟩
    · simp only [hu, hr]
      rcases name?_of_unnamed (unnamed_of_nameless (hg.nameless hr)) with hn | ⟨f, hn⟩
      · rw [hn]
        exact yields_error _
      · rw [hn]
        exact yields_error _

/-- A document is found where it is known, or else where it is read and what waits can be looked
into. -/
theorem Sound.exists_fetch (hg : g.Sound) (hopens : g.OpensBut uri)
    (hr : g.find? uri = some r ∨ g.find? uri = none ∧ retrieve disk reading uri = .ok r) :
    ∃ g', g.fetch disk reading uri = .ok (g', r) := by
  rcases hr with hr | ⟨hnew, hr⟩
  · exact ⟨g, by rw [fetch, hr]⟩
  · obtain ⟨g', hg'⟩ := hg.exists_opened fun seen hs => hopens seen hs fun he => by
      have hsome := (hg.waiting hs).2.1
      rw [he, hnew] at hsome
      cases hsome
    have hnew' : g'.find? uri = none := ((hg.yields_opened g' hg').same uri).trans hnew
    refine ⟨g'.add uri r, ?_⟩
    simp only [fetch, hnew, hg', orStop, mapError_ok, ok_bind, hnew', hr]
    rfl

theorem Sound.exists_anchor (hg : g.Sound) (hr : g.find? uri = some r)
    (hopens : g.OpensBut uri) {found : Registry} {a : Anchor}
    (hfound : openedAlone uri r = .ok found) (ha : found.anchor? uri name = some a) :
    ∃ g', g.anchor uri name = .ok (g', a) := by
  have hown {g' : Registry} (hg' : g'.Sound) (hr' : g'.find? uri = some r)
      (hopen : uri ∉ g'.unopened) : g'.anchor? uri name = some a := by
    obtain ⟨other, hother, hsame⟩ := hg'.looked hr' hopen
    obtain rfl : found = other := Except.ok.inj (hfound.symm.trans hother)
    exact (hsame name).trans ha
  unfold anchor
  split
  · rename_i b hb
    have hopen : uri ∉ g.unopened := fun hm => by
      rw [hg.silent (Or.inr hm)] at hb
      cases hb
    obtain rfl : b = a := Option.some.inj (hb.symm.trans (hown hg hr hopen))
    exact ⟨g, rfl⟩
  · obtain ⟨g', hg'⟩ := hg.exists_opened fun seen hs q hq => by
      by_cases he : seen = uri
      · subst he
        obtain rfl : r = q := Option.some.inj (hr.symm.trans hq)
        exact ⟨found, hfound⟩
      · exact hopens seen hs he q hq
    have hl := hg.yields_opened g' hg'
    refine ⟨g', ?_⟩
    simp only [hg', orStop, mapError_ok, ok_bind,
      hown hl.sound ((hl.same uri).trans hr) (hl.done ▸ List.not_mem_nil)]
    rfl

end Registry

/-! ## §4 Look-ups -/

open Registry

variable {q : Resolver} {reference fragment : String}

/-- **A look-up finds what stands in the document of the URI**, and learns no other document. -/
theorem lookUp_spec (hq : q.registry.Sound) (ht : q.target reference = .ok (uri, fragment))
    (hu : withoutFragmentMark uri = uri) (hread : ReadsNameless disk reading uri) :
    Yields (fun x => Learns disk reading uri q.registry x.2.registry ∧ x.2.base = uri ∧
      ∃ r, x.2.registry.find? uri = some r ∧ r.part? uri fragment = some x.1)
      (q.lookUp disk reading reference) := by
  rw [Resolver.lookUp, ht]
  simp only [orStop, mapError_ok, ok_bind]
  refine (hq.yields_fetch hu hread).bind fun x hx => ?_
  obtain ⟨g, r⟩ := x
  obtain ⟨hlearns, hr⟩ := hx
  dsimp only at hlearns hr ⊢
  have hn := hlearns.sound.nameless hr
  split
  · rename_i hslash
    intro x hx
    obtain ⟨hsame, hpart⟩ := (pointer_eq_ok hn hslash).mp hx
    rw [hsame]
    exact ⟨hlearns, rfl, r, hr, hpart⟩
  · rename_i hslash
    split
    · rename_i hempty
      refine yields_ok ⟨hlearns, rfl, r, hr, ?_⟩
      rw [Resource.part?, if_neg hslash, if_pos hempty]
    · rename_i hempty
      refine (hlearns.sound.yields_anchor hr hu).bind fun x hx => ?_
      obtain ⟨g', a⟩ := x
      obtain ⟨hg', found, hfound, ha⟩ := hx
      dsimp only at hg' ha ⊢
      rw [Resolver.anchored, (yields_openedAlone hn hu found hfound).not_dynamic ha]
      have hpart : r.part? uri fragment = some a.resource.contents := by
        rw [Resource.part?, if_neg hslash, if_neg hempty, hfound]
        simp [ha, Except.toOption]
      rcases hg' with rfl | hg'
      · exact yields_ok ⟨hlearns, rfl, r, hr, hpart⟩
      · exact yields_ok ⟨hlearns.trans_looksInto hg', rfl, r, (hg'.same uri).trans hr, hpart⟩

/-- **Whatever else is known, a look-up finds it**, if what waits can be looked into. -/
theorem exists_lookUp (hq : q.registry.Sound) (ht : q.target reference = .ok (uri, fragment))
    (hu : withoutFragmentMark uri = uri) (hread : ReadsNameless disk reading uri)
    (hopens : q.registry.OpensBut uri)
    (hr : q.registry.find? uri = some r ∨
      q.registry.find? uri = none ∧ retrieve disk reading uri = .ok r) {v : Value}
    (hv : r.part? uri fragment = some v) :
    ∃ q', q.lookUp disk reading reference = .ok (v, q') := by
  obtain ⟨g, hg⟩ := hq.exists_fetch hopens hr
  obtain ⟨hlearns, hknown⟩ := hq.yields_fetch hu hread _ hg
  dsimp only at hlearns hknown
  have hn := hlearns.sound.nameless hknown
  rw [Resolver.lookUp, ht]
  simp only [orStop, mapError_ok, ok_bind, hg]
  split
  · rename_i hslash
    exact ⟨_, (pointer_eq_ok hn hslash).mpr ⟨rfl, hv⟩⟩
  · rename_i hslash
    rw [Resource.part?, if_neg hslash] at hv
    split
    · rename_i hempty
      rw [if_pos hempty] at hv
      obtain rfl := Option.some.inj hv
      exact ⟨_, rfl⟩
    · rename_i hempty
      rw [if_neg hempty] at hv
      obtain ⟨found, hfound, hv⟩ := Option.bind_eq_some_iff.mp hv
      obtain ⟨a, ha, rfl⟩ := Option.map_eq_some_iff.mp hv
      have hfound := toOption_eq_some.mp hfound
      obtain ⟨g', hg'⟩ := hlearns.sound.exists_anchor hknown (hlearns.opensBut hopens) hfound ha
      have hfixed := (yields_openedAlone hn hu found hfound).not_dynamic ha
      simp only [hg', ok_bind, Resolver.anchored, hfixed]
      exact ⟨_, rfl⟩

end SchemaDoc.Reference
