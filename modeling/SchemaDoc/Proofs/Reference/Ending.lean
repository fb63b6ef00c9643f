/-
SchemaDoc.Proofs.Reference.Ending — when carrying out a document ends.

The hops that an expansion is given are its only bound: a result other than
too great a depth does not change with more of them (`expand_stable`). What
keeps an expansion from running on is its trail, which never holds a URI twice.
So it ends exactly if the URIs that it comes to are finitely many and it comes
to no value that holds itself (`halts_iff`), however many nodes and files there
are: the trail holds texts, and one node may have any number of them. To end is
to end after any number of calls; the limit that an interpreter sets on these
is not modelled.

§1 sites, §2 more hops, §3 the trail, §4 finitely many targets, §5 documents,
§6 trees, §7 all documents.
-/
import Mathlib.Data.List.Perm.Subperm
import Mathlib.Logic.Relation
import SchemaDoc.Proofs.Reference.Asked
import SchemaDoc.Proofs.Reference.Depth
import SchemaDoc.Proofs.Reference.Found
import SchemaDoc.Proofs.Reference.Growing

namespace SchemaDoc.Reference

open Relation

/-! ## §1 Sites -/

/-- A value that is carried out, the place where it stands and its position. -/
structure Site where
  place : Place
  position : Position
  value : Value

variable {disk : Disk} {earlier : Option String}

/-- What becomes of the value of a site, as long as references lead on at most `hops` times. -/
def Site.expand (disk : Disk) (earlier : Option String) (hops : Nat) (s : Site) :
    Except Failure Value :=
  expandAt disk earlier hops s.place s.position s.value

/-- The references asked for in the value of a site. -/
def Site.asked (disk : Disk) (earlier : Option String) (hops : Nat) (s : Site) :
    List (Position × String) :=
  Reference.asked (followAt disk earlier hops s.place) s.position s.value

/-- The sites that the references asked for at a site lead to. -/
def Site.next (disk : Disk) (earlier : Option String) (hops : Nat) (s : Site) : List Site :=
  (s.asked disk earlier hops).filterMap fun a =>
    match s.place.lead disk earlier a.1 a.2 with
    | .ok (there, contents) => some ⟨there, 0 :: a.1, contents⟩
    | .error _ => none

/-- A site is come to from another one, given enough hops. -/
def Next (disk : Disk) (earlier : Option String) (s t : Site) : Prop :=
  ∃ hops, t ∈ s.next disk earlier hops

theorem mem_next {hops : Nat} {s t : Site} : t ∈ s.next disk earlier hops ↔
    ∃ a ∈ s.asked disk earlier hops, t.position = 0 :: a.1 ∧
      s.place.lead disk earlier a.1 a.2 = .ok (t.place, t.value) := by
  rw [Site.next, List.mem_filterMap]
  refine exists_congr fun a => and_congr_right fun _ => ?_
  cases h : s.place.lead disk earlier a.1 a.2 with
  | error f => simp
  | ok found =>
    constructor
    · rintro ⟨⟩
      exact ⟨rfl, rfl⟩
    · rintro ⟨hp, hf⟩
      cases hf
      rw [← hp]

/-! ## §2 More hops -/

/-- The failure where hops run out. -/
abbrev tooDeep : Failure := .fault .tooDeep

theorem followAt_succ (hops : Nat) (here : Place) (p : Position) (reference : String) :
    followAt disk earlier (hops + 1) here p reference = (do
      let (there, contents) ← here.lead disk earlier p reference
      expandAt disk earlier hops there (0 :: p) contents) := rfl

/-- The walk through a site comes to where a value starts again that holds itself. -/
def Site.StartsAgain (disk : Disk) (earlier : Option String) (hops : Nat) (s : Site) : Prop :=
  Reference.StartsAgain (followAt disk earlier hops s.place) s.position s.value

/-- A site is too deep exactly if a site behind one of its references is, with a hop less, or if a value
starts again in it. -/
theorem expand_eq_tooDeep {hops : Nat} {s : Site} :
    s.expand disk earlier (hops + 1) = .error tooDeep ↔
      (∃ t ∈ s.next disk earlier (hops + 1), t.expand disk earlier hops = .error tooDeep) ∨
        s.StartsAgain disk earlier (hops + 1) := by
  rw [Site.expand, expandAt_eq_inline, inline_eq_error, Fails, and_iff_right rfl]
  refine or_congr_left ⟨?_, ?_⟩
  · rintro ⟨⟨q, r⟩, ha, hf⟩
    rw [followAt_succ] at hf
    rcases bind_eq_error.mp hf with hf | ⟨⟨there, contents⟩, hlead, hf⟩
    · exact absurd hf (never_lead disk earlier s.place q r)
    · exact ⟨⟨there, 0 :: q, contents⟩, mem_next.mpr ⟨(q, r), ha, rfl, hlead⟩, hf⟩
  · rintro ⟨t, ht, hf⟩
    obtain ⟨⟨q, r⟩, ha, hp, hlead⟩ := mem_next.mp ht
    refine ⟨(q, r), ha, ?_⟩
    rw [followAt_succ, hlead, ok_bind]
    rw [Site.expand, hp] at hf
    exact hf

/-- Without hops no reference is followed. -/
theorem asked_of_expand_zero {s : Site} (h : s.expand disk earlier 0 ≠ .error tooDeep) :
    s.asked disk earlier 0 = [] := by
  cases hasked : s.asked disk earlier 0 with
  | nil => rfl
  | cons a rest =>
    refine absurd ?_ h
    rw [Site.expand, expandAt_eq_inline]
    exact inline_of_unanswered
      ⟨a, (by rw [← Site.asked, hasked]; exact List.mem_cons_self ..), rfl⟩

/-- With more hops references are followed as with fewer, wherever these did not run out. -/
theorem extends_followAt {hops more : Nat} (hle : hops ≤ more) (here : Place) :
    Extends tooDeep (followAt disk earlier hops here) (followAt disk earlier more here) := by
  induction hops generalizing more here with
  | zero => exact fun q r h => absurd rfl h
  | succ hops ih =>
    obtain ⟨more, rfl⟩ : ∃ n, more = n + 1 := ⟨more - 1, by omega⟩
    intro q r h
    rw [followAt_succ] at h ⊢
    rw [followAt_succ]
    cases hlead : here.lead disk earlier q r with
    | error f => rfl
    | ok found =>
      obtain ⟨there, contents⟩ := found
      simp only [hlead, ok_bind] at h ⊢
      rw [expandAt_eq_inline] at h ⊢
      rw [expandAt_eq_inline]
      exact ((ih (by omega) there).inline h).1

/-- **More hops do not change a result.** -/
theorem expand_stable {hops more : Nat} {s : Site} (hle : hops ≤ more)
    (h : s.expand disk earlier hops ≠ .error tooDeep) :
    s.expand disk earlier more = s.expand disk earlier hops ∧
      s.asked disk earlier more = s.asked disk earlier hops := by
  unfold Site.expand at h ⊢
  rw [expandAt_eq_inline] at h ⊢
  rw [expandAt_eq_inline]
  exact (extends_followAt hle s.place).inline h

/-- What is come to with fewer hops is come to with more. -/
theorem next_subset {hops more : Nat} (hle : hops ≤ more) (s : Site) :
    s.next disk earlier hops ⊆ s.next disk earlier more := by
  intro t ht
  obtain ⟨a, ha, ht⟩ := mem_next.mp ht
  exact mem_next.mpr
    ⟨a, (extends_followAt hle s.place).asked_subset s.position s.value ha, ht⟩

/-- Where the hops do not run out, all that is come to is come to with them. -/
theorem Next.mem_next {hops : Nat} {s t : Site} (h : Next disk earlier s t)
    (hs : s.expand disk earlier hops ≠ .error tooDeep) : t ∈ s.next disk earlier hops := by
  obtain ⟨n, h⟩ := h
  have hmax := next_subset (Nat.le_max_left n hops) s h
  rwa [Site.next, (expand_stable (Nat.le_max_right n hops) hs).2] at hmax

/-- A value in a site starts again that holds itself, given enough hops. -/
def Site.GoesOn (disk : Disk) (earlier : Option String) (s : Site) : Prop :=
  ∃ hops, s.StartsAgain disk earlier hops

/-- Then no number of hops is enough. -/
theorem Site.GoesOn.expand {s : Site} (h : s.GoesOn disk earlier) (hops : Nat) :
    s.expand disk earlier hops = .error tooDeep := by
  obtain ⟨n, hn⟩ := h
  by_contra hne
  have hmore := (extends_followAt (Nat.le_max_left n hops) s.place).startsAgain _ _ hn
  have hdeep : s.expand disk earlier (max n hops) = .error tooDeep := by
    rw [Site.expand, expandAt_eq_inline, inline_eq_error]
    exact Or.inr ⟨rfl, hmore⟩
  exact hne ((expand_stable (Nat.le_max_right n hops) hne).1 ▸ hdeep)

/-- What is come to from a site that is not too deep is not too deep, with the same hops. -/
theorem Next.expand_ne {hops : Nat} {s t : Site} (h : Next disk earlier s t)
    (hs : s.expand disk earlier hops ≠ .error tooDeep) :
    t.expand disk earlier hops ≠ .error tooDeep := by
  have hstable := (expand_stable (Nat.le_succ hops) hs).1
  intro ht
  refine hs (hstable ▸ expand_eq_tooDeep.mpr (Or.inl ⟨t, h.mem_next ?_, ht⟩))
  rwa [hstable]

/-! ## §3 The trail -/

/-- A reference that leads on was not being carried out, and now is. -/
theorem trail_of_lead {here there : Place} {p : Position} {reference : String} {contents : Value}
    (h : here.lead disk earlier p reference = .ok (there, contents)) :
    ∃ target, target ∉ here.trail ∧ there.trail = target :: here.trail := by
  unfold Place.lead at h
  obtain ⟨target, -, h⟩ := bind_eq_ok.mp h
  split at h
  · cases h
  · rename_i hnew
    obtain ⟨found, -, h⟩ := bind_eq_ok.mp h
    obtain ⟨cut, -, h⟩ := bind_eq_ok.mp h
    cases h
    exact ⟨target, by simpa using hnew, rfl⟩

theorem trail_of_mem_next {hops : Nat} {s t : Site} (h : t ∈ s.next disk earlier hops) :
    ∃ target, target ∉ s.place.trail ∧ t.place.trail = target :: s.place.trail := by
  obtain ⟨a, -, -, hlead⟩ := mem_next.mp h
  exact trail_of_lead hlead

/-! ## §4 Finitely many targets -/

/-- The targets on the trails of all sites that are come to from one are among some texts. -/
def Within (disk : Disk) (earlier : Option String) (s : Site) (targets : List String) : Prop :=
  ∀ t, ReflTransGen (Next disk earlier) s t → t.place.trail ⊆ targets

/-- With one hop more than there are targets left, the hops do not run out, if nothing goes on within
itself. -/
theorem expand_of_within {targets : List String} {hops : Nat} {s : Site}
    (hw : Within disk earlier s targets)
    (hends : ∀ t, ReflTransGen (Next disk earlier) s t → ¬t.GoesOn disk earlier)
    (hnew : s.place.trail.Nodup) (henough : targets.length < hops + s.place.trail.length) :
    s.expand disk earlier hops ≠ .error tooDeep := by
  induction hops generalizing s with
  | zero =>
    have := (List.subperm_of_subset hnew (hw s .refl)).length_le
    omega
  | succ hops ih =>
    intro h
    obtain ⟨t, hlead, ht⟩ := (expand_eq_tooDeep.mp h).resolve_right
      fun hagain => hends s .refl ⟨hops + 1, hagain⟩
    obtain ⟨target, hfresh, htrail⟩ := trail_of_mem_next hlead
    refine ih (s := t) (fun u hu => hw u (.head ⟨hops + 1, hlead⟩ hu))
      (fun u hu => hends u (.head ⟨hops + 1, hlead⟩ hu)) ?_ ?_ ht
    · rw [htrail]
      exact List.nodup_cons.mpr ⟨hfresh, hnew⟩
    · rw [htrail, List.length_cons]
      omega

theorem Within.mono {s : Site} {targets more : List String} (h : Within disk earlier s targets)
    (hsub : targets ⊆ more) : Within disk earlier s more := fun t ht =>
  List.Subset.trans (h t ht) hsub

theorem exists_within_all : ∀ {sites : List Site},
    (∀ t ∈ sites, ∃ targets, Within disk earlier t targets) →
    ∃ targets, ∀ t ∈ sites, Within disk earlier t targets
  | [], _ => ⟨[], by simp⟩
  | s :: rest, h => by
    obtain ⟨⟨first, hfirst⟩, hrest⟩ := List.forall_mem_cons.mp h
    obtain ⟨others, hothers⟩ := exists_within_all hrest
    refine ⟨first ++ others, List.forall_mem_cons.mpr ⟨?_, fun t ht => ?_⟩⟩
    · exact hfirst.mono (List.subset_append_left ..)
    · exact (hothers t ht).mono (List.subset_append_right ..)

/-- What is come to from a site is come to from the sites next to it. -/
theorem exists_within {hops : Nat} {s : Site} (h : s.expand disk earlier hops ≠ .error tooDeep)
    (hnext : ∀ t ∈ s.next disk earlier hops, ∃ targets, Within disk earlier t targets) :
    ∃ targets, Within disk earlier s targets := by
  obtain ⟨targets, htargets⟩ := exists_within_all hnext
  refine ⟨s.place.trail ++ targets, fun t ht => ?_⟩
  rcases ReflTransGen.cases_head ht with rfl | ⟨u, hu, hut⟩
  · exact List.subset_append_left ..
  · exact List.Subset.trans (htargets u (hu.mem_next h) t hut) (List.subset_append_right ..)

/-- Where the hops do not run out, only finitely many targets are come to. -/
theorem within_of_expand {hops : Nat} {s : Site}
    (h : s.expand disk earlier hops ≠ .error tooDeep) :
    ∃ targets, Within disk earlier s targets := by
  induction hops generalizing s with
  | zero =>
    refine exists_within h fun t ht => ?_
    obtain ⟨a, ha, -⟩ := mem_next.mp ht
    rw [asked_of_expand_zero h] at ha
    cases ha
  | succ hops ih =>
    exact exists_within h fun t ht => ih fun hf =>
      h (expand_eq_tooDeep.mpr (Or.inl ⟨t, ht, hf⟩))

/-! ## §5 Documents -/

/-- The root of a document, if it has a URI. -/
def rootSite (disk : Disk) (document : Value) (base : Path) (name : String) :
    Except Failure Site := do
  let uri ← orFail (rootUri disk base name)
  let place ← orFail (rootPlace uri document)
  return ⟨place, rootPosition, document⟩

/-- Carrying out a document ends: given enough hops, with a result that more hops do not change. -/
def Halts (disk : Disk) (earlier : Option String) (document : Value) (base : Path)
    (name : String) : Prop :=
  ∃ enough result, result ≠ .error tooDeep ∧ ∀ hops, enough ≤ hops →
    dereferenceWithin hops earlier disk document base name = result

/-- A target that carrying out a document comes to. -/
def IsTarget (disk : Disk) (earlier : Option String) (document : Value) (base : Path)
    (name target : String) : Prop :=
  ∃ s t, rootSite disk document base name = .ok s ∧ ReflTransGen (Next disk earlier) s t ∧
    target ∈ t.place.trail

variable {document : Value} {base : Path} {name : String}

theorem dereferenceWithin_eq (hops : Nat) :
    dereferenceWithin hops earlier disk document base name
      = rootSite disk document base name >>= Site.expand disk earlier hops := by
  rw [dereferenceWithin, rootSite]
  cases orFail (rootUri disk base name) with
  | error f => rfl
  | ok uri =>
    simp only [ok_bind]
    cases orFail (rootPlace uri document) <;> rfl

theorem trail_of_rootSite {s : Site} (h : rootSite disk document base name = .ok s) :
    s.place.trail = [] := by
  obtain ⟨uri, -, h⟩ := bind_eq_ok.mp h
  obtain ⟨place, hplace, h⟩ := bind_eq_ok.mp h
  cases h
  obtain ⟨resource, -, hr⟩ := bind_eq_ok.mp (orFail_eq_ok.mp hplace)
  cases hr
  rfl

theorem never_rootSite (disk : Disk) (document : Value) (base : Path) (name : String) :
    Never tooDeep (rootSite disk document base name) :=
  (never_orFail (shallow_rootUri disk base name)).bind fun uri =>
    (never_orFail (shallow_rootPlace uri document)).bind fun _ => never_ok _ _

/-- A document for which the hops do not run out once ends. -/
theorem halts_of_ne {hops : Nat}
    (h : dereferenceWithin hops earlier disk document base name ≠ .error tooDeep) :
    Halts disk earlier document base name := by
  refine ⟨hops, _, h, fun more hle => ?_⟩
  rw [dereferenceWithin_eq] at h ⊢
  rw [dereferenceWithin_eq]
  cases hs : rootSite disk document base name with
  | error f => rfl
  | ok s =>
    rw [hs] at h
    exact (expand_stable hle h).1

/-- Carrying out a document comes to no other targets than some texts. -/
def TargetsIn (disk : Disk) (earlier : Option String) (document : Value) (base : Path)
    (name : String) (targets : List String) : Prop :=
  ∀ t, IsTarget disk earlier document base name t → t ∈ targets

/-- The sites that carrying out a document comes to, its root first. -/
def Comes (disk : Disk) (earlier : Option String) (document : Value) (base : Path) (name : String)
    (t : Site) : Prop :=
  ∃ s, rootSite disk document base name = .ok s ∧ ReflTransGen (Next disk earlier) s t

/-- Carrying out a document comes to a sequence or mapping that holds itself, again and again. -/
def GoesOn (disk : Disk) (earlier : Option String) (document : Value) (base : Path)
    (name : String) : Prop :=
  ∃ t, Comes disk earlier document base name t ∧ t.GoesOn disk earlier

/-- One hop more than there are targets is enough, if nothing goes on within itself. -/
theorem TargetsIn.enough {targets : List String}
    (h : TargetsIn disk earlier document base name targets)
    (hends : ¬GoesOn disk earlier document base name) {hops : Nat}
    (hlt : targets.length < hops) :
    dereferenceWithin hops earlier disk document base name ≠ .error tooDeep := by
  rw [dereferenceWithin_eq]
  cases hs : rootSite disk document base name with
  | error f =>
    have hf := never_rootSite disk document base name
    rw [hs] at hf
    exact never_error.mpr (never_error.mp hf)
  | ok s =>
    have htrail := trail_of_rootSite hs
    refine expand_of_within (s := s) (fun t ht x hx => h x ⟨s, t, hs, ht, hx⟩)
      (fun t ht hgoes => hends ⟨t, ⟨s, hs, ht⟩, hgoes⟩) ?_ ?_
    · rw [htrail]
      exact List.nodup_nil
    · rw [htrail]
      exact hlt

/-- A document that ends comes to finitely many targets. -/
theorem Halts.exists_targets (h : Halts disk earlier document base name) :
    ∃ targets, TargetsIn disk earlier document base name targets := by
  obtain ⟨enough, result, hne, hresult⟩ := h
  have h := hresult enough (Nat.le_refl _)
  rw [dereferenceWithin_eq] at h
  cases hs : rootSite disk document base name with
  | error f =>
    refine ⟨[], fun t ht => ?_⟩
    obtain ⟨s, -, hs', -⟩ := ht
    rw [hs] at hs'
    cases hs'
  | ok s =>
    rw [hs, ok_bind] at h
    obtain ⟨targets, hw⟩ := within_of_expand (h ▸ hne)
    refine ⟨targets, fun x hx => ?_⟩
    obtain ⟨s', t, hs', ht, hx⟩ := hx
    rw [hs] at hs'
    cases hs'
    exact hw t ht hx

/-- A document that ends comes to nothing that goes on within itself. -/
theorem Halts.not_goesOn (h : Halts disk earlier document base name) :
    ¬GoesOn disk earlier document base name := by
  rintro ⟨t, ⟨s, hs, ht⟩, hgoes⟩
  obtain ⟨enough, result, hne, hresult⟩ := h
  have hroot : s.expand disk earlier enough ≠ .error tooDeep := by
    have h := hresult enough (Nat.le_refl _)
    rw [dereferenceWithin_eq, hs, ok_bind] at h
    exact h ▸ hne
  have hall : ∀ u, ReflTransGen (Next disk earlier) s u →
      u.expand disk earlier enough ≠ .error tooDeep := by
    intro u hu
    induction hu with
    | refl => exact hroot
    | tail _ hnext ih => exact hnext.expand_ne ih
  exact hall t ht (hgoes.expand enough)

/-! ## §6 Trees -/

section Trees

variable {p : Value → Bool}

/-- A condition holds of every part of a site and of what is known there. -/
structure Site.Holds (p : Value → Bool) (s : Site) : Prop where
  value : Such p s.value
  registry : s.place.resolver.registry.Holds p

/-- A reference leads to such a site again. -/
theorem Site.Holds.next (hp : OfStructure p) (hdisk : FilesHold p disk) {s t : Site}
    (hs : s.Holds p) (h : Next disk earlier s t) : t.Holds p := by
  obtain ⟨hops, h⟩ := h
  obtain ⟨⟨q, reference⟩, -, -, hlead⟩ := mem_next.mp h
  unfold Place.lead at hlead
  obtain ⟨target, -, hlead⟩ := bind_eq_ok.mp hlead
  split at hlead
  · cases hlead
  obtain ⟨⟨contents, resolver⟩, hfound, hlead⟩ := bind_eq_ok.mp hlead
  obtain ⟨⟨uri, fragment⟩, -, hlead⟩ := bind_eq_ok.mp hlead
  obtain ⟨hcontents, hregistry⟩ := lookUp_found hp hdisk hs.registry _ (mapError_eq_ok.mp hfound)
  obtain ⟨place, position, value⟩ := t
  cases hlead
  exact ⟨hcontents, hregistry⟩

/-- All that is come to from a document of which every part meets a condition is such, if the files
are. -/
theorem Comes.holds (hp : OfStructure p) (hdisk : FilesHold p disk) (hdocument : Such p document)
    {t : Site} (h : Comes disk earlier document base name t) : t.Holds p := by
  obtain ⟨s, hs, ht⟩ := h
  have hroot : s.Holds p := by
    obtain ⟨uri, -, hs⟩ := bind_eq_ok.mp hs
    obtain ⟨place, hplace, hs⟩ := bind_eq_ok.mp hs
    obtain ⟨resource, hresource, hplace⟩ := bind_eq_ok.mp (orFail_eq_ok.mp hplace)
    cases hs
    cases hplace
    exact ⟨hdocument, (Registry.holds_empty _).add uri (yields_ofValue hdocument resource hresource)⟩
  induction ht with
  | refl => exact hroot
  | tail _ hnext ih => exact ih.next hp hdisk hnext

/-- Where no part holds itself, nothing goes on. -/
theorem not_goesOn_of_unwinding (hp : OfStructure p) (hunwinding : Unwinding p)
    (hdisk : FilesHold p disk) (hdocument : Such p document) :
    ¬GoesOn disk earlier document base name := by
  rintro ⟨t, ht, hops, hagain⟩
  exact not_startsAgain _ (hunwinding.isUnwound (ht.holds hp hdisk hdocument).value) hagain

/-- A part of a tree: it does not hold itself. -/
def isTreePart : Value → Bool
  | .looped _ _ => false
  | _ => true

/-- A tree, on a disk of trees, comes to no value that holds itself. -/
theorem not_goesOn_of_trees (hdisk : FilesHold isTreePart disk)
    (hdocument : Such isTreePart document) : ¬GoesOn disk earlier document base name :=
  not_goesOn_of_unwinding (fun _ => rfl) (fun _ _ => rfl) hdisk hdocument

end Trees

/-! ## §7 All documents -/

/-- **Carrying out a document ends exactly if it comes to finitely many targets**, and to no sequence
or mapping that holds itself; one hop more than there are targets is enough then. Where document and
files are trees, nothing holds itself. -/
theorem halts_iff (disk : Disk) (earlier : Option String) (document : Value) (base : Path)
    (name : String) :
    (Halts disk earlier document base name ↔
      (∃ targets : List String, ∀ t, IsTarget disk earlier document base name t → t ∈ targets) ∧
        ¬GoesOn disk earlier document base name) ∧
    (∀ targets : List String, (∀ t, IsTarget disk earlier document base name t → t ∈ targets) →
      ¬GoesOn disk earlier document base name → ∀ hops, targets.length < hops →
        dereferenceWithin hops earlier disk document base name ≠ .error tooDeep) ∧
    (FilesHold isTreePart disk → Such isTreePart document →
      ¬GoesOn disk earlier document base name) := by
  refine ⟨⟨fun h => ⟨h.exists_targets, h.not_goesOn⟩, ?_⟩,
    fun targets h hends hops hlt => TargetsIn.enough h hends hlt, not_goesOn_of_trees⟩
  rintro ⟨⟨targets, h⟩, hends⟩
  exact halts_of_ne (TargetsIn.enough h hends (Nat.lt_succ_self _))

/-- There is a document for which it never ends, on an empty disk: its only reference but one names
the part that it stands in. -/
theorem not_halts_growing : ¬Halts ⟨{}, .absolute []⟩ none growing (.absolute ["s"]) "r.json" := by
  rintro ⟨enough, result, hne, hresult⟩
  refine hne ?_
  rw [← hresult enough (Nat.le_refl _)]
  exact dereferenceWithin_growing _ _ enough

end SchemaDoc.Reference
