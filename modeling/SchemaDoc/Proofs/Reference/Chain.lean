/-
SchemaDoc.Proofs.Reference.Chain — the nearest entry along a chain of references.

A reference may lead to a mapping that is a reference itself, and so on, until
one is none. What the first one is carried out to has under each key what the
nearest mapping of the chain has there, carried out where that mapping stands,
and its keys are those of the first mapping, then the new ones of the second,
and so on (`Chain.expand`). This holds for all documents.

Where documents give themselves no names, a mapping of the chain stands in the
document that its own references are seen from (`expand_nearest`). A dynamic
anchor breaks this: what it names may stand in a document passed before, and
references in it are still seen from the document that was asked.

§1 fields, §2 chains, §3 the trail, §4 documents without names, §5 a chain
through a dynamic anchor.
-/
import SchemaDoc.Proofs.Reference.Arising
import SchemaDoc.Proofs.Reference.Elsewhere

namespace SchemaDoc.Reference

open Relation Registry

variable {disk : Disk} {earlier : Option String}

/-! ## §1 Fields -/

/-- The entries of a mapping from a place on, each with the site of its value. -/
def fieldsFrom (here : Place) (p : Position) : Nat → List (Scalar × Value) → List (Scalar × Site)
  | _, [] => []
  | place, (k, v) :: rest => (k, ⟨here, place :: p, v⟩) :: fieldsFrom here p (place + 1) rest

/-- The fields of a site: the entries of its mapping, without that which makes it a reference. -/
def Site.fields (s : Site) : List (Scalar × Site) :=
  match s.value.bare with
  | .mapping entries => (fieldsFrom s.place s.position 1 entries).filter fun f =>
      !((reference? entries).isSome && referenceKey.same f.1)
  | _ => []

/-- The keys of the fields of a site. -/
def Site.keys (s : Site) : List Scalar := s.fields.map Prod.fst

/-- The field under a key. -/
def fieldUnder? (key : Scalar) (fields : List (Scalar × Site)) : Option Site :=
  (fields.find? fun f => key.same f.1).map (·.2)

/-- The field under a key of the nearest site that has one. -/
def nearest? (key : Scalar) (sites : List Site) : Option Site :=
  sites.findSome? fun s => fieldUnder? key s.fields

theorem nearest?_cons (key : Scalar) (s : Site) (rest : List Site) :
    nearest? key (s :: rest) = (fieldUnder? key s.fields).or (nearest? key rest) := by
  rw [nearest?, List.findSome?_cons]
  cases fieldUnder? key s.fields <;> rfl

/-- Fields are carried out to entries under the same keys. -/
def Expands (disk : Disk) (earlier : Option String) (hops : Nat) (fields : List (Scalar × Site))
    (entries : List (Scalar × Value)) : Prop :=
  List.Forall₂ (fun f e => f.1 = e.1 ∧ f.2.expand disk earlier hops = .ok e.2) fields entries

theorem expands_inlineEntries {hops : Nat} {here : Place} {p : Position} :
    ∀ {entries inlined : List (Scalar × Value)} {place : Nat},
      inlineEntries (followAt disk earlier hops here) p place entries = .ok inlined →
      Expands disk earlier hops (fieldsFrom here p place entries) inlined
  | [], _, _, h => by
    cases h
    exact .nil
  | (k, v) :: rest, _, place, h => by
    obtain ⟨w, hw, h⟩ := bind_eq_ok.mp h
    obtain ⟨inlined, hrest, h⟩ := bind_eq_ok.mp h
    cases h
    exact .cons ⟨rfl, (expandAt_eq_inline ..).trans hw⟩ (expands_inlineEntries hrest)

theorem expands_inlineSiblings {hops : Nat} {here : Place} {p : Position} :
    ∀ {entries inlined : List (Scalar × Value)} {place : Nat},
      inlineSiblings (followAt disk earlier hops here) p place entries = .ok inlined →
      Expands disk earlier hops
        ((fieldsFrom here p place entries).filter fun f => !referenceKey.same f.1) inlined
  | [], _, _, h => by
    cases h
    exact .nil
  | (k, v) :: rest, _, place, h => by
    rw [inlineSiblings] at h
    rw [fieldsFrom]
    split at h
    · rename_i hk
      rw [List.filter_cons_of_neg (by simp [hk])]
      exact expands_inlineSiblings h
    · rename_i hk
      rw [List.filter_cons_of_pos (by simp [hk])]
      obtain ⟨w, hw, h⟩ := bind_eq_ok.mp h
      obtain ⟨inlined, hrest, h⟩ := bind_eq_ok.mp h
      cases h
      exact .cons ⟨rfl, (expandAt_eq_inline ..).trans hw⟩ (expands_inlineSiblings hrest)

theorem Expands.keys {hops : Nat} {fields : List (Scalar × Site)}
    {entries : List (Scalar × Value)} (h : Expands disk earlier hops fields entries) :
    entries.map Prod.fst = fields.map Prod.fst := by
  induction h with
  | nil => rfl
  | cons hfirst _ ih => rw [List.map_cons, List.map_cons, hfirst.1, ih]

/-- What stands under a key is what the field there is carried out to. -/
theorem Expands.get? {hops : Nat} {fields : List (Scalar × Site)}
    {entries : List (Scalar × Value)} (h : Expands disk earlier hops fields entries)
    (key : Scalar) :
    Option.Rel (fun f v => f.expand disk earlier hops = .ok v) (fieldUnder? key fields)
      (Entries.get? entries key) := by
  induction h with
  | nil => exact .none
  | @cons f e _ _ hfirst _ ih =>
    rw [fieldUnder?, List.find?_cons, Entries.get?, hfirst.1]
    cases key.same e.1 with
    | true => exact .some hfirst.2
    | false => exact ih

/-! ## §2 Chains -/

/-- A chain of references: each site holds a mapping with a reference that leads to the next one, and
the last one holds a mapping that is no reference. -/
inductive Chain (disk : Disk) (earlier : Option String) : Site → List Site → Prop
  | last {s : Site} {entries : List (Scalar × Value)} (hvalue : s.value.bare = .mapping entries)
      (hnone : reference? entries = none) : Chain disk earlier s []
  | link {s t : Site} {rest : List Site} {entries : List (Scalar × Value)} {reference : String}
      (hvalue : s.value.bare = .mapping entries) (href : reference? entries = some reference)
      (hlead : s.place.lead disk earlier s.position reference = .ok (t.place, t.value))
      (hposition : t.position = 0 :: s.position) (hrest : Chain disk earlier t rest) :
      Chain disk earlier s (t :: rest)

/-- The mark of a mapping that holds itself does not matter. -/
theorem inline_of_bare (follow : Position → String → Except Failure Value) (p : Position) {v : Value}
    {entries : List (Scalar × Value)} (h : v.bare = .mapping entries) :
    inline follow p v = inline follow p (.mapping entries) := by
  fun_induction Value.bare v with
  | case1 mark body ih =>
    refine Eq.trans ?_ (ih h)
    rw [inline]
    unfold unwind
    split
    · cases h
    · cases h
    · rfl
  | case2 v _ => rw [h]

/-- A mapping that is no reference is carried out field by field. -/
theorem expand_of_reference?_eq_none {s : Site} {entries : List (Scalar × Value)} {hops : Nat}
    {w : Value} (hvalue : s.value.bare = .mapping entries) (hnone : reference? entries = none)
    (hw : s.expand disk earlier hops = .ok w) :
    ∃ out, w = .mapping out ∧ Expands disk earlier hops s.fields out := by
  rw [Site.expand, expandAt_eq_inline, inline_of_bare _ _ hvalue, inline, hnone] at hw
  obtain ⟨out, hout, hw⟩ := bind_eq_ok.mp hw
  have hall : s.fields = fieldsFrom s.place s.position 1 entries := by
    simp [Site.fields, hvalue, hnone]
  refine ⟨out, (Except.ok.inj hw).symm, ?_⟩
  rw [hall]
  exact expands_inlineEntries hout

/-- One that is a reference is carried out to its fields, laid over those of what is named if this is a
mapping. -/
theorem expand_of_reference? {s t : Site} {entries : List (Scalar × Value)} {reference : String}
    {hops : Nat} {w : Value} (hvalue : s.value.bare = .mapping entries)
    (href : reference? entries = some reference)
    (hlead : s.place.lead disk earlier s.position reference = .ok (t.place, t.value))
    (hposition : t.position = 0 :: s.position) (hw : s.expand disk earlier hops = .ok w) :
    ∃ fewer named, hops = fewer + 1 ∧ t.expand disk earlier fewer = .ok named ∧
      ∀ lower, named = .mapping lower → ∃ upper, Expands disk earlier hops s.fields upper ∧
        w = .mapping (if upper.isEmpty then lower else layOver upper lower) := by
  rw [Site.expand, expandAt_eq_inline, inline_of_bare _ _ hvalue, inline, href] at hw
  obtain ⟨named, hnamed, hw⟩ := bind_eq_ok.mp hw
  cases hops with
  | zero => cases hnamed
  | succ fewer =>
    rw [followAt_succ, hlead, ok_bind, ← hposition] at hnamed
    refine ⟨fewer, named, rfl, hnamed, ?_⟩
    rintro lower rfl
    obtain ⟨upper, hupper, hw⟩ := bind_eq_ok.mp hw
    have hsome : s.fields
        = (fieldsFrom s.place s.position 1 entries).filter fun f => !referenceKey.same f.1 := by
      simp [Site.fields, hvalue, href]
    refine ⟨upper, ?_, (Except.ok.inj hw).symm⟩
    rw [hsome]
    exact expands_inlineSiblings hupper

/-- With more hops a site is carried out to the same. -/
theorem expand_mono {s : Site} {hops more : Nat} {w : Value} (hle : hops ≤ more)
    (hw : s.expand disk earlier hops = .ok w) : s.expand disk earlier more = .ok w :=
  (expand_stable hle (by simp [hw])).1.trans hw

section Overlay

variable {upper lower : List (Scalar × Value)}

theorem get?_overlay (key : Scalar) :
    Entries.get? (if upper.isEmpty then lower else layOver upper lower) key
      = (Entries.get? upper key).or (Entries.get? lower key) := by
  split
  · rename_i hempty
    rw [List.isEmpty_iff.mp hempty]
    rfl
  · exact get?_layOver key lower upper

/-- The lower entries stay as they are if there are no others, which makes no difference to their keys
unless one is there twice. -/
theorem keys_overlay (h : Distinct (lower.map Prod.fst)) :
    (if upper.isEmpty then lower else layOver upper lower).map Prod.fst
      = addNew (upper.map Prod.fst) (lower.map Prod.fst) := by
  split
  · rename_i hempty
    rw [List.isEmpty_iff.mp hempty, addNew_eq h]
    simp [Scalar.among]
  · exact keys_layOver lower upper

end Overlay

theorem rel_mono {α β : Type} {r r' : α → β → Prop} {a : Option α} {b : Option β}
    (h : Option.Rel r a b) (himp : ∀ a b, r a b → r' a b) : Option.Rel r' a b := by
  cases h with
  | some h => exact .some (himp _ _ h)
  | none => exact .none

theorem rel_or {α β : Type} {r : α → β → Prop} {a a' : Option α} {b b' : Option β}
    (h : Option.Rel r a b) (h' : Option.Rel r a' b') : Option.Rel r (a.or a') (b.or b') := by
  cases h with
  | some h => exact .some h
  | none => exact h'

/-- **The nearest entry wins.** What a chain is carried out to has under each key what the nearest
field there is carried out to. Its keys are those of the first mapping and then, mapping by mapping,
the new ones, if no mapping has a key twice. -/
theorem Chain.expand {s : Site} {rest : List Site} (h : Chain disk earlier s rest) {hops : Nat}
    {w : Value} (hw : s.expand disk earlier hops = .ok w) :
    ∃ out, w = .mapping out ∧
      (∀ key, Option.Rel (fun f v => f.expand disk earlier hops = .ok v) (nearest? key (s :: rest))
        (Entries.get? out key)) ∧
      ((∀ t ∈ s :: rest, Distinct t.keys) →
        out.map Prod.fst = (rest.map Site.keys).foldl addNew s.keys) := by
  induction h generalizing hops w with
  | last hvalue hnone =>
    obtain ⟨out, rfl, hfields⟩ := expand_of_reference?_eq_none hvalue hnone hw
    refine ⟨out, rfl, fun key => ?_, fun _ => hfields.keys⟩
    rw [nearest?_cons]
    exact (Option.or_none ..).symm ▸ hfields.get? key
  | @link s t rest entries reference hvalue href hlead hposition hrest ih =>
    obtain ⟨fewer, named, rfl, hnamed, hover⟩ :=
      expand_of_reference? hvalue href hlead hposition hw
    obtain ⟨lower, rfl, hlower, hkeys⟩ := ih hnamed
    obtain ⟨upper, hupper, rfl⟩ := hover lower rfl
    refine ⟨_, rfl, fun key => ?_, fun hdistinct => ?_⟩
    · -- what is behind the reference was carried out with one hop less
      have hbehind : Option.Rel (fun f v => f.expand disk earlier (fewer + 1) = .ok v)
          (nearest? key (t :: rest)) (Entries.get? lower key) :=
        rel_mono (hlower key) fun _ _ => expand_mono (Nat.le_succ fewer)
      rw [nearest?_cons, get?_overlay]
      exact rel_or (hupper.get? key) hbehind
    · obtain ⟨hs, hdistinct⟩ := List.forall_mem_cons.mp hdistinct
      have ht := (List.forall_mem_cons.mp hdistinct).1
      have hlists : ∀ l ∈ rest.map Site.keys, Distinct l := by
        intro l hl
        obtain ⟨u, hu, rfl⟩ := List.mem_map.mp hl
        exact hdistinct u (List.mem_cons_of_mem _ hu)
      have hmore : Distinct (lower.map Prod.fst) := by
        rw [hkeys hdistinct]
        exact distinct_foldl ht hlists
      rw [keys_overlay hmore, hupper.keys, hkeys hdistinct, List.map_cons, List.foldl_cons]
      exact addNew_foldl ht hlists

/-! ## §3 The trail -/

/-- A site where other references are being carried out. -/
def Site.carrying (s : Site) (trail : List String) : Site :=
  ⟨⟨s.place.resolver, s.place.document, trail⟩, s.position, s.value⟩

/-- **A site that is carried out is carried out to the same with a shorter trail**, for example on its
own: the trail only tells which references are circular. -/
theorem expand_carrying {s : Site} {hops : Nat} {w : Value} {trail : List String}
    (hsub : trail ⊆ s.place.trail) (hw : s.expand disk earlier hops = .ok w) :
    (s.carrying trail).expand disk earlier hops = .ok w := by
  induction hops generalizing s w trail with
  | zero => exact hw
  | succ hops ih =>
    rw [Site.expand, expandAt_eq_inline] at hw ⊢
    refine (inline_congr s.position fun a ha => ?_).1.trans hw
    cases hfollow : followAt disk earlier (hops + 1) s.place a.1 a.2 with
    | error f =>
      rw [inline_of_unanswered (v := s.value) ⟨a, ha, hfollow⟩] at hw
      cases hw
    | ok u =>
      rw [followAt_succ] at hfollow
      obtain ⟨⟨there, contents⟩, hlead, hu⟩ := bind_eq_ok.mp hfollow
      obtain ⟨target, uri, fragment, q, ht, hnew, hfound, hcut, rfl⟩ := lead_eq_ok.mp hlead
      have hlead' : (s.carrying trail).place.lead disk earlier a.1 a.2
          = .ok (⟨q, uri, target :: trail⟩, contents) :=
        lead_eq_ok.mpr ⟨target, uri, fragment, q, ht, fun hm => hnew (hsub hm), hfound, hcut, rfl⟩
      rw [followAt_succ, hlead', ok_bind]
      have hagain := ih (s := ⟨⟨q, uri, target :: s.place.trail⟩, 0 :: a.1, contents⟩)
        (List.cons_subset_cons target hsub) hu
      exact hagain

/-! ## §4 Documents without names -/

/-- A site whose value stands in the document that its references are seen from, where only documents
without names are known. -/
structure Site.Stands (s : Site) : Prop where
  sound : s.place.resolver.registry.Sound
  unmarked : withoutFragmentMark s.place.resolver.base = s.place.resolver.base
  written : ∃ r fragment, s.place.resolver.registry.find? s.place.resolver.base = some r ∧
    r.part? s.place.resolver.base fragment = some s.value

/-- A reference seen from a document leads to a document. -/
theorem unmarked_of_target {q : Resolver} {reference uri fragment : String}
    (hq : withoutFragmentMark q.base = q.base) (h : q.target reference = .ok (uri, fragment)) :
    withoutFragmentMark uri = uri := by
  cases hf : isFragment reference with
  | true =>
    rw [target_of_isFragment hf] at h
    rw [← (Prod.mk.inj (Except.ok.inj h)).1]
    exact hq
  | false =>
    rw [target_eq_noted hf] at h
    exact unmarked_of_noted h

theorem Site.Stands.lead {s t : Site} (hs : s.Stands) (hdisk : FilesHold isNamelessPart disk)
    {p : Position} {reference : String}
    (h : s.place.lead disk earlier p reference = .ok (t.place, t.value)) : t.Stands := by
  obtain ⟨_, _, _, q, -, -, hfound, -, hplace⟩ := lead_eq_ok.mp h
  obtain ⟨⟨uri, fragment⟩, ht, -⟩ := bind_eq_ok.mp hfound
  have ht := mapError_eq_ok.mp ht
  have hu := unmarked_of_target hs.unmarked ht
  obtain ⟨hlearns, hbase, r, hr, hpart⟩ :=
    lookUp_spec hs.sound ht hu (fun r hr => yields_retrieve hdisk r hr) _ hfound
  have hq : t.place.resolver = q := by rw [hplace]
  refine ⟨hq ▸ hlearns.sound, ?_, r, fragment, ?_, ?_⟩
  · rw [hq, hbase, hu]
  · rw [hq, hbase, hr]
  · rw [hq, hbase, hpart]

theorem stands_rootSite {document : Value} {base : Path} {name : String} {s : Site}
    (hs : rootSite disk document base name = .ok s) (hdocument : Nameless document) : s.Stands := by
  obtain ⟨uri, huri, hs⟩ := bind_eq_ok.mp hs
  obtain ⟨place, hplace, hs⟩ := bind_eq_ok.mp hs
  cases hs
  obtain ⟨r, -, rfl, rfl⟩ := rootPlace_eq_ok.mp (orFail_eq_ok.mp hplace)
  have hu := withoutFragmentMark_eq (not_mem_of_rootUri (orFail_eq_ok.mp huri))
  refine ⟨sound_alone hu hdocument, hu, r, "", ?_, ?_⟩
  · rw [find?_add hu, if_pos rfl]
  · rfl

variable {document : Value} {base : Path} {name : String}

/-- All that a document without names comes to stands in the document it is seen from. -/
theorem Comes.stands (hdocument : Nameless document) (hdisk : FilesHold isNamelessPart disk)
    {t : Site} (h : Comes disk earlier document base name t) : t.Stands := by
  obtain ⟨s, hs, ht⟩ := h
  induction ht with
  | refl => exact stands_rootSite hs hdocument
  | tail _ hnext ih =>
    obtain ⟨_, hmem⟩ := hnext
    obtain ⟨_, -, -, hlead⟩ := mem_next.mp hmem
    exact ih.lead hdisk hlead

/-- So does every mapping of a chain. -/
theorem Chain.stands {s u : Site} {rest : List Site} (h : Chain disk earlier s rest)
    (hu : u.Stands) (hplace : s.place = u.place) (hdisk : FilesHold isNamelessPart disk) :
    ∀ t ∈ rest, t.Stands := by
  induction h generalizing u with
  | last => nofun
  | link _ _ hlead _ _ ih =>
    have ht := hu.lead hdisk (hplace ▸ hlead)
    exact List.forall_mem_cons.mpr ⟨ht, ih ht rfl⟩

/-- **The nearest entry along a chain of references wins**, and is carried out as it is where it is
written. From wherever a document without names comes to, a mapping that is a reference is carried out
to a mapping. Under each key stands what the nearest field of the chain is carried out to, in the chain
or on its own, seen from the document that it stands in. The keys are those of the first mapping, then
the new ones of the second, and so on. -/
theorem expand_nearest (hdocument : Nameless document) (hdisk : FilesHold isNamelessPart disk)
    {u s : Site} (hu : Comes disk earlier document base name u) (hplace : s.place = u.place)
    {rest : List Site} (hchain : Chain disk earlier s rest) {hops : Nat} {w : Value}
    (hw : s.expand disk earlier hops = .ok w) :
    (∀ t ∈ u :: rest, t.Stands) ∧
    ∃ out, w = .mapping out ∧
      (∀ key, Option.Rel (fun f v => ∀ trail ⊆ f.place.trail,
          (f.carrying trail).expand disk earlier hops = .ok v)
        (nearest? key (s :: rest)) (Entries.get? out key)) ∧
      ((∀ t ∈ s :: rest, Distinct t.keys) →
        out.map Prod.fst = (rest.map Site.keys).foldl addNew s.keys) := by
  have hstands := hu.stands hdocument hdisk
  refine ⟨List.forall_mem_cons.mpr ⟨hstands, hchain.stands hstands hplace hdisk⟩, ?_⟩
  obtain ⟨out, rfl, hget, hkeys⟩ := hchain.expand hw
  refine ⟨out, rfl, fun key => rel_mono (hget key) fun f v hf trail hsub => ?_, hkeys⟩
  exact expand_carrying hsub hf

/-- What the reference of a document leads to first. -/
def nodeX : Value := .mapping [
  (.text "b", .mapping [(.text "$ref", .text "#/definitions/z")]),
  (.text "$ref", .text "#/definitions/y"), (.text "a", .integer 2)]

/-- What that leads to. -/
def nodeY : Value := .mapping [(.text "c", .integer 3), (.text "b", .integer 4)]

/-- A document with a chain of two references. -/
def chained : Value := .mapping [
  (.text "$ref", .text "#/definitions/x"), (.text "a", .integer 1),
  (.text "definitions", .mapping [
    (.text "x", nodeX), (.text "y", nodeY), (.text "z", .mapping [])])]

/-- The keys of that chain, in its order. -/
theorem expand_nearest_chained : ∃ s rest out,
    rootSite ⟨{}, .absolute []⟩ chained (.absolute []) unnamed = .ok s ∧
      Chain ⟨{}, .absolute []⟩ none s rest ∧
      s.expand ⟨{}, .absolute []⟩ none 3 = .ok (.mapping out) ∧
      out.map Prod.fst = [.text "a", .text "definitions", .text "b", .text "c"] := by
  have hrun : ∃ w, (do
      let s ← rootSite ⟨{}, .absolute []⟩ chained (.absolute []) unnamed
      let x ← s.place.lead ⟨{}, .absolute []⟩ none s.position "#/definitions/x"
      let y ← x.1.lead ⟨{}, .absolute []⟩ none (0 :: s.position) "#/definitions/y"
      let w ← s.expand ⟨{}, .absolute []⟩ none 3
      return (s.value, x.2, y.2, w)) = .ok (chained, nodeX, nodeY, w) := ⟨.mapping [
        (.text "a", .integer 1),
        (.text "definitions", .mapping [
          (.text "x", .mapping [(.text "b", .mapping []), (.text "a", .integer 2),
            (.text "c", .integer 3)]),
          (.text "y", nodeY), (.text "z", .mapping [])]),
        (.text "b", .mapping []), (.text "c", .integer 3)], by decide +kernel⟩
  obtain ⟨w, hrun⟩ := hrun
  obtain ⟨⟨here, p, v⟩, hs, hrun⟩ := bind_eq_ok.mp hrun
  obtain ⟨⟨first, x⟩, hx, hrun⟩ := bind_eq_ok.mp hrun
  obtain ⟨⟨second, y⟩, hy, hrun⟩ := bind_eq_ok.mp hrun
  obtain ⟨w', hw, hrun⟩ := bind_eq_ok.mp hrun
  cases hrun
  have hchain : Chain ⟨{}, .absolute []⟩ none ⟨here, p, chained⟩
      [⟨first, 0 :: p, nodeX⟩, ⟨second, 0 :: 0 :: p, nodeY⟩] :=
    .link rfl rfl hx rfl (.link rfl rfl hy rfl (.last rfl rfl))
  have hdistinct : ∀ t ∈ [⟨here, p, chained⟩, ⟨first, 0 :: p, nodeX⟩, ⟨second, 0 :: 0 :: p, nodeY⟩],
      Distinct (Site.keys t) := by
    have htwo : ∀ k k' : Scalar, k'.same k = false → Distinct [k, k'] := fun _ _ h =>
      List.pairwise_pair.mpr h
    simp only [List.forall_mem_cons]
    exact ⟨htwo (.text "a") (.text "definitions") rfl, htwo (.text "b") (.text "a") rfl,
      htwo (.text "c") (.text "b") rfl, nofun⟩
  obtain ⟨-, out, rfl, -, hkeys⟩ := expand_nearest (by decide +kernel) (filesHold_empty _ _)
    ⟨_, hs, .refl⟩ rfl hchain hw
  exact ⟨_, _, out, hs, hchain, hw, hkeys hdistinct⟩

/-! ## §5 A chain through a dynamic anchor -/

/-- A file with a dynamic anchor, in a directory with a file of a name that is also outside. -/
def anchored : Disk :=
  ⟨⟨[(["d"], .directory),
    (["d", "x.json"], .file (bytesOf ("\x7b\"$schema\":\"https://json-schema.org/draft/2020-12/schema\","
      ++ "\"$defs\":\x7b\"n\":\x7b\"$dynamicAnchor\":\"node\"\x7d\x7d\x7d"))),
    (["d", "y.json"], .file (bytesOf "\x7b\"type\":\"integer\"\x7d")),
    (["y.json"], .file (bytesOf "\x7b\"type\":\"string\"\x7d"))]⟩, .absolute []⟩

/-- A part of a document with the same dynamic anchor, and with a reference to the file outside. -/
def anchoredPart : Value := .mapping [
  (.text "$dynamicAnchor", .text "node"), (.text "a", .mapping [(.text "$ref", .text "y.json")])]

/-- The document, which refers to the anchor in the file. -/
def anchoring : Value := .mapping [
  (.text "$schema", .text "https://json-schema.org/draft/2020-12/schema"),
  (.text "$ref", .text "d/x.json#node"), (.text "$defs", .mapping [(.text "n", anchoredPart)])]

/-- **A reference behind a dynamic anchor is seen from the wrong document.** The reference to the file
leads to the part of the document, whose own reference names the file outside, as it does where the part
stands. But behind the reference it is taken for the file in the directory. -/
theorem expand_nearest_misplaced :
    Unnamed anchoring ∧
      (do
        let s ← rootSite anchored anchoring (.absolute []) unnamed
        let led ← s.place.lead anchored none s.position "d/x.json#node"
        return led.2) = .ok anchoredPart ∧
      dereference anchored anchoring (.absolute []) unnamed = .ok (.mapping [
        (.text "$schema", .text "https://json-schema.org/draft/2020-12/schema"),
        (.text "$defs", .mapping [(.text "n", .mapping [(.text "$dynamicAnchor", .text "node"),
          (.text "a", .mapping [(.text "type", .text "string")])])]),
        (.text "$dynamicAnchor", .text "node"),
        (.text "a", .mapping [(.text "type", .text "integer")])]) := by
  decide +kernel

end SchemaDoc.Reference
