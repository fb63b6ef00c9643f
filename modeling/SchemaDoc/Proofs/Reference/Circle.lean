/-
SchemaDoc.Proofs.Reference.Circle — when a self-contained document is circular.

The trail holds the URIs of references, the circle lies in the values that
they name. In a self-contained document each reference has one URI, whichever
of the two spellings of the document's own URI it is joined to, so the trail
is the list of the references being carried out (`Home`). One that is met again is
circular: what it names leads back to itself, and cannot be inlined. And what
cannot be inlined ends in no other way, for the trail never holds a reference
twice and there are no more references than the hop limit admits. How deep the
tree is plays no part: an interpreter's limit on calls is not modelled.

§1 places in a self-contained document, §2 following one reference,
§3 the walk, §4 documents.
-/
import Mathlib.Data.List.Perm.Subperm
import Mathlib.Logic.Relation
import SchemaDoc.Proofs.Reference.Asked
import SchemaDoc.Proofs.Reference.Plain
import SchemaDoc.Proofs.Uri.Fragment

namespace SchemaDoc.Reference

open Uri

variable {document : Value} {uri : String} {authority path : List Char}

/-! ## §1 Places in a self-contained document -/

/-- The URI that a reference of a self-contained document is joined to. -/
def ownTarget (authority path : List Char) (reference : String) : String :=
  String.ofList (fileText authority path (reference.toList.drop 1))

/-- A place in a self-contained document of which some references are being carried out. -/
structure Home (document : Value) (uri : String) (authority path : List Char)
    (trail : List String) (here : Place) : Prop where
  base : here.resolver.base = uri
  known : here.resolver.registry.find? uri = some ⟨.draft4, document⟩
  seen : SettlesTo here.document authority path
  trail_eq : here.trail = trail.map (ownTarget authority path)

theorem toList_of_isOwnReference {reference : String}
    (h : isOwnReference document reference = true) :
    reference.toList = '#' :: reference.toList.drop 1 ∧
      ∀ c ∈ reference.toList.drop 1, isDropped c = false := by
  simp only [isOwnReference, Bool.and_eq_true, List.all_eq_true, Bool.not_eq_true'] at h
  refine ⟨?_, fun c hc => h.1 c (List.mem_of_mem_drop hc)⟩
  obtain ⟨v, hv⟩ := Option.isSome_iff_exists.mp h.2
  unfold named? at hv
  split at hv
  · rename_i hs
    rw [hs]
    rfl
  · rename_i hs
    rw [hs]
    rfl
  · cases hv

/-- Different references have different URIs. -/
theorem ownTarget_inj {r s : String} (hr : isOwnReference document r = true)
    (hs : isOwnReference document s = true)
    (h : ownTarget authority path r = ownTarget authority path s) : r = s := by
  have hmarked : ∀ a b : List Char, marked a = marked b → a = b := by
    intro a b hab
    cases a with
    | nil =>
      cases b with
      | nil => rfl
      | cons => simp [marked] at hab
    | cons =>
      cases b with
      | nil => simp [marked] at hab
      | cons => simpa [marked] using hab
  have h := congrArg String.toList h
  simp only [ownTarget, String.toList_ofList, fileText, List.append_cancel_left_eq,
    List.cons.injEq, true_and] at h
  rw [← String.toList_inj, (toList_of_isOwnReference hr).1, (toList_of_isOwnReference hs).1,
    hmarked _ _ h]

/-! ## §2 Following one reference -/

theorem joined_of_settlesTo {seen reference : String} (h : SettlesTo seen authority path)
    (hr : isOwnReference document reference = true) :
    joined seen reference = .ok (ownTarget authority path reference) := by
  obtain ⟨hs, hf⟩ := toList_of_isOwnReference hr
  exact h.joined hs hf

theorem contains_ownTarget {trail : List String} {reference : String}
    (hr : isOwnReference document reference = true)
    (ht : ∀ t ∈ trail, isOwnReference document t = true) :
    (trail.map (ownTarget authority path)).contains (ownTarget authority path reference) = true ↔
      reference ∈ trail := by
  rw [List.contains_eq_mem, decide_eq_true_eq, List.mem_map]
  constructor
  · rintro ⟨t, hm, he⟩
    exact ownTarget_inj (ht t hm) hr he ▸ hm
  · exact fun hm => ⟨reference, hm, rfl⟩

/-- A reference that is being carried out is circular. -/
theorem Home.lead_circular {trail : List String} {here : Place} {reference : String}
    (h : Home document uri authority path trail here)
    (ht : ∀ t ∈ trail, isOwnReference document t = true) (hm : reference ∈ trail) (disk : Disk)
    (p : Position) :
    here.lead disk none p reference = .error (.circular reference here.document) := by
  have hr := ht reference hm
  have hc : here.trail.contains (ownTarget authority path reference) = true := by
    rw [h.trail_eq]
    exact (contains_ownTarget hr ht).mpr hm
  simp only [Place.lead, joined_of_settlesTo h.seen hr, orFail, mapError_ok, ok_bind, hc, if_true]
  rfl

/-- Any other leads to what it names in the document, where one reference more is being carried
out. -/
theorem Home.lead_ok (hd : selfContained document = true) {trail : List String} {here : Place}
    {reference : String} {v : Value} (h : Home document uri authority path trail here)
    (ht : ∀ t ∈ trail, isOwnReference document t = true)
    (hr : isOwnReference document reference = true) (hv : named? document reference = some v)
    (hm : reference ∉ trail) (disk : Disk) (p : Position) :
    ∃ there, here.lead disk none p reference = .ok (there, v) ∧
      Home document uri authority path (reference :: trail) there := by
  have hc : ¬here.trail.contains (ownTarget authority path reference) = true := by
    rw [h.trail_eq]
    exact fun hc => hm ((contains_ownTarget hr ht).mp hc)
  obtain ⟨inner, hl, hreg, hbase⟩ := lookUp_of_named? hd (r := here.resolver) disk p
    (by rw [h.base, h.known]) hv
  have hf := (toList_of_isOwnReference hr).2
  have hcut := cutFragment_settled h.seen.settled hf
  refine ⟨⟨inner, String.ofList (fileText authority path []),
    ownTarget authority path reference :: here.trail⟩, ?_, ?_⟩
  · rw [Place.lead, joined_of_settlesTo h.seen hr]
    simp only [orFail, mapError_ok, ok_bind, hc, hl, Bool.false_eq_true, if_false]
    rw [ownTarget, hcut]
    rfl
  · exact ⟨hbase.trans h.base, by rw [hreg, h.known], settlesTo_self h.seen.settled,
      by rw [h.trail_eq, List.map_cons]⟩

/-! ## §3 The walk -/

/-- The trail holds references of the document, none twice, and leaves hops for all others and one
more. -/
structure Spare (document : Value) (hops : Nat) (trail : List String) : Prop where
  own : ∀ t ∈ trail, t ∈ references document
  nodup : trail.Nodup
  enough : (references document).length < hops + trail.length

theorem Spare.length_le {hops : Nat} {trail : List String} (h : Spare document hops trail) :
    trail.length ≤ (references document).length :=
  (List.subperm_of_subset h.nodup h.own).length_le

theorem Spare.pos {hops : Nat} {trail : List String} (h : Spare document hops trail) :
    ∃ n, hops = n + 1 := by
  have := h.length_le
  have := h.enough
  exact ⟨hops - 1, by omega⟩

theorem Spare.cons {hops : Nat} {trail : List String} {reference : String}
    (h : Spare document (hops + 1) trail) (hr : reference ∈ references document)
    (hm : reference ∉ trail) : Spare document hops (reference :: trail) where
  own := List.forall_mem_cons.mpr ⟨hr, h.own⟩
  nodup := List.nodup_cons.mpr ⟨hm, h.nodup⟩
  enough := by
    have := h.enough
    rw [List.length_cons]
    omega

/-- A reference on the trail is circular, and any other stands for what it names, carried out at a
place of the same kind. -/
theorem followAt_cases (hd : selfContained document = true) {hops : Nat} {trail : List String}
    {here : Place} (h : Home document uri authority path trail here)
    (hs : Spare document hops trail) {reference : String} (hr : reference ∈ references document)
    (disk : Disk) (p : Position) :
    (reference ∈ trail ∧ followAt disk none hops here p reference
        = .error (.circular reference here.document)) ∨
      ∃ n there u, reference ∉ trail ∧ named? document reference = some u ∧
        followAt disk none hops here p reference = expandAt disk none n there (0 :: p) u ∧
        n < hops ∧ Home document uri authority path (reference :: trail) there ∧
        Spare document n (reference :: trail) := by
  obtain ⟨n, rfl⟩ := hs.pos
  have ht : ∀ t ∈ trail, isOwnReference document t = true :=
    fun t hm => isOwnReference_of_mem hd (hs.own t hm)
  have hown := isOwnReference_of_mem hd hr
  by_cases hm : reference ∈ trail
  · refine Or.inl ⟨hm, ?_⟩
    rw [followAt, h.lead_circular ht hm]
    rfl
  · have hown' := hown
    simp only [isOwnReference, Bool.and_eq_true] at hown'
    obtain ⟨u, hu⟩ := Option.isSome_iff_exists.mp hown'.2
    obtain ⟨there, hl, hthere⟩ := h.lead_ok hd ht hown hu hm disk p
    refine Or.inr ⟨n, there, u, hm, hu, ?_, Nat.lt_succ_self n, hthere, hs.cons hr hm⟩
    rw [followAt, hl]
    rfl

theorem unwinding_isOwnPart : Unwinding (isOwnPart document) := fun _ _ => rfl

/-- Nothing but a circle keeps a part from being carried out. -/
theorem circular_of_expandAt_error (hd : selfContained document = true) (disk : Disk) :
    ∀ {hops : Nat} {trail : List String} {here : Place} {p : Position} {v : Value} {f : Failure},
      Home document uri authority path trail here → Spare document hops trail →
      v.every (isOwnPart document) = true → references v ⊆ references document →
      expandAt disk none hops here p v = .error f →
      ∃ reference seen, f = .circular reference seen := by
  intro hops
  induction hops using Nat.strongRecOn with
  | ind hops ih =>
    intro trail here p v f h hs hown hv he
    rw [expandAt_eq_inline] at he
    obtain ⟨⟨q, r⟩, ha, hf⟩ := (unwinding_isOwnPart.inline_eq_error_iff hown).mp he
    have hr := mem_references_of_mem_asked p ha
    simp only at hf
    rcases followAt_cases hd h hs (hv hr) disk q with ⟨-, hc⟩ | ⟨n, there, u, -, hu, hc, hn, hh, hsp⟩
    · rw [hc] at hf
      exact ⟨r, here.document, (Except.error.inj hf).symm⟩
    · rw [hc] at hf
      obtain ⟨hownu, hvu⟩ := named?_of_selfContained hd hu
      exact ih n hn hh hsp hownu hvu hf

/-- A part that has been carried out has been inlined. -/
theorem inlines_of_expandAt (hd : selfContained document = true) (disk : Disk) :
    ∀ {hops : Nat} {trail : List String} {here : Place} {p : Position} {v w : Value},
      Home document uri authority path trail here → Spare document hops trail →
      v.every (isOwnPart document) = true → references v ⊆ references document →
      expandAt disk none hops here p v = .ok w → Inlines document v w := by
  intro hops
  induction hops using Nat.strongRecOn with
  | ind hops ih =>
    intro trail here p v w h hs hv hsub he
    rw [expandAt_eq_inline] at he
    refine inlines_of_inline p hv (fun q r x hr hf => ?_) he
    rcases followAt_cases hd h hs (hsub hr) disk q with ⟨-, hc⟩ | ⟨n, there, u, -, hu, hc, hn, hh, hsp⟩
    · rw [hc] at hf
      cases hf
    · rw [hc] at hf
      obtain ⟨hown, hsubu⟩ := named?_of_selfContained hd hu
      exact ⟨u, hu, ih n hn hh hsp hown hsubu hf⟩

/-- Inlining a value meets a reference sooner or later. -/
def Reaches (document v : Value) (reference : String) : Prop :=
  ∃ u, Relation.ReflTransGen (Leads document) v u ∧ Meets document u reference

theorem not_transGen_of_acc {v : Value} (h : Acc (fun b a => Leads document a b) v) :
    ¬Relation.TransGen (Leads document) v v := by
  induction h with
  | intro v _ ih =>
    intro hv
    obtain ⟨u, hu, huv⟩ := Relation.TransGen.head'_iff.mp hv
    exact ih u hu (Relation.TransGen.tail' huv hu)

/-- What a reference names does not reach that reference, if no chain from there is endless. -/
theorem not_reaches_self {reference : String} {u : Value}
    (h : Acc (fun b a => Leads document a b) u) (hu : named? document reference = some u) :
    ¬Reaches document u reference := by
  rintro ⟨x, hux, hx⟩
  exact not_transGen_of_acc h (Relation.TransGen.tail' hux ⟨reference, hx, hu⟩)

/-- What can be inlined is carried out, if it reaches no reference that is being carried out. -/
theorem expandAt_of_inlines (hd : selfContained document = true) (disk : Disk) {v : Value}
    (hacc : Acc (fun b a => Leads document a b) v) :
    ∀ {hops : Nat} {trail : List String} {here : Place} {p : Position} {w : Value},
      Home document uri authority path trail here → Spare document hops trail →
      references v ⊆ references document → (∀ t ∈ trail, ¬Reaches document v t) →
      Inlines document v w → expandAt disk none hops here p v = .ok w := by
  induction hacc with
  | intro v hv ih =>
    intro hops trail here p w h hs hsub hfree hw
    rw [expandAt_eq_inline]
    refine hw.inline_eq (fun q r u x hm hu hx => ?_) p
    rcases followAt_cases hd h hs (hsub hm.mem_references) disk q with
      ⟨ht, -⟩ | ⟨n, there, u', -, hu', hc, -, hh, hsp⟩
    · exact absurd ⟨v, .refl, hm⟩ (hfree r ht)
    · rw [hu] at hu'
      cases hu'
      have hlead : Leads document v u := ⟨r, hm, hu⟩
      rw [hc]
      refine ih u hlead hh hsp (named?_of_selfContained hd hu).2 ?_ hx
      intro t ht hreach
      rcases List.mem_cons.mp ht with rfl | ht
      · exact not_reaches_self (hv u hlead) hu hreach
      · obtain ⟨y, huy, hy⟩ := hreach
        exact hfree t ht ⟨y, huy.head hlead, hy⟩

/-! ## §4 Documents -/

theorem ofValue_of_isOwnPart {v : Value} (h : isOwnPart document v = true) :
    Resource.ofValue .draft4 v = .ok ⟨.draft4, v⟩ := by
  cases v with
  | mapping entries =>
    simp only [isOwnPart, Bool.and_eq_true] at h
    simp only [Resource.ofValue, Value.bare,
      get?_of_isOwnKey (by decide : isOwnKey (.text "$schema") = false) h.1]
  | scalar s => rfl
  | sequence items => rfl
  | _ => cases h

/-- The root of a self-contained document is a place of that kind. -/
theorem home_of_rootPlace (hd : selfContained document = true)
    (hu : SettlesTo uri authority path) :
    ∃ place, rootPlace uri document = .ok place ∧ Home document uri authority path [] place := by
  refine ⟨⟨⟨({} : Registry).add uri ⟨.draft4, document⟩, uri, []⟩, uri, []⟩, ?_, ?_⟩
  · rw [rootPlace, ofValue_of_isOwnPart (Value.every_self hd)]
    rfl
  · refine ⟨rfl, ?_, hu, rfl⟩
    simp [Registry.find?, Registry.add, withoutFragmentMark_eq hu.unmarked]

theorem spare_nil (hd : selfContained document = true) (disk : Disk) :
    Spare document (hopLimit disk document) [] where
  own := by simp
  nodup := List.nodup_nil
  enough := by
    have : (references document).length ≤ document.size := length_references_le hd
    rw [hopLimit, List.length_nil]
    omega

/-- **Circles are found, and only they.** A self-contained document is circular exactly when it
cannot be inlined, that is when references lead on from its root for ever; else what it stands for is
what inlining makes of it. How often a reference is repeated does not matter, and a document without
references is left as it is. -/
theorem dereference_selfContained {disk : Disk} {document : Value} {base : Path} {name uri : String}
    (hd : selfContained document = true) (hbase : (disk.full base).Named)
    (huri : rootUri disk base name = .ok uri) :
    ((∃ reference seen, dereference disk document base name = .error (.circular reference seen)) ↔
      ¬∃ w, Inlines document document w) ∧
    ((¬∃ w, Inlines document document w) ↔
      ∃ chain : Nat → Value, chain 0 = document ∧
        ∀ n, Leads document (chain n) (chain (n + 1))) ∧
    (∀ w, Inlines document document w → dereference disk document base name = .ok w) ∧
    (references document = [] → dereference disk document base name = .ok document) := by
  obtain ⟨authority, path, hsettles⟩ := settlesTo_of_rootUri hbase huri
  obtain ⟨place, hplace, hhome⟩ := home_of_rootPlace hd hsettles
  have hspare := spare_nil hd disk
  have hrun : dereference disk document base name
      = expandAt disk none (hopLimit disk document) place rootPosition document := by
    rw [dereference, dereferenceAfter, dereferenceWithin, huri]
    simp only [orFail, mapError_ok, ok_bind, hplace]
  have hacc := exists_inlines_iff_acc hd hd
  have hinlined : ∀ w, Inlines document document w →
      dereference disk document base name = .ok w := by
    intro w hw
    rw [hrun]
    exact expandAt_of_inlines hd disk (hacc.mp ⟨w, hw⟩) hhome hspare (fun _ hr => hr) (by simp) hw
  refine ⟨⟨?_, fun hno => ?_⟩, ?_, hinlined, fun hnone => ?_⟩
  · rintro ⟨reference, seen, hc⟩ ⟨w, hw⟩
    rw [hinlined w hw] at hc
    cases hc
  · cases he : dereference disk document base name with
    | ok w =>
      rw [hrun] at he
      exact absurd ⟨w, inlines_of_expandAt hd disk hhome hspare hd (fun _ hr => hr) he⟩ hno
    | error f =>
      rw [hrun] at he
      obtain ⟨reference, seen, rfl⟩ :=
        circular_of_expandAt_error hd disk hhome hspare hd (fun _ hr => hr) he
      exact ⟨reference, seen, rfl⟩
  · rw [hacc, not_acc_iff_exists_descending_chain]
  · exact hinlined document (inlines_of_references_nil hd hnone)

/-- A document of two entries that name each other. -/
def circle : Value := .mapping [
  (.text "a", .mapping [(.text "$ref", .text "#/b")]),
  (.text "b", .sequence [.mapping [(.text "$ref", .text "#/a")]])]

/-- A document that names its first entry twice. -/
def noCircle : Value := .mapping [
  (.text "a", .mapping [(.text "type", .text "string")]),
  (.text "b", .mapping [(.text "$ref", .text "#/a"), (.text "title", .text "B")]),
  (.text "c", .mapping [(.text "$ref", .text "#/a")])]

/-- An empty disk. -/
def emptyDisk : Disk := ⟨{}, .absolute []⟩

theorem named_full_emptyDisk : (emptyDisk.full (.absolute ["s"])).Named := by
  intro n hn
  rw [List.mem_singleton.mp hn]
  decide

/-- The result is that a reference is circular. -/
def isCircular : Except Failure Value → Bool
  | .error (.circular _ _) => true
  | _ => false

theorem isCircular_iff {x : Except Failure Value} :
    isCircular x = true ↔ ∃ reference seen, x = .error (.circular reference seen) := by
  constructor
  · intro h
    unfold isCircular at h
    split at h
    · exact ⟨_, _, rfl⟩
    · cases h
  · rintro ⟨reference, seen, rfl⟩
    rfl

/-- The one is circular and cannot be inlined, the other is not and can. -/
theorem dereference_selfContained_circle :
    (selfContained circle = true ∧ ¬∃ w, Inlines circle circle w) ∧
      (selfContained noCircle = true ∧ ∃ w, Inlines noCircle noCircle w) := by
  have hbase := named_full_emptyDisk
  have huri : rootUri emptyDisk (.absolute ["s"]) "x.json" = .ok "file:///s/x.json" := rfl
  have hcircle : selfContained circle = true := by decide +kernel
  have hno : selfContained noCircle = true := by decide +kernel
  refine ⟨⟨hcircle, ?_⟩, hno, ?_⟩
  · refine (dereference_selfContained hcircle hbase huri).1.mp (isCircular_iff.mp ?_)
    decide +kernel
  · refine Classical.not_not.mp fun hw => ?_
    have hc := isCircular_iff.mpr ((dereference_selfContained hno hbase huri).1.mpr hw)
    exact absurd hc (by decide +kernel)

end SchemaDoc.Reference
