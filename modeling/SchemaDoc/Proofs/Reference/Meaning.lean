/-
SchemaDoc.Proofs.Reference.Meaning — what a value means in its document.

Carrying out a value depends on its place: on what is known there and on the
references being carried out. What comes out of it does not. It is what the
value means in its document, each reference standing for what the disk has at
its URI, without a registry and without a trail (`meaning`). A value that is
carried out comes to its meaning (`meaning_of_expand`), if nothing that is
come to is named otherwise than by its URI.

§1 meanings, §2 following a reference, §3 sites.
-/
import SchemaDoc.Proofs.Reference.Ending
import SchemaDoc.Proofs.Reference.Known
import SchemaDoc.Proofs.Uri.Unmarked

namespace SchemaDoc.Reference

open Relation

variable {disk : Disk} {document reference uri : String} {v w : Value}

/-! ## §1 Meanings -/

/-- The URI and the fragment that a reference in a document is noted under. -/
def noted (document reference : String) : Except Fault (String × String) := do
  let target ← joined document reference
  (Uri.cutFragment target).mapError .malformedUri

/-- What the disk has at a URI. -/
def resourceAt? (disk : Disk) (uri : String) : Option Resource :=
  (Registry.retrieve disk Load.onlyReading uri).toOption

/-- What a reference in a document stands for, and the URI of the document that this is written in. -/
def standsFor? (disk : Disk) (document reference : String) : Option (String × Value) :=
  (noted document reference).toOption.bind fun (uri, fragment) =>
    (resourceAt? disk uri).bind fun r => (r.part? uri fragment).map fun v => (uri, v)

/-- What a reference in a document means, as long as references lead on at most `hops` times one after
the other, this one included. -/
def answer (disk : Disk) : Nat → String → Position → String → Except Failure Value
  | 0, _, _, _ => .error tooDeep
  | hops + 1, document, _, reference =>
    match standsFor? disk document reference with
    | some (uri, v) => inline (answer disk hops uri) rootPosition v
    | none => .error tooDeep

/-- What a value means in a document, as long as references lead on at most `hops` times one after the
other. -/
def meaning (disk : Disk) (hops : Nat) (document : String) (v : Value) : Except Failure Value :=
  inline (answer disk hops document) rootPosition v

theorem answer_succ {hops : Nat} {p : Position}
    (h : standsFor? disk document reference = some (uri, v)) :
    answer disk (hops + 1) document p reference = meaning disk hops uri v := by
  simp only [answer, h, meaning]

/-- With more hops references are answered as with fewer. -/
theorem extends_answer {hops more : Nat} (hle : hops ≤ more) (document : String) :
    Extends tooDeep (answer disk hops document) (answer disk more document) := by
  induction hops generalizing more document with
  | zero => exact fun q r h => absurd rfl h
  | succ hops ih =>
    obtain ⟨more, rfl⟩ : ∃ n, more = n + 1 := ⟨more - 1, by omega⟩
    intro q r h
    simp only [answer] at h ⊢
    split
    · rename_i uri v hs
      simp only [hs] at h
      exact ((ih (by omega) uri).inline h).1
    · rfl

/-- What a value means with some hops it means with more, and the same references are asked for. -/
theorem meaning_stable {hops more : Nat} (hle : hops ≤ more)
    (h : meaning disk hops document v = .ok w) :
    meaning disk more document v = .ok w ∧
      asked (answer disk more document) rootPosition v
        = asked (answer disk hops document) rootPosition v := by
  unfold meaning at h ⊢
  have hne : inline (answer disk hops document) rootPosition v ≠ .error tooDeep := by simp [h]
  obtain ⟨hw, ha⟩ := (extends_answer hle document).inline hne
  exact ⟨hw.trans h, ha⟩

/-! ## §2 Following a reference -/

variable {earlier : Option String} {here there : Place} {p : Position}

/-- A reference leads on if it is not being carried out and is found. -/
theorem lead_eq_ok : here.lead disk earlier p reference = .ok (there, v) ↔
    ∃ target uri fragment q, joined here.document reference = .ok target ∧ target ∉ here.trail ∧
      here.resolver.lookUp disk p reference = .ok (v, q) ∧
      Uri.cutFragment target = .ok (uri, fragment) ∧ there = ⟨q, uri, target :: here.trail⟩ := by
  constructor
  · intro h
    unfold Place.lead at h
    obtain ⟨target, ht, h⟩ := bind_eq_ok.mp h
    split at h
    · cases h
    · rename_i hnew
      obtain ⟨found, hfound, h⟩ := bind_eq_ok.mp h
      obtain ⟨cut, hcut, h⟩ := bind_eq_ok.mp h
      cases h
      exact ⟨target, cut.1, cut.2, found.2, orFail_eq_ok.mp ht, by simpa using hnew,
        mapError_eq_ok.mp hfound, mapError_eq_ok.mp (orFail_eq_ok.mp hcut), rfl⟩
  · rintro ⟨target, uri, fragment, q, ht, hnew, hfound, hcut, rfl⟩
    have hno : here.trail.contains target = false := by simpa using hnew
    simp only [Place.lead, ht, orFail, mapError_ok, ok_bind, hno, hfound, hcut]
    rfl

theorem standsFor?_eq_some : standsFor? disk document reference = some (uri, v) ↔
    ∃ fragment r, noted document reference = .ok (uri, fragment) ∧
      resourceAt? disk uri = some r ∧ r.part? uri fragment = some v := by
  simp only [standsFor?, Option.bind_eq_some_iff, toOption_eq_some, Option.map_eq_some_iff,
    Prod.mk.injEq]
  constructor
  · rintro ⟨⟨uri, fragment⟩, hn, r, hr, v, hv, rfl, rfl⟩
    exact ⟨fragment, r, hn, hr, hv⟩
  · rintro ⟨fragment, r, hn, hr, hv⟩
    exact ⟨(uri, fragment), hn, r, hr, v, hv, rfl, rfl⟩

theorem noted_eq_ok {fragment : String} : noted document reference = .ok (uri, fragment) ↔
    ∃ target, joined document reference = .ok target ∧
      Uri.cutFragment target = .ok (uri, fragment) := by
  simp only [noted, bind_eq_ok, mapError_eq_ok]

/-- The URI and the fragment of a reference depend on the base alone. -/
theorem target_congr {q q' : Resolver} (h : q.base = q'.base) (reference : String) :
    q.target reference = q'.target reference := by
  simp only [Resolver.target, h]

/-- A reference of only a fragment stays in the document. -/
theorem target_of_isFragment {q : Resolver} (h : isFragment reference = true) :
    q.target reference = .ok (q.base, String.ofList (reference.toList.drop 1)) := by
  unfold isFragment at h
  unfold Resolver.target
  split
  · rename_i hs
    rw [hs]
    rfl
  · rename_i hne
    cases hs : reference.toList with
    | nil => simp [hs] at h
    | cons c rest =>
      simp only [hs, List.head?_cons, beq_iff_eq, Option.some.injEq] at h
      exact absurd (h ▸ hs) (hne rest)

/-- Any other one is looked up as it is noted. -/
theorem target_eq_noted {q : Resolver} (h : isFragment reference = false) :
    q.target reference = noted q.base reference := by
  unfold Resolver.target
  split
  · rename_i hs
    simp [isFragment, hs] at h
  · rfl

/-- The URI of a document has no mark of a fragment. -/
theorem unmarked_of_noted {fragment : String} (h : noted document reference = .ok (uri, fragment)) :
    withoutFragmentMark uri = uri := by
  obtain ⟨target, -, hcut⟩ := noted_eq_ok.mp h
  exact withoutFragmentMark_eq (Uri.not_mem_of_cutFragment hcut)

/-- What is read from a URI is the same in every reading, and has no names. -/
structure PlainAt (disk : Disk) (uri : String) : Prop where
  alike : ∀ reading, Registry.retrieve disk reading uri
    = Registry.retrieve disk Load.onlyReading uri
  nameless : Registry.ReadsNameless disk Load.onlyReading uri

theorem PlainAt.readsNameless (h : PlainAt disk uri) (reading : Mark) :
    Registry.ReadsNameless disk reading uri := fun r hr =>
  h.nameless r ((h.alike reading).symm.trans hr)

/-- Of some documents only what the disk has at their URIs is known. -/
structure Registry.Knows (disk : Disk) (come : String → Prop) (g : Registry) : Prop where
  sound : g.Sound
  reads : ∀ {uri r}, come uri → g.find? uri = some r → resourceAt? disk uri = some r

/-- A place is in one of them. -/
structure Place.Reads (disk : Disk) (come : String → Prop) (here : Place) : Prop where
  knows : here.resolver.registry.Knows disk come
  base : here.resolver.base = here.document
  among : come here.document

variable {come : String → Prop}

/-- Where a reference leads, the documents are known as the disk has them again, one more at most, and
what it leads to is what it stands for in the document. -/
theorem reads_of_lead (h : here.resolver.registry.Knows disk come)
    (hnoted : here.resolver.target reference = noted here.document reference)
    (hlead : here.lead disk earlier p reference = .ok (there, v)) (hcome : come there.document)
    (hplain : PlainAt disk there.document) :
    there.Reads disk come ∧ standsFor? disk here.document reference = some (there.document, v) ∧
      Registry.Learns disk p there.document here.resolver.registry there.resolver.registry := by
  obtain ⟨target, uri, fragment, q, ht, -, hfound, hcut, rfl⟩ := lead_eq_ok.mp hlead
  dsimp only at hcome hplain ⊢
  have hn : noted here.document reference = .ok (uri, fragment) := noted_eq_ok.mpr ⟨target, ht, hcut⟩
  obtain ⟨hlearns, hbase, r, hr, hpart⟩ := lookUp_spec h.sound (hnoted.trans hn)
    (unmarked_of_noted hn) (hplain.readsNameless p) _ hfound
  have hreads : ∀ {seen r}, come seen → q.registry.find? seen = some r →
      resourceAt? disk seen = some r := by
    intro seen r hseen hr
    rcases hlearns.source hr with hr | ⟨rfl, -, hr⟩
    · exact h.reads hseen hr
    · exact toOption_eq_some.mpr ((hplain.alike p).symm.trans hr)
  exact ⟨⟨⟨hlearns.sound, hreads⟩, hbase, hcome⟩,
    standsFor?_eq_some.mpr ⟨fragment, r, hn, hreads hcome hr, hpart⟩, hlearns⟩

/-- A reference that stands for something leads there, unless it is being carried out, if what waits can
be looked into. -/
theorem exists_lead {target : String} (h : here.resolver.registry.Knows disk come)
    (hnoted : here.resolver.target reference = noted here.document reference)
    (hstands : standsFor? disk here.document reference = some (uri, v)) (hcome : come uri)
    (hplain : PlainAt disk uri) (hjoined : joined here.document reference = .ok target)
    (hnew : target ∉ here.trail) (hopens : here.resolver.registry.OpensBut uri) (p : Position) :
    ∃ there, here.lead disk earlier p reference = .ok (there, v) ∧ there.document = uri ∧
      there.trail = target :: here.trail ∧ there.Reads disk come ∧
      there.resolver.registry.OpensBut uri := by
  obtain ⟨fragment, r, hn, hr, hpart⟩ := standsFor?_eq_some.mp hstands
  have hsource : here.resolver.registry.find? uri = some r ∨
      here.resolver.registry.find? uri = none ∧ Registry.retrieve disk p uri = .ok r := by
    cases hk : here.resolver.registry.find? uri with
    | some r' => exact Or.inl ((h.reads hcome hk).symm.trans hr)
    | none => exact Or.inr ⟨rfl, (hplain.alike p).trans (toOption_eq_some.mp hr)⟩
  obtain ⟨q, hfound⟩ := exists_lookUp h.sound (hnoted.trans hn) (unmarked_of_noted hn)
    (hplain.readsNameless p) hopens hsource hpart
  obtain ⟨target', hjoined', hcut⟩ := noted_eq_ok.mp hn
  obtain rfl : target = target' := Except.ok.inj (hjoined.symm.trans hjoined')
  have hlead : here.lead disk earlier p reference = .ok (⟨q, uri, target :: here.trail⟩, v) :=
    lead_eq_ok.mpr ⟨target, uri, fragment, q, hjoined, hnew, hfound, hcut, rfl⟩
  obtain ⟨hreads, -, hlearns⟩ := reads_of_lead h hnoted hlead hcome hplain
  exact ⟨_, hlead, rfl, rfl, hreads, hlearns.opensBut hopens⟩

/-! ## §3 Sites -/

/-- A URI is that of a document that is come to from a site. -/
def Site.ComesTo (disk : Disk) (s : Site) (uri : String) : Prop :=
  ∃ t, ReflTransGen (Next disk none) s t ∧ t.place.document = uri

/-- The document of a site has no names and is read alike each time. A reference that is only a fragment
is noted under its URI, and if another one leads out of it, it can be looked into. -/
structure Site.Plain (disk : Disk) (t : Site) : Prop extends PlainAt disk t.place.document where
  keeps : ∀ reference ∈ references t.value, isFragment reference = true →
    noted t.place.document reference
      = .ok (t.place.document, String.ofList (reference.toList.drop 1))
  opens : ∀ reference ∈ references t.value, isFragment reference = false →
    ∀ r, resourceAt? disk t.place.document = some r →
      ∃ found, openedAlone t.place.document r = .ok found

variable {s t u : Site}

/-- So each reference is looked up as it is noted. -/
theorem Site.Plain.target_eq (h : t.Plain disk) (hbase : t.place.resolver.base = t.place.document)
    (href : reference ∈ references t.value) :
    t.place.resolver.target reference = noted t.place.document reference := by
  cases hf : isFragment reference with
  | true => rw [target_of_isFragment hf, h.keeps reference href hf, hbase]
  | false => rw [target_eq_noted hf, hbase]

/-- A site next to one is in the document that a reference there is noted under. -/
theorem noted_of_next {s t : Site} (h : Next disk none s t) : ∃ reference ∈ references s.value,
    ∃ p fragment, noted s.place.document reference = .ok (t.place.document, fragment) ∧
      s.place.lead disk none p reference = .ok (t.place, t.value) := by
  obtain ⟨hops, h⟩ := h
  obtain ⟨a, ha, -, hlead⟩ := mem_next.mp h
  obtain ⟨target, uri, fragment, q, hjoined, -, -, hcut, hplace⟩ := lead_eq_ok.mp hlead
  refine ⟨a.2, mem_references_of_mem_asked _ ha, a.1, fragment, ?_, hlead⟩
  rw [hplace]
  exact noted_eq_ok.mpr ⟨target, hjoined, hcut⟩

/-- At a site documents are known as the disk has them, and all that is come to from it is plain. -/
structure Site.Faithful (disk : Disk) (s : Site) : Prop where
  start : s.place.Reads disk (s.ComesTo disk)
  plain : ∀ {t}, ReflTransGen (Next disk none) s t → t.Plain disk

/-- Where a reference at a plain site leads, if that is plain too. -/
theorem stands_of_lead (h : t.place.Reads disk come) (ht : t.Plain disk) (hu : u.Plain disk)
    (hcome : come u.place.document) (href : reference ∈ references t.value)
    (hlead : t.place.lead disk earlier p reference = .ok (u.place, u.value)) :
    u.place.Reads disk come ∧
      standsFor? disk t.place.document reference = some (u.place.document, u.value) := by
  obtain ⟨hreads, hstands, -⟩ :=
    reads_of_lead h.knows (ht.target_eq h.base href) hlead hcome hu.toPlainAt
  exact ⟨hreads, hstands⟩

/-- Wherever is come to, documents are known as the disk has them. -/
theorem Site.Faithful.reads (hs : s.Faithful disk) (ht : ReflTransGen (Next disk none) s t) :
    t.place.Reads disk (s.ComesTo disk) := by
  induction ht with
  | refl => exact hs.start
  | @tail t u ht hnext ih =>
    have hu := ht.tail hnext
    obtain ⟨reference, href, p, -, -, hlead⟩ := noted_of_next hnext
    exact (stands_of_lead ih (hs.plain ht) (hs.plain hu) ⟨u, hu, rfl⟩ href hlead).1

/-- Wherever is come to, a reference leads to what it stands for. -/
theorem Site.Faithful.stands (hs : s.Faithful disk) (ht : ReflTransGen (Next disk none) s t)
    (hnext : Next disk none t u) (href : reference ∈ references t.value)
    (hlead : t.place.lead disk earlier p reference = .ok (u.place, u.value)) :
    standsFor? disk t.place.document reference = some (u.place.document, u.value) := by
  have hu := ht.tail hnext
  exact (stands_of_lead (hs.reads ht) (hs.plain ht) (hs.plain hu) ⟨u, hu, rfl⟩ href hlead).2

/-- **A value that is carried out comes to what it means**, and asks for the references that its meaning
asks for. -/
theorem meaning_of_expand (hs : s.Faithful disk) {hops : Nat}
    (ht : ReflTransGen (Next disk none) s t) (h : t.expand disk none hops = .ok w) :
    meaning disk hops t.place.document t.value = .ok w ∧
      texts (asked (answer disk hops t.place.document) rootPosition t.value)
        = texts (t.asked disk none hops) := by
  -- a step behind a reference is the induction hypothesis at the site that it leads to
  induction hops generalizing t w with
  | zero =>
    rw [Site.expand, expandAt_eq_inline] at h
    exact inline_carried _ _ (fun a _ q w hw => by simp [followAt] at hw) h
  | succ hops ih =>
    rw [Site.expand, expandAt_eq_inline] at h
    refine inline_carried _ _ (fun a ha q w hw => ?_) h
    rw [followAt_succ] at hw
    obtain ⟨⟨there, contents⟩, hlead, hw⟩ := bind_eq_ok.mp hw
    have hnext : Next disk none t ⟨there, 0 :: a.1, contents⟩ :=
      ⟨hops + 1, mem_next.mpr ⟨a, ha, rfl, hlead⟩⟩
    rw [answer_succ (hs.stands ht hnext (mem_references_of_mem_asked _ ha) hlead)]
    exact (ih (ht.tail hnext) hw).1

end SchemaDoc.Reference
