/-
SchemaDoc.Proofs.Reference.Elsewhere — a file means elsewhere what it means
alone.

A reference to a file is carried out in a document with what is known there
and with the references being carried out there. The file alone starts with
nothing of this. Step by step the two agree (`Mirrors`): more is known
elsewhere, but of what the file comes to only what the disk has, and more
is being carried out, but only the reference to the file itself. The file does
not come back to itself, for then its meaning would take fewer hops than it
takes.

The document that the reference stands in is known by the URI of its name in
the directory, wherever it comes from. A file of that name is not read then,
and the document stands for it.

§1 a reference elsewhere, §2 a value elsewhere, §3 documents, §4 files of one
name.
-/
import Mathlib.Data.Nat.Find
import SchemaDoc.Proofs.Reference.File
import SchemaDoc.Proofs.Reference.Retry
import SchemaDoc.Proofs.Value.Equality

namespace SchemaDoc.Reference

open Relation Registry

variable {disk : Disk} {come : String → Prop} {own reference uri : String} {v w : Value}

/-! ## §1 A reference elsewhere -/

/-- A place that is like another one: it is in the same document, and of what is come to it knows what
the disk has. It may be on the way from one URI, and what waits there can be looked into. -/
structure Mirrors (disk : Disk) (come : String → Prop) (own : String) (there here : Place) :
    Prop where
  reads : here.Reads disk come
  document : here.document = there.document
  trail : ∀ target ∈ here.trail, target ∈ there.trail ∨ target = own
  waits : here.resolver.registry.OpensBut here.document

/-- What waits elsewhere can be looked into, also the document itself if a reference leads out of it. -/
theorem Mirrors.opensBut {t : Site} {here : Place} {fragment : String}
    (h : Mirrors disk come own t.place here) (hplain : t.Plain disk)
    (href : reference ∈ references t.value)
    (ht : here.resolver.target reference = .ok (uri, fragment)) :
    here.resolver.registry.OpensBut uri := by
  intro seen hs hne
  by_cases hseen : seen = here.document
  · subst hseen
    have hleads : isFragment reference = false := by
      rw [← Bool.not_eq_true]
      intro hf
      rw [target_of_isFragment hf] at ht
      exact hne (h.reads.base.symm.trans (Prod.mk.inj (Except.ok.inj ht)).1)
    intro r hr
    have hr := h.reads.knows.reads h.reads.among hr
    rw [h.document] at hr ⊢
    exact hplain.opens reference href hleads r hr
  · exact h.waits seen hs hseen

/-- **A reference leads on elsewhere as it does alone**, unless it leads to the URI that elsewhere is on
the way. -/
theorem Mirrors.lead {t u : Site} {here : Place} {p : Position}
    (h : Mirrors disk come own t.place here) (ht : t.place.Reads disk come) (hplain : t.Plain disk)
    (hu : u.Plain disk) (hcome : come u.place.document) (href : reference ∈ references t.value)
    (hlead : t.place.lead disk none p reference = .ok (u.place, u.value))
    (hown : joined t.place.document reference ≠ .ok own) (q : Position) :
    ∃ there, here.lead disk none q reference = .ok (there, u.value) ∧
      Mirrors disk come own u.place there := by
  have hnoted := hplain.target_eq ht.base href
  obtain ⟨-, hstands⟩ := stands_of_lead ht hplain hu hcome href hlead
  obtain ⟨fragment, -, hn, -⟩ := standsFor?_eq_some.mp hstands
  obtain ⟨target, _, _, _, hjoined, hnew, _, _, hplace⟩ := lead_eq_ok.mp hlead
  rw [target_congr (ht.base.trans (h.document.symm.trans h.reads.base.symm)), ← h.document]
    at hnoted
  rw [← h.document] at hstands hjoined hn hown
  have htrail : target ∉ here.trail := fun hm =>
    (h.trail target hm).elim hnew fun he => hown (he ▸ hjoined)
  obtain ⟨there, hlead', hdocument, heq, hreads, hopens⟩ := exists_lead h.reads.knows hnoted hstands
    hcome hu.toPlainAt hjoined htrail (h.opensBut hplain href (hnoted.trans hn)) q
  refine ⟨there, hlead', hreads, hdocument, fun x hx => ?_, hdocument ▸ hopens⟩
  rw [heq] at hx
  rw [hplace]
  rcases List.mem_cons.mp hx with rfl | hx
  · exact Or.inl (List.mem_cons_self ..)
  · exact (h.trail x hx).imp_left (List.mem_cons_of_mem _)

/-! ## §2 A value elsewhere -/

variable {s t : Site} {hops enough : Nat} {w' : Value}

/-- What is asked for at a site that is carried out is followed. -/
theorem exists_next_of_asked (h : t.expand disk none enough = .ok w') {a : Position × String}
    (ha : a ∈ t.asked disk none enough) :
    ∃ u, t.place.lead disk none a.1 a.2 = .ok (u.place, u.value) ∧ Next disk none t u ∧
      ∃ more w, u.expand disk none more = .ok w := by
  rw [Site.expand, expandAt_eq_inline] at h
  cases hf : followAt disk none enough t.place a.1 a.2 with
  | error f =>
    rw [inline_of_unanswered ⟨a, ha, hf⟩] at h
    cases h
  | ok w =>
    cases enough with
    | zero => simp [followAt] at hf
    | succ enough =>
      rw [followAt_succ] at hf
      obtain ⟨⟨there, contents⟩, hlead, hw⟩ := bind_eq_ok.mp hf
      exact ⟨⟨there, 0 :: a.1, contents⟩, hlead, ⟨_, mem_next.mpr ⟨a, ha, rfl, hlead⟩⟩, _, _, hw⟩

/-- What the meaning of a carried out site asks for is asked for there, and followed. -/
theorem exists_next_of_meaning (hs : s.Faithful disk) (ht : ReflTransGen (Next disk none) s t)
    (h : t.expand disk none enough = .ok w')
    (hmeaning : meaning disk hops t.place.document t.value = .ok w) {a : Position × String}
    (ha : a ∈ asked (answer disk hops t.place.document) rootPosition t.value) :
    ∃ p u, t.place.lead disk none p a.2 = .ok (u.place, u.value) ∧ Next disk none t u ∧
      ∃ more w, u.expand disk none more = .ok w := by
  -- with the larger of the two numbers of hops, the site asks for what both ask for
  have hmore := (expand_stable (Nat.le_max_left enough hops) (by simp [h])).1.trans h
  obtain ⟨-, htexts⟩ := meaning_of_expand hs ht hmore
  rw [(meaning_stable (Nat.le_max_right enough hops) hmeaning).2] at htexts
  have hmem : a.2 ∈ texts (t.asked disk none (max enough hops)) := by
    rw [← htexts]
    exact List.mem_map_of_mem ha
  obtain ⟨b, hb, hsame⟩ := List.mem_map.mp hmem
  obtain ⟨u, hlead, hnext⟩ := exists_next_of_asked hmore hb
  rw [hsame] at hlead
  exact ⟨b.1, u, hlead, hnext⟩

/-- What a reference to a whole document means is what the document there means. -/
theorem contents_of_stands {document : String} {resource : Resource}
    (hcut : Uri.cutFragment own = .ok (own, "")) (hresource : resourceAt? disk own = some resource)
    (hjoined : joined document reference = .ok own)
    (hstands : standsFor? disk document reference = some (uri, v)) :
    uri = own ∧ v = resource.contents := by
  obtain ⟨fragment, r, hn, hr, hpart⟩ := standsFor?_eq_some.mp hstands
  obtain ⟨rfl, rfl⟩ :=
    Prod.mk.inj (Except.ok.inj (hn.symm.trans (noted_eq_ok.mpr ⟨own, hjoined, hcut⟩)))
  obtain rfl : r = resource := Option.some.inj (hr.symm.trans hresource)
  exact ⟨rfl, (Option.some.inj hpart).symm⟩

/-- **A value is carried out elsewhere as it is alone**, with as many hops as its meaning takes, if what
stands at the URI on the way takes no fewer. -/
theorem expand_elsewhere {resource : Resource} (hs : s.Faithful disk)
    (hcut : Uri.cutFragment own = .ok (own, "")) (hresource : resourceAt? disk own = some resource)
    (hleast : ∀ fewer < hops, ∀ w, meaning disk fewer own resource.contents ≠ .ok w)
    (ht : ReflTransGen (Next disk none) s t) (hexpand : t.expand disk none enough = .ok w')
    (hmeaning : meaning disk hops t.place.document t.value = .ok w) {here : Place}
    (hm : Mirrors disk (s.ComesTo disk) own t.place here) (q : Position) :
    expandAt disk none hops here q t.value = .ok w := by
  induction hops generalizing t enough w w' here q with
  | zero =>
    rw [expandAt_eq_inline]
    exact (inline_carried _ _ (fun a _ q w hw => by simp [answer] at hw) hmeaning).1
  | succ hops ih =>
    rw [expandAt_eq_inline]
    refine (inline_carried _ _ (fun a ha q v hv => ?_) hmeaning).1
    obtain ⟨p, u, hlead, hnext, more, v', hmore⟩ :=
      exists_next_of_meaning hs ht hexpand hmeaning ha
    have hu := ht.tail hnext
    have href := mem_references_of_mem_asked _ ha
    have hstands := hs.stands ht hnext href hlead
    rw [answer_succ hstands] at hv
    -- a reference back to the URI on the way would mean the same with fewer hops
    have hown : joined t.place.document a.2 ≠ .ok own := by
      intro hjoined
      obtain ⟨hd, hc⟩ := contents_of_stands hcut hresource hjoined hstands
      rw [hd, hc] at hv
      exact hleast hops (Nat.lt_succ_self hops) v hv
    obtain ⟨there, hlead', hm'⟩ := hm.lead (hs.reads ht) (hs.plain ht) (hs.plain hu) ⟨u, hu, rfl⟩
      href hlead hown q
    rw [followAt_succ, hlead', ok_bind]
    exact ih (fun fewer hlt => hleast fewer (Nat.lt_succ_of_lt hlt)) hu hmore hv hm' (0 :: q)

/-- What means something means it with some number of hops and with none less. -/
theorem exists_least_meaning {document : String} (h : meaning disk hops document v = .ok w) :
    ∃ least ≤ hops, meaning disk least document v = .ok w ∧
      ∀ fewer < least, ∀ w, meaning disk fewer document v ≠ .ok w := by
  classical
  have hex : ∃ n, ∃ w, meaning disk n document v = .ok w := ⟨hops, w, h⟩
  obtain ⟨w', hw'⟩ := Nat.find_spec hex
  have hle : Nat.find hex ≤ hops := Nat.find_min' hex ⟨w, h⟩
  obtain rfl : w' = w := Except.ok.inj ((meaning_stable hle hw').1.symm.trans h)
  exact ⟨_, hle, hw', fun fewer hlt w hw => Nat.find_min hex hlt ⟨w, hw⟩⟩

/-- **A whole document is carried out elsewhere as it is alone**, on the way from its own URI. -/
theorem Mirrors.expand {resource : Resource} {here : Place} (hs : s.Faithful disk)
    (hcut : Uri.cutFragment s.place.document = .ok (s.place.document, ""))
    (hresource : resourceAt? disk s.place.document = some resource)
    (hcontents : resource.contents = s.value)
    (hm : Mirrors disk (s.ComesTo disk) s.place.document s.place here)
    (halone : s.expand disk none hops = .ok w) (q : Position) :
    expandAt disk none hops here q s.value = .ok w := by
  obtain ⟨least, hle, hmeaning, hleast⟩ := exists_least_meaning (meaning_of_expand hs .refl halone).1
  rw [← hcontents] at hleast
  have hthere : Site.expand disk none least ⟨here, q, s.value⟩ = .ok w :=
    expand_elsewhere hs hcut hresource hleast .refl halone hmeaning hm q
  exact (expand_stable hle (by simp [hthere])).1.trans hthere

/-! ## §3 Documents -/

variable {file : Path} {contents : Value}

/-- A reference alone in its mapping is what it stands for. -/
theorem inline_reference {follow : Position → String → Except Failure Value} {p : Position}
    (h : follow p reference = .ok w) :
    inline follow p (.mapping [(referenceKey, .text reference)]) = .ok w := by
  have hr : reference? [(referenceKey, .text reference)] = some reference := rfl
  have hs : inlineSiblings follow p 1 [(referenceKey, .text reference)] = .ok [] := rfl
  simp only [inline, hr, h, ok_bind, hs]
  cases w <;> rfl

/-- An earlier attempt does not matter to what is carried out. -/
theorem expandAt_of_none {hops : Nat} {here : Place} {p : Position}
    (h : expandAt disk none hops here p v = .ok w) (earlier : Option String) :
    expandAt disk earlier hops here p v = .ok w := by
  cases earlier with
  | none => exact h
  | some missing => rw [expandAt_some, h, mapError_ok]

/-- A reference in a document that leads to a file mirrors the root of the file. -/
theorem mirrors_of_file {document contents : Value} {place root : Place} {file : Path}
    (hplace : rootPlace uri document = .ok place)
    (hknows : place.resolver.registry.Knows disk come)
    (hopens : ∃ found, place.resolver.registry.opened = .ok found) (hu : '#' ∉ uri.toList)
    (href : isFragment reference = false) (hjoined : joined uri reference = .ok own)
    (hfile : FileAt disk own file contents) (hroot : rootPlace own contents = .ok root)
    (hplain : PlainAt disk own) (hcome : come own) (p : Position) :
    ∃ there, place.lead disk none p reference = .ok (there, contents) ∧
      Mirrors disk come own root there := by
  obtain ⟨r, -, -, rfl⟩ := rootPlace_eq_ok.mp hplace
  obtain ⟨r', hr', hcontents, rfl⟩ := rootPlace_eq_ok.mp hroot
  have hu := withoutFragmentMark_eq hu
  have hn : noted uri reference = .ok (own, "") :=
    noted_eq_ok.mpr ⟨own, hjoined, cutFragment_eq_self (not_mem_of_rootUri hfile.rooted)⟩
  have hstands : standsFor? disk uri reference = some (own, contents) :=
    standsFor?_eq_some.mpr ⟨"", r', hn, hfile.resourceAt?_eq hr', by simp [Resource.part?, hcontents]⟩
  have hopensBut : (({} : Registry).add uri r).OpensBut own := by
    intro seen hs _ x hx
    obtain rfl : seen = uri := by simpa [Registry.add, hu] using hs
    rw [find?_add hu, if_pos rfl] at hx
    cases hx
    exact hopens
  obtain ⟨there, hlead, hdocument, htrail, hreads, hopens⟩ := exists_lead hknows
    (target_eq_noted href) hstands hcome hplain hjoined List.not_mem_nil hopensBut p
  refine ⟨there, hlead, hreads, hdocument, fun x hx => ?_, hdocument ▸ hopens⟩
  rw [htrail] at hx
  exact Or.inr (List.mem_singleton.mp hx)

/-- **A file means elsewhere what it means alone.** A reference in a document that leads to a file, and
has nothing beside it, is carried out there as the file alone is, after whatever attempt and wherever
in the document it stands: unless the file comes to a document of the URI that the document goes by, and
the disk has another one there. The reference is written as the URI has it: a name that a URI spells
with escapes, say one with a blank, is joined without them, and what the disk has is then asked for at
another text than the file's own URI; such names are left out (`hjoined`). -/
theorem expandAt_reference {base : Path} {name : String} {document contents : Value} {place : Place}
    {file : Path} {hops : Nat} {value : Value} (huri : rootUri disk base name = .ok uri)
    (hplace : rootPlace uri document = .ok place) (hnameless : Nameless document)
    (hopens : ∃ found, place.resolver.registry.opened = .ok found)
    (href : isFragment reference = false) (hjoined : joined uri reference = .ok own)
    (hfile : FileAt disk own file contents)
    (halone : dereferenceWithin hops none disk contents file.parent file.fileName = .ok value)
    (hplain : ∀ s t, rootSite disk contents file.parent file.fileName = .ok s →
      ReflTransGen (Next disk none) s t → t.Plain disk ∧
        (t.place.document = uri →
          resourceAt? disk uri = place.resolver.registry.find? uri))
    (earlier : Option String) (p : Position) {more : Nat} (hmore : hops < more) :
    expandAt disk earlier more place p (.mapping [(referenceKey, .text reference)]) = .ok value := by
  rw [dereferenceWithin_eq] at halone
  obtain ⟨s, hs, halone⟩ := bind_eq_ok.mp halone
  obtain ⟨root, hroot, rfl⟩ := hfile.rootSite_eq hs
  obtain ⟨r, hr, hcontents, hrooted⟩ := rootPlace_eq_ok.mp hroot
  obtain rfl : root.document = own := by rw [hrooted]
  have hat := (hplain _ _ hs .refl).1.toPlainAt
  have hcome : Site.ComesTo disk ⟨root, rootPosition, contents⟩ root.document := ⟨_, .refl, rfl⟩
  have hfaithful : Site.Faithful disk ⟨root, rootPosition, contents⟩ :=
    ⟨hfile.reads hroot hat hcome, fun ht => (hplain _ _ hs ht).1⟩
  have hu := not_mem_of_rootUri huri
  have hknows : place.resolver.registry.Knows disk
      (Site.ComesTo disk ⟨root, rootPosition, contents⟩) :=
    knows_rootPlace hplace hu hnameless fun ⟨t, ht, hd⟩ => (hplain _ t hs ht).2 hd
  obtain ⟨there, hlead, hmirrors⟩ := mirrors_of_file hplace hknows hopens hu href hjoined hfile
    hroot hat hcome p
  have hcut := cutFragment_eq_self (not_mem_of_rootUri hfile.rooted)
  have hthere : Site.expand disk none hops ⟨there, 0 :: p, contents⟩ = .ok value :=
    hmirrors.expand hfaithful hcut (hfile.resourceAt?_eq hr) hcontents halone (0 :: p)
  obtain ⟨n, rfl⟩ : ∃ n, more = n + 1 := ⟨more - 1, by omega⟩
  refine expandAt_of_none ?_ earlier
  rw [expandAt_eq_inline]
  refine inline_reference ?_
  rw [followAt_succ, hlead, ok_bind]
  exact (expand_stable (Nat.le_of_lt_succ hmore) (by simp [hthere])).1.trans hthere

/-! ## §4 Files of one name -/

/-- The bytes of a text of ASCII characters. -/
def bytesOf (s : String) : List UInt8 := s.toList.map fun c => UInt8.ofNat c.toNat

/-- Two files of one directory, of which the first one has a reference to the second one. -/
def twoFiles : Disk :=
  ⟨⟨[(["x.json"], .file (bytesOf "\x7b\"a\":\x7b\"$ref\":\"y.json\"\x7d\x7d")),
    (["y.json"], .file (bytesOf "1"))]⟩, .absolute []⟩

/-- What the first one holds. -/
def firstOfTwo : Value := .mapping [(.text "a", .mapping [(.text "$ref", .text "y.json")])]

/-- A document that is what the first one holds. -/
def namesFirst : Value := .mapping [(.text "$ref", .text "x.json")]

/-- Both files stand under their URIs, and the reference in the first one stands for the second one. -/
theorem stand_twoFiles :
    FileAt twoFiles "file:///x.json" (.absolute ["x.json"]) firstOfTwo ∧
      FileAt twoFiles "file:///y.json" (.absolute ["y.json"]) (.integer 1) ∧
      noted "file:///x.json" "y.json" = .ok ("file:///y.json", "") ∧
      standsFor? twoFiles "file:///x.json" "y.json" = some ("file:///y.json", .integer 1) := by
  have hfirst : FileAt twoFiles "file:///x.json" (.absolute ["x.json"]) firstOfTwo :=
    ⟨by decide +kernel, ⟨⟨"file".toList, [], "/x.json".toList, [], []⟩, by decide +kernel, rfl,
      by decide +kernel⟩, by decide +kernel⟩
  have hsecond : FileAt twoFiles "file:///y.json" (.absolute ["y.json"]) (.integer 1) :=
    ⟨by decide +kernel, ⟨⟨"file".toList, [], "/y.json".toList, [], []⟩, by decide +kernel, rfl,
      by decide +kernel⟩, by decide +kernel⟩
  exact ⟨hfirst, hsecond, by decide +kernel, by decide +kernel⟩

/-- Where the root of the first file leads: to the second one. -/
theorem next_firstOfTwo {place : Place} {t : Site} (hplain : PlainAt twoFiles "file:///y.json")
    (hplace : place.Reads twoFiles fun _ => True) (hdocument : place.document = "file:///x.json")
    (ht : Next twoFiles none ⟨place, rootPosition, firstOfTwo⟩ t) :
    t.place.document = "file:///y.json" ∧ t.value = .integer 1 := by
  obtain ⟨reference, href, p, fragment, hn, hlead⟩ := noted_of_next ht
  obtain rfl : reference = "y.json" := List.mem_singleton.mp href
  obtain ⟨-, -, hsecond, hone⟩ := stand_twoFiles
  rw [hdocument, hsecond] at hn
  have hd := (Prod.mk.inj (Except.ok.inj hn)).1.symm
  have hnoted : place.resolver.target "y.json" = noted place.document "y.json" := by
    rw [target_eq_noted rfl, hplace.base]
  obtain ⟨-, hstands, -⟩ := reads_of_lead hplace.knows hnoted hlead trivial (hd ▸ hplain)
  rw [hdocument, hone] at hstands
  exact ⟨hd, (Prod.mk.inj (Option.some.inj hstands)).2.symm⟩

/-- All that the first file comes to is plain, and none of it goes by the name of a schema in memory. -/
theorem plain_firstOfTwo {s t : Site}
    (hs : rootSite twoFiles firstOfTwo (Path.absolute ["x.json"]).parent "x.json" = .ok s)
    (ht : ReflTransGen (Next twoFiles none) s t) :
    t.Plain twoFiles ∧ t.place.document ≠ "file:///schema.json" := by
  obtain ⟨hfileFirst, hfileSecond, -⟩ := stand_twoFiles
  have hfirst : PlainAt twoFiles "file:///x.json" :=
    hfileFirst.plainAt (by decide) (r := ⟨.draft4, firstOfTwo⟩) rfl (by decide)
  have hsecond : PlainAt twoFiles "file:///y.json" :=
    hfileSecond.plainAt (by decide) (r := ⟨.draft4, .integer 1⟩) rfl (by decide)
  obtain ⟨place, hplace, rfl⟩ := hfileFirst.rootSite_eq hs
  have hdocument : place.document = "file:///x.json" := by
    obtain ⟨r, -, -, rfl⟩ := rootPlace_eq_ok.mp hplace
    rfl
  rcases ReflTransGen.cases_head ht with rfl | ⟨u, hu, hut⟩
  · have hat : resourceAt? twoFiles "file:///x.json" = some ⟨.draft4, firstOfTwo⟩ :=
      hfileFirst.resourceAt?_eq rfl
    refine ⟨⟨hdocument ▸ hfirst, fun reference href hf => ?_, fun _ _ _ r hr => ?_⟩, ?_⟩
    · rw [List.mem_singleton.mp href] at hf
      cases hf
    · dsimp only at hr ⊢
      rw [hdocument] at hr ⊢
      obtain rfl := Option.some.inj (hat.symm.trans hr)
      exact ⟨_, rfl⟩
    · simp [hdocument]
  · obtain ⟨hd, hv⟩ := next_firstOfTwo hsecond (hfileFirst.reads hplace hfirst trivial)
      hdocument hu
    have hnone : references u.value = [] := by rw [hv]; rfl
    rcases ReflTransGen.cases_head hut with rfl | ⟨x, hx, -⟩
    · refine ⟨⟨hd ▸ hsecond, fun _ href => ?_, fun _ href => ?_⟩, by simp [hd]⟩
      · rw [hnone] at href
        cases href
      · rw [hnone] at href
        cases href
    · obtain ⟨reference, href, -⟩ := noted_of_next hx
      rw [hnone] at href
      cases href

/-- In memory the first file means what it means alone. -/
theorem expandAt_reference_in_memory :
    dereferenceWithin 1 none twoFiles firstOfTwo (Path.absolute ["x.json"]).parent "x.json"
        = .ok (.mapping [(.text "a", .integer 1)]) ∧
      ∃ place, rootPlace "file:///schema.json" namesFirst = .ok place ∧
        expandAt twoFiles none 2 place rootPosition namesFirst
          = .ok (.mapping [(.text "a", .integer 1)]) := by
  have halone : dereferenceWithin 1 none twoFiles firstOfTwo (Path.absolute ["x.json"]).parent
      "x.json" = .ok (.mapping [(.text "a", .integer 1)]) := by decide +kernel
  have huri : rootUri twoFiles (.absolute []) unnamed = .ok "file:///schema.json" := by
    decide +kernel
  have hplace : rootPlace "file:///schema.json" namesFirst
      = .ok ⟨⟨({} : Registry).add "file:///schema.json" ⟨.draft4, namesFirst⟩,
          "file:///schema.json", []⟩, "file:///schema.json", []⟩ := rfl
  exact ⟨halone, _, hplace, expandAt_reference huri hplace (by decide +kernel) ⟨_, rfl⟩ rfl
    (by decide +kernel) stand_twoFiles.1 halone (fun s t hs ht => ⟨(plain_firstOfTwo hs ht).1,
      fun hd => absurd hd (plain_firstOfTwo hs ht).2⟩) none rootPosition (by decide)⟩

/-- Two files of one name, one of them in a directory of its own, with a reference to its name. -/
def sameNames : Disk :=
  ⟨⟨[(["s"], .directory),
    (["s", "x.json"], .file (bytesOf "\x7b\"a\":\x7b\"$ref\":\"x.json\"\x7d\x7d")),
    (["x.json"], .file (bytesOf "1"))]⟩, .absolute []⟩

/-- What the file in the directory holds. -/
def namesItself : Value := .mapping [(.text "a", .mapping [(.text "$ref", .text "x.json")])]

/-- **A file of the document's own name is not read.** Seen from the directory above, the reference
leads to the other file, which alone means what it holds. But the document goes by the URI of that
file, so that the reference is taken for one to the document itself, and is circular. -/
theorem circular_of_same_name :
    Load.file sameNames (.absolute ["s", "x.json"]) = .ok namesItself ∧
      rootUri sameNames (.absolute []) "x.json" = .ok "file:///x.json" ∧
      joined "file:///x.json" "x.json" = .ok "file:///x.json" ∧
      FileAt sameNames "file:///x.json" (.absolute ["x.json"]) (.integer 1) ∧
      dereference sameNames (.integer 1) (Path.absolute ["x.json"]).parent "x.json"
        = .ok (.integer 1) ∧
      dereference sameNames namesItself (.absolute []) "x.json"
        = .error (.circular "x.json" "file:///x.json") := by
  refine ⟨by decide +kernel, by decide +kernel, by decide +kernel, ⟨by decide +kernel, ?_,
    by decide +kernel⟩, by decide +kernel, by decide +kernel⟩
  exact ⟨⟨"file".toList, [], "/x.json".toList, [], []⟩, by decide +kernel, rfl, by decide +kernel⟩

end SchemaDoc.Reference
