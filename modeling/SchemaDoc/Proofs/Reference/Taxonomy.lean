/-
SchemaDoc.Proofs.Reference.Taxonomy — the ways in which carrying out a document fails.

A reference that leads nowhere is reported as such. A fault is something else:
it is met where a text makes no URI, where a pointer asks an item of a list for
a name or a number for a part, and where the documents that are known are
looked into and one of them holds something else than schemas under the
keywords for them. For documents that say nothing of themselves these are all
the faults there are (`lead_fault_iff`). A run fails as one of the references
does that it comes to (`expand_error_iff`), and so it fails with anything but an
unresolved reference exactly if it comes to a reference of these kinds, or does
not end, or does not begin.

§1 pointers, §2 look-ups, §3 places, §4 sites, §5 runs, §6 documents.
-/
import SchemaDoc.Proofs.Reference.Anonymous
import SchemaDoc.Proofs.Reference.Arising

namespace SchemaDoc.Reference

open Relation

/-! ## §1 Pointers -/

variable {v : Value}

/-- A segment of a pointer is not admitted at a value: the value is indexed by numbers and the
segment is none, or it has no parts at all. -/
def Blocks (v : Value) (segment : List Char) : Prop :=
  match Resolver.indexed? v with
  | some _ => ∀ i, Reading.integer 10 (String.ofList segment) ≠ .ok i
  | none => v.isMapping = false

theorem faults_error {α : Type} {stop : Stop} :
    Faults (.error stop : Except Stop α) ↔ ∃ f, stop = .fault f := by
  simp [Faults]

theorem not_faults_ok {α : Type} (a : α) : ¬Faults (.ok a : Except Stop α) := by
  rintro ⟨_, ⟨⟩⟩

theorem not_faults_nowhere {α : Type} (reason : String) :
    ¬Faults (.error (.nowhere reason) : Except Stop α) := by
  rintro ⟨_, ⟨⟩⟩

theorem stepInto_fault_iff (hv : Anonymous v) (segment : List Char) :
    Faults (Resolver.stepInto v segment) ↔ Blocks v segment := by
  rw [Resolver.stepInto, Blocks]
  cases Resolver.indexed? v with
  | some items =>
    cases hi : Reading.integer 10 (String.ofList segment) with
    | error f => exact iff_of_true ⟨f, rfl⟩ (by rintro i ⟨⟩)
    | ok i => exact iff_of_false (not_faults_ok _) fun h => h i rfl
  | none =>
    simp only [bare_of_anonymous hv]
    split
    · exact iff_of_false (not_faults_ok _) (by rintro ⟨⟩)
    · rename_i hne
      refine iff_of_true ⟨_, rfl⟩ ?_
      by_contra hm
      obtain ⟨entries, he⟩ := exists_entries hv (by simpa using hm)
      exact hne entries he

/-- A pointer is not admitted: a segment of it is blocked, or it passes a value at a place for
schemas that cannot be asked for a name. -/
inductive Strays : List (List Char) → List (Option String) → Value → Prop
  | blocked {segment : List Char} {rest : List (List Char)} {names : List (Option String)}
      {v : Value} : Blocks v segment → Strays (segment :: rest) names v
  | unaskable {segment : List Char} {rest : List (List Char)} {names : List (Option String)}
      {v w : Value} {name : Option String} :
      Resolver.stepInto v segment = .ok (some (w, name)) →
      Dialect.draft4.leadsToSchema w.isMapping (names ++ [name]) = true → Unaskable w →
      Strays (segment :: rest) names v
  | further {segment : List Char} {rest : List (List Char)} {names : List (Option String)}
      {v w : Value} {name : Option String} :
      Resolver.stepInto v segment = .ok (some (w, name)) → Strays rest (names ++ [name]) w →
      Strays (segment :: rest) names v

/-- A resolver goes into a value that says nothing of itself without a new base. -/
theorem inside_cases (hv : Anonymous v) (q : Resolver) :
    q.inside ⟨.draft4, v⟩ = .ok none ∧ ¬Unaskable v ∨
      (∃ f, q.inside ⟨.draft4, v⟩ = .error f) ∧ Unaskable v := by
  unfold Resolver.inside
  rcases name?_cases hv with ⟨hn, hv⟩ | ⟨⟨f, hn⟩, hv⟩
  · rw [hn]
    exact Or.inl ⟨rfl, hv⟩
  · rw [hn]
    exact Or.inr ⟨⟨f, rfl⟩, hv⟩

theorem strays_cons_iff {segment : List Char} {rest : List (List Char)}
    {names : List (Option String)} {w : Value} {name : Option String} (hv : Anonymous v)
    (hs : Resolver.stepInto v segment = .ok (some (w, name))) :
    Strays (segment :: rest) names v ↔
      Dialect.draft4.leadsToSchema w.isMapping (names ++ [name]) = true ∧ Unaskable w ∨
        Strays rest (names ++ [name]) w := by
  constructor
  · intro h
    cases h with
    | blocked hb =>
      obtain ⟨f, hf⟩ := (stepInto_fault_iff hv segment).mpr hb
      cases hs.symm.trans hf
    | unaskable hs' hl hu =>
      cases hs.symm.trans hs'
      exact Or.inl ⟨hl, hu⟩
    | further hs' h =>
      cases hs.symm.trans hs'
      exact Or.inr h
  · rintro (⟨hl, hu⟩ | h)
    · exact .unaskable hs hl hu
    · exact .further hs h

/-- Where a pointer comes to nothing, all that matters is whether it is blocked there. -/
theorem strays_cons_of_not_found {segment : List Char} {rest : List (List Char)}
    {names : List (Option String)}
    (hs : ∀ found, Resolver.stepInto v segment ≠ .ok (some found)) :
    Strays (segment :: rest) names v ↔ Blocks v segment := by
  refine ⟨fun h => ?_, .blocked⟩
  cases h with
  | blocked hb => exact hb
  | unaskable hs' => exact absurd hs' (hs _)
  | further hs' => exact absurd hs' (hs _)

/-- **A pointer meets a fault exactly if it strays.** -/
theorem follow_fault_iff (pointer : String) (q : Resolver) :
    ∀ {segments : List (List Char)} {names : List (Option String)} {v : Value}, Anonymous v →
      (Faults (q.follow .draft4 pointer segments names v) ↔ Strays segments names v) := by
  intro segments
  induction segments with
  | nil => exact fun _ => iff_of_false (not_faults_ok _) (by rintro ⟨⟩)
  | cons segment rest ih =>
    intro names v hv
    have hblocks := stepInto_fault_iff hv segment
    rw [Resolver.follow]
    cases hs : Resolver.stepInto v segment with
    | error stop =>
      rw [strays_cons_of_not_found (by simp [hs]), ← hblocks, hs]
      exact faults_error.trans faults_error.symm
    | ok found =>
      cases found with
      | none =>
        rw [strays_cons_of_not_found (by simp [hs]), ← hblocks, hs]
        exact iff_of_false (not_faults_nowhere _) (not_faults_ok _)
      | some found =>
        obtain ⟨w, name⟩ := found
        have hw : Anonymous w := yields_stepInto ofStructure_isAnonymousPart hv _ hs _ rfl
        rw [strays_cons_iff hv hs, ← ih hw]
        simp only [ok_bind]
        split
        · rename_i hl
          rcases inside_cases hw q with ⟨hi, hu⟩ | ⟨⟨f, hi⟩, hu⟩
          · simp [hi, orStop, hu]
          · exact iff_of_true ⟨f, by rw [hi]; rfl⟩ (Or.inl ⟨hl, hu⟩)
        · rename_i hl
          simp [hl]

/-! ## §2 Look-ups -/

/-- The segments of a fragment that is a pointer. -/
def segmentsOf (fragment : String) : List (List Char) :=
  Text.cutAt '/' (Uri.unescape (String.ofList (fragment.toList.drop 1))).toList

variable {disk : Disk} {q : Resolver} {p : Position} {reference : String}

/-- A reference cannot be looked up, but not because it leads nowhere. -/
inductive Resolver.Baffled (disk : Disk) (q : Resolver) (p : Position) (reference : String) : Prop
  /-- It makes no URI together with the base. -/
  | malformed {f : Fault} : q.target reference = .error f → q.Baffled disk p reference
  /-- Its document is not known, and one that is known cannot be looked into. -/
  | unsearched {uri fragment : String} : q.target reference = .ok (uri, fragment) →
      q.registry.find? uri = none → ¬q.registry.Searchable → q.Baffled disk p reference
  /-- Its pointer strays in its document. -/
  | strayed {uri fragment : String} {g : Registry} {r : Resource} :
      q.target reference = .ok (uri, fragment) → q.registry.fetch disk p uri = .ok (g, r) →
      fragment.toList.head? = some '/' → Strays (segmentsOf fragment) [] r.contents →
      q.Baffled disk p reference
  /-- It asks for an anchor, and a document that is known by then cannot be looked into. -/
  | unanchored {uri fragment : String} {g : Registry} {r : Resource} :
      q.target reference = .ok (uri, fragment) → q.registry.fetch disk p uri = .ok (g, r) →
      fragment.toList.head? ≠ some '/' → fragment ≠ "" → ¬g.Searchable →
      q.Baffled disk p reference

/-- What is read for a reference whose document is not known says nothing of itself. -/
def Resolver.ReadsAnonymous (disk : Disk) (q : Resolver) (p : Position) (reference : String) :
    Prop :=
  ∀ uri fragment r, q.target reference = .ok (uri, fragment) → q.registry.find? uri = none →
    Registry.retrieve disk p uri = .ok r → Anonymous r.contents

section

variable {uri fragment : String} {g : Registry} {r : Resource}

/-- Where a document is not found, all that matters is whether what is known can be looked into. -/
theorem Resolver.baffled_iff_of_stopped {stop : Stop} (hq : q.registry.Anonymous)
    (ht : q.target reference = .ok (uri, fragment))
    (hf : q.registry.fetch disk p uri = .error stop) :
    q.Baffled disk p reference ↔ ∃ f, stop = .fault f := by
  rw [← @faults_error (Registry × Resource), ← hf, hq.fetch_fault_iff]
  constructor
  · intro h
    cases h with
    | malformed h => cases ht.symm.trans h
    | unsearched h hnew hs =>
      cases ht.symm.trans h
      exact ⟨hnew, hs⟩
    | strayed h h' =>
      cases ht.symm.trans h
      cases hf.symm.trans h'
    | unanchored h h' =>
      cases ht.symm.trans h
      cases hf.symm.trans h'
  · exact fun ⟨hnew, hs⟩ => .unsearched ht hnew hs

/-- Where it is found, all that matters is what is asked of it. -/
theorem Resolver.baffled_iff_of_found (hq : q.registry.Anonymous)
    (ht : q.target reference = .ok (uri, fragment))
    (hf : q.registry.fetch disk p uri = .ok (g, r)) :
    q.Baffled disk p reference ↔
      fragment.toList.head? = some '/' ∧ Strays (segmentsOf fragment) [] r.contents ∨
        fragment.toList.head? ≠ some '/' ∧ fragment ≠ "" ∧ ¬g.Searchable := by
  constructor
  · intro h
    cases h with
    | malformed h => cases ht.symm.trans h
    | unsearched h hnew hs =>
      cases ht.symm.trans h
      have hfaults : Faults (q.registry.fetch disk p uri) := hq.fetch_fault_iff.mpr ⟨hnew, hs⟩
      obtain ⟨f, hfault⟩ := hfaults
      cases hf.symm.trans hfault
    | strayed h h' hslash hs =>
      cases ht.symm.trans h
      cases hf.symm.trans h'
      exact Or.inl ⟨hslash, hs⟩
    | unanchored h h' hslash hempty hs =>
      cases ht.symm.trans h
      cases hf.symm.trans h'
      exact Or.inr ⟨hslash, hempty, hs⟩
  · rintro (⟨hslash, hs⟩ | ⟨hslash, hempty, hs⟩)
    · exact .strayed ht hf hslash hs
    · exact .unanchored ht hf hslash hempty hs

theorem pointer_fault_iff (hr : r.Anonymous) :
    Faults (q.pointer r fragment) ↔ Strays (segmentsOf fragment) [] r.contents := by
  rw [Resolver.pointer, hr.dialect]
  exact follow_fault_iff _ _ hr.contents

end

/-- **A look-up meets a fault exactly if it is baffled.** -/
theorem lookUp_fault_iff (hq : q.registry.Anonymous) (hread : q.ReadsAnonymous disk p reference) :
    Faults (q.lookUp disk p reference) ↔ q.Baffled disk p reference := by
  rw [Resolver.lookUp]
  cases ht : q.target reference with
  | error f => exact iff_of_true ⟨f, rfl⟩ (.malformed ht)
  | ok target =>
    obtain ⟨uri, fragment⟩ := target
    simp only [orStop, mapError_ok, ok_bind]
    cases hf : q.registry.fetch disk p uri with
    | error stop => exact faults_error.trans (q.baffled_iff_of_stopped hq ht hf).symm
    | ok found =>
      obtain ⟨g, r⟩ := found
      obtain ⟨hg, hr⟩ := hq.yields_fetch (fun hnew r => hread uri fragment r ht hnew) _ hf
      rw [q.baffled_iff_of_found hq ht hf]
      simp only [ok_bind]
      split
      · rename_i hslash
        rw [pointer_fault_iff hr]
        simp [hslash]
      · rename_i hslash
        split
        · rename_i hempty
          exact iff_of_false (not_faults_ok _) (by simp [hempty])
        · rename_i hempty
          rcases hg.anchor_cases uri fragment with ⟨⟨reason, ha⟩, hs⟩ | ⟨⟨f, ha⟩, hs⟩
          · rw [ha]
            exact iff_of_false (not_faults_nowhere _) (by simp [hslash, hs])
          · rw [ha]
            exact iff_of_true ⟨f, rfl⟩ (Or.inr ⟨hslash, hempty, hs⟩)

/-- What is found says nothing of itself, nor does anything that is known then. -/
theorem yields_lookUp_anonymous (hq : q.registry.Anonymous)
    (hread : q.ReadsAnonymous disk p reference) :
    Yields (fun x => Anonymous x.1 ∧ x.2.registry.Anonymous) (q.lookUp disk p reference) := by
  intro x hx
  obtain ⟨⟨uri, fragment⟩, ht, hx⟩ := bind_eq_ok.mp hx
  obtain ⟨⟨g, r⟩, hf, hx⟩ := bind_eq_ok.mp hx
  have ht := mapError_eq_ok.mp ht
  obtain ⟨hg, hr⟩ := hq.yields_fetch (fun hnew r => hread uri fragment r ht hnew) _ hf
  dsimp only at hx
  split at hx
  · obtain ⟨hpart, hsame⟩ := yields_pointer ofStructure_isAnonymousPart hr.contents _ hx
    exact ⟨hpart, hsame ▸ hg⟩
  split at hx
  · cases hx
    exact ⟨hr.contents, hg⟩
  · obtain ⟨found, ha, -⟩ := bind_eq_ok.mp hx
    rcases hg.anchor_cases uri fragment with ⟨⟨reason, h⟩, -⟩ | ⟨⟨f, h⟩, -⟩
    · cases ha.symm.trans h
    · cases ha.symm.trans h

/-! ## §3 Places -/

variable {here : Place} {earlier : Option String}

/-- A reference at a place is baffled: it makes no URI together with the document that it is written
in, or it is not being carried out and its look-up is baffled, or the URI that it makes does not
come apart again. -/
inductive Place.Baffled (disk : Disk) (here : Place) (p : Position) (reference : String) : Prop
  | malformed {f : Fault} : joined here.document reference = .error f →
      here.Baffled disk p reference
  | lookUp {target : String} : joined here.document reference = .ok target →
      target ∉ here.trail → here.resolver.Baffled disk p reference → here.Baffled disk p reference
  | uncut {target : String} {x : Value × Resolver} {m : Uri.Malformed} :
      joined here.document reference = .ok target → target ∉ here.trail →
      here.resolver.lookUp disk p reference = .ok x → Uri.cutFragment target = .error m →
      here.Baffled disk p reference

/-- A failure is one to resolve a reference. -/
def IsUnresolved (f : Failure) : Prop := f.category = .resolution ∨ f.category = .missingReference

/-- A computation fails, but not to resolve a reference. -/
def Escapes {α : Type} (x : Except Failure α) : Prop := ∃ f, x = .error f ∧ ¬IsUnresolved f

theorem not_isUnresolved_fault (f : Fault) : ¬IsUnresolved (.fault f) := by
  rintro (h | h) <;> cases h

theorem not_escapes_ok {α : Type} (a : α) : ¬Escapes (.ok a : Except Failure α) :=
  fun ⟨_, h, _⟩ => nomatch h

theorem escapes_error {α : Type} {f : Failure} :
    Escapes (.error f : Except Failure α) ↔ ¬IsUnresolved f := by
  simp [Escapes]

theorem escapes_bind {α β : Type} {x : Except Failure α} {f : α → Except Failure β} :
    Escapes (x >>= f) ↔ Escapes x ∨ ∃ a, x = .ok a ∧ Escapes (f a) := by
  cases x with
  | ok a => simp [not_escapes_ok]
  | error e => simp [escapes_error]

theorem escapes_orFail {α : Type} {x : Except Fault α} :
    Escapes (orFail x) ↔ ∃ f, x = .error f := by
  cases x with
  | ok a => exact iff_of_false (not_escapes_ok a) nofun
  | error f => exact iff_of_true ⟨_, rfl, not_isUnresolved_fault f⟩ ⟨f, rfl⟩

/-- A reference that leads nowhere is reported so, with or without an earlier attempt. -/
theorem escapes_toFailure {α : Type} {document : String} {x : Except Stop α} :
    Escapes (x.mapError (Stop.toFailure reference document earlier)) ↔ Faults x := by
  cases x with
  | ok a => exact iff_of_false (not_escapes_ok a) (not_faults_ok a)
  | error stop =>
    rw [mapError_error, escapes_error, faults_error]
    cases stop with
    | missing path => exact iff_of_false (not_not_intro (Or.inr rfl)) nofun
    | nowhere reason =>
      refine iff_of_false (not_not_intro ?_) nofun
      cases earlier with
      | none => exact Or.inl rfl
      | some path => exact Or.inr rfl
    | fault f => exact iff_of_true (not_isUnresolved_fault f) ⟨f, rfl⟩

theorem lead_of_fresh {target : String} (ht : joined here.document reference = .ok target)
    (hnew : target ∉ here.trail) : here.lead disk earlier p reference = (do
      let (contents, resolver) ← (here.resolver.lookUp disk p reference).mapError
        (Stop.toFailure reference here.document earlier)
      let (document, _) ← orFail ((Uri.cutFragment target).mapError .malformedUri)
      return (⟨resolver, document, target :: here.trail⟩, contents)) := by
  rw [Place.lead, ht]
  have hno : here.trail.contains target = false := by simpa using hnew
  simp only [orFail, mapError_ok, ok_bind, hno]
  rfl

/-- **Following a reference fails otherwise than by its leading nowhere exactly if it is
baffled.** -/
theorem lead_escapes_iff (hq : here.resolver.registry.Anonymous)
    (hread : here.resolver.ReadsAnonymous disk p reference) :
    Escapes (here.lead disk earlier p reference) ↔ here.Baffled disk p reference := by
  cases ht : joined here.document reference with
  | error f =>
    refine iff_of_true ⟨.fault f, ?_, not_isUnresolved_fault f⟩ (.malformed ht)
    rw [Place.lead, ht]
    rfl
  | ok target =>
    by_cases hnew : target ∈ here.trail
    · have hcircular : here.lead disk earlier p reference
          = .error (.circular reference here.document) := by
        rw [Place.lead, ht]
        simp only [orFail, mapError_ok, ok_bind, List.contains_iff_mem.mpr hnew, if_true]
        rfl
      rw [hcircular]
      refine iff_of_false (fun h => escapes_error.mp h (Or.inl rfl)) fun h => ?_
      cases h with
      | malformed h => cases ht.symm.trans h
      | lookUp h hfresh =>
        cases ht.symm.trans h
        exact hfresh hnew
      | uncut h hfresh =>
        cases ht.symm.trans h
        exact hfresh hnew
    · rw [lead_of_fresh ht hnew, escapes_bind, escapes_toFailure, lookUp_fault_iff hq hread]
      constructor
      · rintro (h | ⟨x, hx, h⟩)
        · exact .lookUp ht hnew h
        · rcases escapes_bind.mp h with h | ⟨cut, -, h⟩
          · obtain ⟨f, hf⟩ := escapes_orFail.mp h
            cases hc : Uri.cutFragment target with
            | ok cut =>
              rw [hc] at hf
              cases hf
            | error m => exact .uncut ht hnew (mapError_eq_ok.mp hx) hc
          · exact absurd h (not_escapes_ok _)
      · intro h
        cases h with
        | malformed h => cases ht.symm.trans h
        | lookUp _ _ h => exact Or.inl h
        | uncut h _ hx hc =>
          cases ht.symm.trans h
          refine Or.inr ⟨_, mapError_eq_ok.mpr hx, escapes_bind.mpr (Or.inl ?_)⟩
          exact escapes_orFail.mpr ⟨_, by rw [hc]; rfl⟩

/-! ## §4 Sites -/

/-- A site at which nothing says anything of itself, neither its value nor what is known there. -/
structure Site.Anonymous (s : Site) : Prop where
  value : Reference.Anonymous s.value
  registry : s.place.resolver.registry.Anonymous

/-- What is read for the references that are asked for at a site says nothing of itself. -/
def Site.ReadsAnonymous (disk : Disk) (earlier : Option String) (s : Site) : Prop :=
  ∀ hops, ∀ a ∈ s.asked disk earlier hops, s.place.resolver.ReadsAnonymous disk a.1 a.2

/-- A reference leads to such a site again. -/
theorem Site.Anonymous.next {s t : Site} (hs : s.Anonymous)
    (hread : s.ReadsAnonymous disk earlier) (h : Next disk earlier s t) : t.Anonymous := by
  obtain ⟨hops, h⟩ := h
  obtain ⟨⟨q, reference⟩, ha, -, hlead⟩ := mem_next.mp h
  unfold Place.lead at hlead
  obtain ⟨target, -, hlead⟩ := bind_eq_ok.mp hlead
  split at hlead
  · cases hlead
  obtain ⟨⟨contents, resolver⟩, hfound, hlead⟩ := bind_eq_ok.mp hlead
  obtain ⟨⟨uri, fragment⟩, -, hlead⟩ := bind_eq_ok.mp hlead
  obtain ⟨hcontents, hregistry⟩ := yields_lookUp_anonymous hs.registry (hread hops _ ha) _
    (mapError_eq_ok.mp hfound)
  obtain ⟨place, position, value⟩ := t
  cases hlead
  exact ⟨hcontents, hregistry⟩

/-! ## §5 Runs -/

/-- Where a run fails that ends: at a reference that cannot be followed, or behind one. -/
theorem expand_succ_error {s : Site} {hops : Nat} {f : Failure} (hends : f ≠ tooDeep) :
    s.expand disk earlier (hops + 1) = .error f ↔
      (∃ a ∈ s.asked disk earlier (hops + 1),
        s.place.lead disk earlier a.1 a.2 = .error f) ∨
      ∃ t ∈ s.next disk earlier (hops + 1), t.expand disk earlier hops = .error f := by
  rw [Site.expand, expandAt_eq_inline, inline_eq_error, Fails, or_iff_left fun h => hends h.1]
  constructor
  · rintro ⟨⟨q, r⟩, ha, hf⟩
    rw [followAt_succ] at hf
    rcases bind_eq_error.mp hf with hf | ⟨⟨there, contents⟩, hlead, hf⟩
    · exact Or.inl ⟨(q, r), ha, hf⟩
    · exact Or.inr ⟨⟨there, 0 :: q, contents⟩, mem_next.mpr ⟨(q, r), ha, rfl, hlead⟩, hf⟩
  · rintro (⟨a, ha, hf⟩ | ⟨t, ht, hf⟩)
    · exact ⟨a, ha, by rw [followAt_succ, hf, error_bind]⟩
    · obtain ⟨⟨q, r⟩, ha, hp, hlead⟩ := mem_next.mp ht
      refine ⟨(q, r), ha, ?_⟩
      rw [followAt_succ, hlead, ok_bind]
      rw [Site.expand, hp] at hf
      exact hf

/-- Where the hops do not run out, all that is asked for with other ones is asked for. -/
theorem asked_of_asked {s : Site} {hops more : Nat}
    (hne : s.expand disk earlier hops ≠ .error tooDeep) {a : Position × String}
    (ha : a ∈ s.asked disk earlier more) : a ∈ s.asked disk earlier hops := by
  rw [← (expand_stable (Nat.le_max_left hops more) hne).2]
  exact (extends_followAt (Nat.le_max_right hops more) s.place).asked_subset s.position s.value ha

/-- **A run that ends fails exactly as one of the references does that it comes to.** -/
theorem expand_error_iff {s : Site} {hops : Nat} {f : Failure}
    (hne : s.expand disk earlier hops ≠ .error tooDeep) :
    s.expand disk earlier hops = .error f ↔
      ∃ t more, ReflTransGen (Next disk earlier) s t ∧ ∃ a ∈ t.asked disk earlier more,
        t.place.lead disk earlier a.1 a.2 = .error f := by
  by_cases hends : f = tooDeep
  · subst hends
    exact iff_of_false hne fun ⟨t, _, _, a, _, hf⟩ => never_lead disk earlier t.place a.1 a.2 hf
  induction hops generalizing s with
  | zero =>
    have hnone := asked_of_expand_zero hne
    constructor
    · rw [Site.expand, expandAt_eq_inline, inline_eq_error, Fails, or_iff_left fun h => hends h.1]
      rintro ⟨a, ha, -⟩
      rw [← Site.asked, hnone] at ha
      cases ha
    · rintro ⟨t, more, hst, a, ha, -⟩
      rcases ReflTransGen.cases_head hst with rfl | ⟨u, hu, -⟩
      · have ha := asked_of_asked hne ha
        rw [hnone] at ha
        cases ha
      · obtain ⟨a, ha, -⟩ := mem_next.mp (hu.mem_next hne)
        rw [hnone] at ha
        cases ha
  | succ hops ih =>
    have hdeep {t : Site} (ht : t ∈ s.next disk earlier (hops + 1)) :
        t.expand disk earlier hops ≠ .error tooDeep :=
      fun h => hne (expand_eq_tooDeep.mpr (Or.inl ⟨t, ht, h⟩))
    rw [expand_succ_error hends]
    constructor
    · rintro (⟨a, ha, hf⟩ | ⟨t, ht, hf⟩)
      · exact ⟨s, hops + 1, .refl, a, ha, hf⟩
      · obtain ⟨u, more, htu, hu⟩ := (ih (hdeep ht)).mp hf
        exact ⟨u, more, .head ⟨hops + 1, ht⟩ htu, hu⟩
    · rintro ⟨t, more, hst, a, ha, hf⟩
      rcases ReflTransGen.cases_head hst with rfl | ⟨u, hu, hut⟩
      · exact Or.inl ⟨a, asked_of_asked hne ha, hf⟩
      · have hu := hu.mem_next hne
        exact Or.inr ⟨u, hu, (ih (hdeep hu)).mpr ⟨t, more, hut, a, ha, hf⟩⟩

/-! ## §6 Documents -/

variable {document : Value} {base : Path} {name : String}

/-- A value is read from a file for a reference that carrying out a document comes to, since no
document is known by its URI. -/
def Referenced (disk : Disk) (earlier : Option String) (document : Value) (base : Path)
    (name : String) (contents : Value) : Prop :=
  ∃ t hops a uri fragment r, Comes disk earlier document base name t ∧
    a ∈ t.asked disk earlier hops ∧ t.place.resolver.target a.2 = .ok (uri, fragment) ∧
    t.place.resolver.registry.find? uri = none ∧
    Registry.retrieve disk a.1 uri = .ok r ∧ r.contents = contents

theorem readsAnonymous_of_referenced
    (hfiles : ∀ v, Referenced disk earlier document base name v → Anonymous v) {t : Site}
    (ht : Comes disk earlier document base name t) : t.ReadsAnonymous disk earlier :=
  fun hops a ha uri fragment r htarget hnew hr =>
    hfiles _ ⟨t, hops, a, uri, fragment, r, ht, ha, htarget, hnew, hr, rfl⟩

/-- The root of a document that says nothing of itself is wherever it has a URI. -/
theorem rootSite_of_anonymous (disk : Disk) (base : Path) (name : String)
    (hdocument : Anonymous document) :
    rootSite disk document base name = (orFail (rootUri disk base name)).map fun uri =>
      ⟨⟨⟨({} : Registry).add uri ⟨.draft4, document⟩, uri, []⟩, uri, []⟩, rootPosition,
        document⟩ := by
  rw [rootSite]
  cases rootUri disk base name with
  | error f => rfl
  | ok uri =>
    simp only [orFail, mapError_ok, ok_bind, rootPlace, ofValue_of_anonymous hdocument]
    rfl

theorem anonymous_of_comes (hdocument : Anonymous document)
    (hfiles : ∀ v, Referenced disk earlier document base name v → Anonymous v) {t : Site}
    (ht : Comes disk earlier document base name t) : t.Anonymous := by
  obtain ⟨s, hs, hst⟩ := ht
  have hroot : s.Anonymous := by
    have h := hs
    rw [rootSite_of_anonymous _ _ _ hdocument] at h
    obtain ⟨uri, -, rfl⟩ := map_eq_ok.mp h
    exact ⟨hdocument, Registry.anonymous_empty.add uri ⟨rfl, hdocument⟩⟩
  induction hst with
  | refl => exact hroot
  | tail hsu hnext ih =>
    exact ih.next (readsAnonymous_of_referenced hfiles ⟨s, hs, hsu⟩) hnext

/-- A computation gives a result or fails to resolve a reference. -/
def FailsInResolution {α : Type} (x : Except Failure α) : Prop :=
  ∀ f, x = .error f → IsUnresolved f

/-- **A document that says nothing of itself is carried out or a reference fails to be resolved**,
if what its references read is of this kind too, exactly if the directory leads to a URI, the hops
do not run out and no reference that is come to is baffled. -/
theorem dereferenceWithin_failsInResolution_iff (hops : Nat) (earlier : Option String) (disk : Disk)
    (document : Value) (base : Path) (name : String) (hdocument : Anonymous document)
    (hfiles : ∀ v, Referenced disk earlier document base name v → Anonymous v) :
    FailsInResolution (dereferenceWithin hops earlier disk document base name) ↔
      (∃ uri, rootUri disk base name = .ok uri) ∧
      dereferenceWithin hops earlier disk document base name ≠ .error tooDeep ∧
      ∀ t, Comes disk earlier document base name t → ∀ more, ∀ a ∈ t.asked disk earlier more,
        ¬t.place.Baffled disk a.1 a.2 := by
  rw [dereferenceWithin_eq]
  have hroot := rootSite_of_anonymous disk base name hdocument
  cases hu : rootUri disk base name with
  | error f =>
    rw [hroot, hu]
    refine iff_of_false (fun h => not_isUnresolved_fault f (h _ rfl)) ?_
    rintro ⟨⟨uri, h⟩, -⟩
    cases h
  | ok uri =>
    rw [hu] at hroot
    rw [hroot]
    simp only [orFail, mapError_ok, Except.map, ok_bind] at hroot ⊢
    have hlead {t : Site} (ht : Comes disk earlier document base name t) {more : Nat}
        {a : Position × String} (ha : a ∈ t.asked disk earlier more) :
        Escapes (t.place.lead disk earlier a.1 a.2) ↔ t.place.Baffled disk a.1 a.2 :=
      lead_escapes_iff (anonymous_of_comes hdocument hfiles ht).registry
        (readsAnonymous_of_referenced hfiles ht more a ha)
    constructor
    · intro h
      have hne := fun he => not_isUnresolved_fault .tooDeep (h _ he)
      refine ⟨⟨uri, rfl⟩, hne, fun t ht more a ha hbaffled => ?_⟩
      obtain ⟨f, hf, hescapes⟩ := (hlead ht ha).mpr hbaffled
      obtain ⟨s, hs, hst⟩ := ht
      cases hroot.symm.trans hs
      exact hescapes (h f ((expand_error_iff hne).mpr ⟨t, more, hst, a, ha, hf⟩))
    · rintro ⟨-, hne, hnone⟩ f hf
      obtain ⟨t, more, hst, a, ha, hf⟩ := (expand_error_iff hne).mp hf
      have ht : Comes disk earlier document base name t := ⟨_, hroot, hst⟩
      by_contra hescapes
      exact hnone t ht more a ha ((hlead ht ha).mp ⟨f, hf, hescapes⟩)

/-- Nothing is read for a reference on an empty disk. -/
theorem not_referenced_empty {v : Value} {workingDirectory : Path}
    (h : Referenced ⟨{}, workingDirectory⟩ earlier document base name v) : Anonymous v := by
  obtain ⟨t, hops, a, uri, fragment, r, -, -, -, -, hr, rfl⟩ := h
  exact yields_retrieve (filesHold_empty isAnonymousPart workingDirectory) r hr

/-- A document with a reference to a number in it and one to a file that is not there. -/
def partlyMissing : Value := .mapping [
  (.text "a", .mapping [(.text "$ref", .text "#/b")]), (.text "b", .integer 1),
  (.text "c", .mapping [(.text "$ref", .text "x.json")])]

/-- Neither of these references is baffled: the second one is what the document fails by. -/
theorem dereferenceWithin_failsInResolution_missing :
    Anonymous partlyMissing ∧
      dereferenceWithin 1 none ⟨{}, .absolute []⟩ partlyMissing (.absolute []) unnamed
        = .error (.missingReference "x.json" "file:///schema.json" "/x.json") ∧
      (∀ v, Referenced ⟨{}, .absolute []⟩ none partlyMissing (.absolute []) unnamed v →
        Anonymous v) ∧
      ∀ t, Comes ⟨{}, .absolute []⟩ none partlyMissing (.absolute []) unnamed t →
        ∀ more, ∀ a ∈ t.asked ⟨{}, .absolute []⟩ none more,
          ¬t.place.Baffled ⟨{}, .absolute []⟩ a.1 a.2 := by
  have hdocument : Anonymous partlyMissing := by decide +kernel
  have hmissing : dereferenceWithin 1 none ⟨{}, .absolute []⟩ partlyMissing (.absolute []) unnamed
      = .error (.missingReference "x.json" "file:///schema.json" "/x.json") := by decide +kernel
  refine ⟨hdocument, hmissing, fun v => not_referenced_empty, ?_⟩
  refine ((dereferenceWithin_failsInResolution_iff 1 none ⟨{}, .absolute []⟩ partlyMissing
    (.absolute []) unnamed hdocument fun v => not_referenced_empty).mp ?_).2.2
  rintro f hf
  cases hmissing.symm.trans hf
  exact Or.inr rfl

/-- A pointer that asks a list for a name. -/
def namingItem : Value := .mapping [
  (.text "$ref", .text "#/a/x"), (.text "a", .sequence [.integer 1])]

/-- A pointer that asks a number for a part. -/
def partingNumber : Value := .mapping [
  (.text "$ref", .text "#/a/x"), (.text "a", .integer 1)]

/-- A reference that makes no URI. -/
def unbracketed : Value := .mapping [(.text "$ref", .text "http://[x")]

/-- A pointer past a number at a place for a schema. -/
def passingNumber : Value := .mapping [
  (.text "$ref", .text "#/not/x"), (.text "not", .integer 5)]

/-- A reference to a file, in a document with a number for a list of schemas. -/
def schemaless : Value := .mapping [
  (.text "a", .mapping [(.text "$ref", .text "x.json")]), (.text "allOf", .integer 5)]

/-- A reference to an anchor in such a document. -/
def anchorless : Value := .mapping [
  (.text "a", .mapping [(.text "$ref", .text "#x")]), (.text "allOf", .integer 5)]

/-- **In each of these documents a reference is baffled**, and each fails with the fault that it
meets. -/
theorem dereference_faults :
    (Anonymous namingItem ∧
      dereference ⟨{}, .absolute []⟩ namingItem (.absolute []) unnamed
        = .error (.fault (.notInteger 10 "'x'"))) ∧
    (Anonymous partingNumber ∧
      dereference ⟨{}, .absolute []⟩ partingNumber (.absolute []) unnamed
        = .error (.fault (.noParts .integer))) ∧
    (Anonymous unbracketed ∧
      dereference ⟨{}, .absolute []⟩ unbracketed (.absolute []) unnamed
        = .error (.fault (.malformedUri .unbalancedBrackets))) ∧
    (Anonymous passingNumber ∧
      dereference ⟨{}, .absolute []⟩ passingNumber (.absolute []) unnamed
        = .error (.fault (.noMembers .integer))) ∧
    (Anonymous schemaless ∧
      dereference ⟨{}, .absolute []⟩ schemaless (.absolute []) unnamed
        = .error (.fault (.notIterable .integer))) ∧
    (Anonymous anchorless ∧
      dereference ⟨{}, .absolute []⟩ anchorless (.absolute []) unnamed
        = .error (.fault (.notIterable .integer))) ∧
    ∀ f, ¬IsUnresolved (.fault f) :=
  ⟨⟨by decide +kernel, by decide +kernel⟩, ⟨by decide +kernel, by decide +kernel⟩,
    ⟨by decide +kernel, by decide +kernel⟩, ⟨by decide +kernel, by decide +kernel⟩,
    ⟨by decide +kernel, by decide +kernel⟩, ⟨by decide +kernel, by decide +kernel⟩,
    not_isUnresolved_fault⟩

end SchemaDoc.Reference
