/-
SchemaDoc.Proofs.Reference.Twins — references below two directories that hold
the same.

A relative reference of a document below a directory leads to the same place
below the other one, in the same way: the URIs differ in the directory in
front, and nothing looks at that. So a run below one directory goes as the run
below the other one, reference by reference (`expandAt_twins`). What can tell
the directories apart is the limit on the bytes of a path alone, which is why
the references must not come upon it below one of them only (`withinLimit`).

§1 documents that can be moved, §2 reading, §3 following a reference,
§4 carrying out a document.
-/
import Mathlib.Data.List.Infix
import SchemaDoc.Proofs.Files.Twins
import SchemaDoc.Proofs.Reference.Meaning
import SchemaDoc.Proofs.Reference.Moved
import SchemaDoc.Proofs.Schema.Filter

namespace SchemaDoc

open Reference

/-! ## §1 Documents that can be moved -/

namespace Disk

/-- The files below a directory, by the names behind it. -/
def filesBelow (d : Disk) (a : List String) : List (List String) :=
  d.tree.files.filterMap fun file => if a <+: file.1 then some (file.1.drop a.length) else none

/-- A document is what a file below a directory holds. -/
def HoldsAt (d : Disk) (a way : List String) (v : Value) : Prop :=
  ∃ bytes text origin reading, d.tree.at? (a ++ way) = some (.file bytes) ∧
    Load.text bytes = .ok text ∧
    Load.document text (Text.lower (Path.absolute way).suffix) origin reading = .ok v

/-- No path that a reference leads along, from one of some places or of the files below the first
directory, or from a directory around it, is over the limit below one of two directories only. -/
def withinLimit (d : Disk) (a b : List String) (places : List (List String)) (reference : String) :
    Bool :=
  (places ++ d.filesBelow a).all fun place => place.inits.all fun around =>
    decide (SameLimit a b (around ++ Uri.pathNames reference))

/-- A part of a document that can be moved from one directory to another: it gives itself no name,
and if it is a reference, that is a relative one, which does not come upon the limit in one of them
only. -/
def isMovable (d : Disk) (a b : List String) (places : List (List String)) : Value → Bool
  | .mapping entries => isUnnamedPart (.mapping entries) &&
    (reference? entries).all fun r => Uri.isRelative r && d.withinLimit a b places r
  | _ => true

variable {d : Disk} {a b way : List String} {places : List (List String)} {bytes : List UInt8}

theorem mem_filesBelow (h : d.tree.at? (a ++ way) = some (.file bytes)) : way ∈ d.filesBelow a := by
  refine List.mem_filterMap.mpr ⟨(a ++ way, bytes), List.mem_filterMap.mpr
    ⟨(a ++ way, .file bytes), Tree.mem_entries_of_at? h, rfl⟩, ?_⟩
  rw [if_pos (List.prefix_append a way), List.drop_left]

theorem sameLimit_of_withinLimit {reference : String} (h : d.withinLimit a b places reference)
    {place around : List String} (hplace : place ∈ places ++ d.filesBelow a)
    (haround : around <+: place) : SameLimit a b (around ++ Uri.pathNames reference) :=
  of_decide_eq_true (List.all_eq_true.mp (List.all_eq_true.mp h place hplace) around
    ((List.mem_inits _ _).mpr haround))

theorem ofStructure_isMovable : OfStructure (d.isMovable a b places) := fun _ => rfl

theorem leavesUnnamed_isMovable : LeavesUnnamed (d.isMovable a b places) := by
  intro v hv
  have hsplit : d.isMovable a b places = fun u => isUnnamedPart u && d.isMovable a b places u := by
    funext u
    unfold isMovable isUnnamedPart
    split <;> simp
  rw [Such, hsplit, Value.every_and, Bool.and_eq_true] at hv
  exact hv.1

theorem asksReference_isMovable : AsksReference (d.isMovable a b places)
    fun r => Uri.isRelative r && d.withinLimit a b places r := by
  intro entries h
  rw [isMovable, Bool.and_eq_true] at h
  exact h.2

end Disk

/-! ## §2 Reading -/

/-- A reference leads nowhere for another reason than that a file is missing. -/
def Failure.isUnresolved : Failure → Bool
  | .unresolved .. => true
  | _ => false

theorem Failure.eq_unresolved {f : Failure} (h : f.isUnresolved = true) :
    ∃ reference base reason, f = .unresolved reference base reason := by
  cases f with
  | unresolved reference base reason => exact ⟨reference, base, reason, rfl⟩
  | _ => cases h

/-- Two failures are of one sort, also when references that lead nowhere are laid to a missing
file. -/
structure Failure.Alike (f g : Failure) : Prop where
  sort : f.sort = g.sort
  unresolved : f.isUnresolved = g.isUnresolved

/-- A document is read alike whatever it is called in messages. -/
theorem Load.document_origin (text suffix origin origin' : String) (reading : Mark) :
    Parallel Eq Failure.Alike (document text suffix origin reading)
      (document text suffix origin' reading) := by
  unfold document
  split
  · unfold yaml
    split
    · exact .ok rfl
    · exact .error ⟨rfl, rfl⟩
    · exact .error ⟨rfl, rfl⟩
  · unfold json
    split
    · exact .ok rfl
    · exact .error ⟨rfl, rfl⟩
    · exact .error ⟨rfl, rfl⟩
    · exact .error ⟨rfl, rfl⟩
  · exact .error ⟨rfl, rfl⟩

namespace Reference

variable {d : Disk} {a b way : List String} {places : List (List String)} {reference : String}

/-- Every document below a directory can be moved. -/
def AllMovable (d : Disk) (a b : List String) (places : List (List String)) : Prop :=
  ∀ way v, d.HoldsAt a way v → Such (d.isMovable a b places) v

/-- A URI leads to one of some places or to a file below a directory, which is put in front of it. -/
def KnownBelow (d : Disk) (a : List String) (places : List (List String)) (uri : String) : Prop :=
  ∃ t : Uri.Tail, t.Inward ∧ uri = t.text [] ∧ t.names ∈ places ++ d.filesBelow a

theorem slashed_directoryUri (names : List String) : Slashed (Uri.directoryUri names) :=
  Uri.exists_directoryUri names

/-- The suffix of a path depends on its last name alone. -/
theorem suffix_append {names : List String} (h : names ≠ []) :
    (Path.absolute (a ++ names)).suffix = (Path.absolute names).suffix := by
  have hname : (Path.absolute (a ++ names)).fileName = (Path.absolute names).fileName := by
    rw [Path.fileName, Path.fileName, Path.absolute, Path.absolute,
      List.getLast?_append_of_ne_nil a h]
  rw [Path.suffix, Path.suffix, hname]

/-- The document that the bytes of a file hold. -/
def documentIn (bytes : List UInt8) (suffix origin : String) (reading : Mark) :
    Except Failure Value := do
  let text ← orFail (Load.text bytes)
  Load.document text suffix origin reading

/-- What a path leads to. -/
def Registry.readAt (disk : Disk) (reading : Mark) (path : Path) : Except Stop Resource :=
  match disk.bytes? path with
  | .error f => .error (.nowhere f.message)
  | .ok none => .error (.missing path.toString)
  | .ok (some bytes) =>
    match documentIn bytes (Text.lower path.suffix) path.toString reading with
    | .error f => .error (.nowhere f.message)
    | .ok contents =>
      match Resource.ofValue .draft4 contents with
      | .error f => .error (.nowhere f.message)
      | .ok r => .ok r

/-- A URI in a directory is read from the file behind the directory's names. -/
theorem retrieve_eq {t : Uri.Tail} (hseat : d.Seat a) (ht : t.Inward) (reading : Mark) :
    Registry.retrieve d reading (Uri.directoryUri a ++ t.text [])
      = Registry.readAt d reading (.absolute (a ++ t.names)) := by
  have hsplit : Uri.split (Uri.directoryUri a ++ t.text []).toList
      = .ok ⟨Uri.fileScheme, [], t.pathIn a, t.query, []⟩ := by
    rw [Uri.toList_below ht]
    exact Uri.splitWith_uriText (Uri.uriParts_below hseat.down ht (by simp)) []
  have hscheme : (Uri.fileScheme != "file".toList) = false := by decide
  rw [Registry.retrieve, hsplit]
  simp only [hscheme, Bool.false_eq_true, if_false, Uri.toPath_below hseat.plain ht]
  rfl

/-- What a file below a directory holds is read alike whatever it is called in messages. -/
theorem documentIn_twins (hat : d.tree.at? (a ++ way) = some (.file bytes))
    (origin origin' : String) (reading : Mark) :
    Parallel (fun v w => v = w ∧ d.HoldsAt a way v) Failure.Alike
      (documentIn bytes (Text.lower (Path.absolute way).suffix) origin reading)
      (documentIn bytes (Text.lower (Path.absolute way).suffix) origin' reading) := by
  unfold documentIn
  cases htext : Load.text bytes with
  | error f => exact .error ⟨rfl, rfl⟩
  | ok text =>
    simp only [orFail, mapError_ok, ok_bind]
    have hdocument := Load.document_origin text (Text.lower (Path.absolute way).suffix) origin
      origin' reading
    generalize hread : Load.document text (Text.lower (Path.absolute way).suffix) origin reading
      = x at hdocument ⊢
    generalize Load.document text (Text.lower (Path.absolute way).suffix) origin' reading = y
      at hdocument ⊢
    cases hdocument with
    | error halike => exact .error halike
    | ok hsame => exact .ok ⟨hsame, bytes, text, origin, reading, hat, htext, hread⟩

/-- **A file is read alike below twins.** -/
theorem retrieve_twins (h : d.Twins a b) (hall : AllMovable d a b places) {t : Uri.Tail}
    (ht : t.Inward) (hlimit : Disk.SameLimit a b t.names) (reading : Mark) :
    Parallel (fun x y => x = y ∧ Such (d.isMovable a b places) x.contents ∧
        KnownBelow d a places (t.text [])) Stop.Alike
      (Registry.retrieve d reading (Uri.directoryUri a ++ t.text []))
      (Registry.retrieve d reading (Uri.directoryUri b ++ t.text [])) := by
  rw [retrieve_eq h.first ht, retrieve_eq h.second ht]
  have hfound := h.found ht.not_up hlimit
  unfold Registry.readAt
  generalize d.bytes? (.absolute (a ++ t.names)) = x at hfound ⊢
  generalize d.bytes? (.absolute (b ++ t.names)) = y at hfound ⊢
  cases hfound with
  | error _ => exact .error .nowhere
  | @ok found _ hsame =>
    obtain ⟨rfl, hfile⟩ := hsame
    cases found with
    | none => exact .error .missing
    | some bytes =>
      have hat := hfile bytes rfl
      simp only [suffix_append (h.first.ne_nil_of_file hat)]
      have hdocument := documentIn_twins hat (Path.absolute (a ++ t.names)).toString
        (Path.absolute (b ++ t.names)).toString reading
      generalize documentIn bytes _ (Path.absolute (a ++ t.names)).toString reading = x
        at hdocument ⊢
      generalize documentIn bytes _ (Path.absolute (b ++ t.names)).toString reading = y
        at hdocument ⊢
      cases hdocument with
      | error _ => exact .error .nowhere
      | @ok contents _ hsame =>
        obtain ⟨rfl, hholds⟩ := hsame
        dsimp only
        cases hr : Resource.ofValue .draft4 contents with
        | error f => exact .error .nowhere
        | ok r =>
          exact .ok ⟨rfl, yields_ofValue (hall t.names contents hholds) r hr, t, ht, rfl,
            List.mem_append_right _ (Disk.mem_filesBelow hat)⟩

/-! ## §3 Following a reference -/

/-- A relative reference has the same target below every directory. -/
theorem exists_target {t : Uri.Tail} (ht : t.Inward) (hr : Uri.isRelative reference = true) :
    ∃ (seen : Uri.Tail) (fragment : String), seen.Inward ∧
      (∃ around, around <+: t.names ∧ seen.names = around ++ Uri.pathNames reference) ∧
      ∀ names, (∀ n ∈ names, Path.Down n) → ∀ q : Resolver,
        q.base = Uri.directoryUri names ++ t.text [] →
        q.target reference = .ok (Uri.directoryUri names ++ seen.text [], fragment) := by
  cases hf : isFragment reference with
  | true =>
    refine ⟨t, String.ofList (reference.toList.drop 1), ht, ⟨t.names, List.prefix_rfl, ?_⟩,
      fun names _ q hq => ?_⟩
    · rw [Uri.pathNames_fragment (by simpa [isFragment] using hf), List.append_nil]
    · rw [target_of_isFragment hf, hq]
  | false =>
    obtain ⟨seen, fragment, hseen, hfragment, hnames, hjoined⟩ := Uri.exists_joined ht hr
    refine ⟨seen, String.ofList fragment, hseen, hnames, fun names hn q hq => ?_⟩
    have hcut := Uri.cutFragment_uriIn hn hseen hfragment
    rw [target_eq_noted hf, noted, hq]
    show (joined (t.uriIn names []) reference >>= _) = _
    rw [hjoined names hn, ok_bind]
    simp only [hcut, mapError_ok]
    rfl

/-- A place with a text in front of every URI. -/
def Place.below (front : String) (here : Place) : Place :=
  ⟨here.resolver.below front, front ++ here.document, here.trail.map (front ++ ·)⟩

/-- A place at which what is known can be moved. -/
structure Place.Stands (d : Disk) (a b : List String) (places : List (List String)) (here : Place) :
    Prop where
  registry : here.resolver.registry.Stands (d.isMovable a b places) (KnownBelow d a places)
  base : KnownBelow d a places here.resolver.base
  document : ∃ t : Uri.Tail, t.Inward ∧ here.document = t.text []

theorem contains_map_append (front target : String) (trail : List String) :
    (trail.map (front ++ ·)).contains (front ++ target) = trail.contains target := by
  induction trail with
  | nil => rfl
  | cons u rest ih => rw [List.map_cons, List.contains_cons, List.contains_cons, beq_append, ih]

theorem alike_toFailure {reference document document' : String} {s s' : Stop} (h : s.Alike s') :
    Failure.Alike (s.toFailure reference document none) (s'.toFailure reference document' none) := by
  cases h <;> exact ⟨rfl, rfl⟩

/-- **A relative reference leads on alike below twins.** -/
theorem lead_twins (h : d.Twins a b) (hall : AllMovable d a b places) {here : Place}
    (hhere : here.Stands d a b places) (hr : Uri.isRelative reference = true)
    (hlimit : d.withinLimit a b places reference = true) (p : Position) :
    Parallel (fun x y => ∃ there : Place × Value, x = (there.1.below (Uri.directoryUri a), there.2) ∧
        y = (there.1.below (Uri.directoryUri b), there.2) ∧ there.1.Stands d a b places ∧
        Such (d.isMovable a b places) there.2) Failure.Alike
      ((here.below (Uri.directoryUri a)).lead d none p reference)
      ((here.below (Uri.directoryUri b)).lead d none p reference) := by
  obtain ⟨t, ht, hdocument⟩ := hhere.document
  obtain ⟨base, hbase, hbaseText, hplace⟩ := hhere.base
  obtain ⟨seen, fragment, hseen, hfragment, -, hjoined⟩ := Uri.exists_joined ht hr
  obtain ⟨found, part, hfound, ⟨around, haround, hnames⟩, htarget⟩ := exists_target hbase hr
  have hjoin : ∀ names, (∀ n ∈ names, Path.Down n) →
      joined (here.below (Uri.directoryUri names)).document reference
        = .ok (Uri.directoryUri names ++ seen.text fragment) := fun names hn => by
    rw [Place.below, hdocument]
    exact hjoined names hn
  have hlookUp := Resolver.lookUp_below (q := here.resolver)
    (slashed_directoryUri a) (slashed_directoryUri b)
    Disk.ofStructure_isMovable Disk.leavesUnnamed_isMovable hhere.registry
    (withoutFragmentMark_eq hfound.unmarked)
    (htarget a h.first.down _ (by rw [Resolver.below, hbaseText]))
    (htarget b h.second.down _ (by rw [Resolver.below, hbaseText]))
    (retrieve_twins h hall hfound
      (hnames ▸ Disk.sameLimit_of_withinLimit hlimit hplace haround) p)
  have hcut : ∀ names, (∀ n ∈ names, Path.Down n) →
      Uri.cutFragment (Uri.directoryUri names ++ seen.text fragment)
        = .ok (Uri.directoryUri names ++ seen.text [], String.ofList fragment) := fun names hn =>
    Uri.cutFragment_uriIn hn hseen hfragment
  unfold Place.lead
  simp only [hjoin a h.first.down, hjoin b h.second.down, hcut a h.first.down, hcut b h.second.down,
    orFail, mapError_ok, ok_bind]
  simp only [Place.below, contains_map_append]
  split
  · exact .error ⟨rfl, rfl⟩
  refine (hlookUp.mapError fun _ _ => alike_toFailure).bind fun x y hxy => ?_
  obtain ⟨⟨v, q⟩, rfl, rfl, hreached, hknown⟩ := hxy
  refine .ok ⟨(⟨q, seen.text [], seen.text fragment :: here.trail⟩, v), rfl, rfl, ?_, hreached.such⟩
  exact ⟨hreached.stands, hreached.base ▸ hknown, seen, hseen, rfl⟩

/-! ## §4 Carrying out a document -/

/-- **A run goes alike below twins**, by induction on how far references lead on. -/
theorem expandAt_twins (h : d.Twins a b) (hall : AllMovable d a b places) :
    ∀ (hops : Nat) {here : Place} (p : Position) {v : Value}, here.Stands d a b places →
      Such (d.isMovable a b places) v →
      Parallel Eq Failure.Alike (expandAt d none hops (here.below (Uri.directoryUri a)) p v)
        (expandAt d none hops (here.below (Uri.directoryUri b)) p v)
  | 0, _, p, _, _, _ => by
    rw [expandAt, expandAt]
    exact inline_parallel ⟨rfl, rfl⟩ p fun _ _ _ => .error ⟨rfl, rfl⟩
  | hops + 1, here, p, v, hhere, hv => by
    rw [expandAt_eq_inline, expandAt_eq_inline]
    refine inline_parallel ⟨rfl, rfl⟩ p fun q r hr => ?_
    have hmovable := of_mem_references Disk.asksReference_isMovable hv hr
    rw [Bool.and_eq_true] at hmovable
    refine (lead_twins h hall hhere hmovable.1 hmovable.2 q).bind fun x y hxy => ?_
    obtain ⟨there, rfl, rfl, hthere, hsuch⟩ := hxy
    exact expandAt_twins h hall hops (0 :: q) hthere hsuch

/-- The URI of a document that is taken to lie below a directory. -/
theorem rootUri_below {name : String} (hseat : d.Seat a) (hway : ∀ n ∈ way, Path.Down n)
    (hsound : Path.Sound way) (hname : Path.Down name) :
    rootUri d (.absolute (a ++ way)) name
      = .ok (Uri.directoryUri a ++ (Uri.tailOf (way ++ [name])).text []) := by
  have hall : ∀ n ∈ way ++ [name], Path.Down n :=
    List.forall_mem_append.mpr ⟨hway, List.forall_mem_singleton.mpr hname⟩
  have hup : ".." ∉ way := fun hm => (hway _ hm).not_doubleDot rfl
  have hjoin : (Path.absolute (a ++ way)).join ⟨.relative, [name]⟩
      = .absolute (a ++ (way ++ [name])) := by
    simp [Path.join, Path.isAbsolute, Path.absolute]
  rw [rootUri, Path.resolve_seat hseat hup hsound, ok_bind, Path.ofString_of_down hname, hjoin,
    Uri.ofPath_below hseat.down hall (by simp)]
  rfl

/-- The root of a document, with a text in front of its URI. -/
theorem rootPlace_below {front : String} (hfront : Slashed front) (uri : String) (v : Value) :
    rootPlace (front ++ uri) v = (rootPlace uri v).map (Place.below front) := by
  unfold rootPlace
  cases Resource.ofValue .draft4 v with
  | error f => rfl
  | ok r =>
    have hadd := Registry.add_below hfront {} uri r
    show Except.ok _ = Except.ok (Place.below front _)
    rw [Place.below, Resolver.below, ← hadd]
    rfl

/-- At the root of a document no more is known than the document. -/
theorem stands_rootPlace {t : Uri.Tail} {v : Value} {place : Place} (ht : t.Inward)
    (hplace : t.names ∈ places) (hv : Such (d.isMovable a b places) v)
    (h : rootPlace (t.text []) v = .ok place) : place.Stands d a b places := by
  have hknown : KnownBelow d a places (t.text []) :=
    ⟨t, ht, rfl, List.mem_append_left _ hplace⟩
  obtain ⟨r, hr, h⟩ := bind_eq_ok.mp h
  cases h
  refine ⟨⟨(Registry.holds_empty _).add _ (yields_ofValue hv r hr), ?_⟩, hknown, t, ht, rfl⟩
  refine List.forall_mem_singleton.mpr ?_
  rwa [withoutFragmentMark_eq ht.unmarked]

/-- **A document is carried out alike in twins**, wherever in them it is taken to lie. -/
theorem dereference_twins (h : d.Twins a b) (hall : AllMovable d a b places) {name : String}
    (hway : ∀ n ∈ way, Path.Down n) (hsound : Path.Sound way) (hname : Path.Down name)
    (hplace : (Uri.tailOf (way ++ [name])).names ∈ places) {document : Value}
    (hdocument : Such (d.isMovable a b places) document) :
    Parallel Eq Failure.Alike (dereference d document (.absolute (a ++ way)) name)
      (dereference d document (.absolute (b ++ way)) name) := by
  have htail : (Uri.tailOf (way ++ [name])).Inward := Uri.inward_tailOf
    (List.forall_mem_append.mpr ⟨hway, List.forall_mem_singleton.mpr hname⟩) (by simp)
  unfold dereference dereferenceAfter dereferenceWithin
  simp only [rootUri_below h.first hway hsound hname, rootUri_below h.second hway hsound hname,
    orFail, mapError_ok, ok_bind, rootPlace_below (slashed_directoryUri _)]
  cases hroot : rootPlace ((Uri.tailOf (way ++ [name])).text []) document with
  | error f => exact .error ⟨rfl, rfl⟩
  | ok place =>
    exact expandAt_twins h hall _ _ (stands_rootPlace htail hplace hdocument hroot) hdocument

end Reference

end SchemaDoc
