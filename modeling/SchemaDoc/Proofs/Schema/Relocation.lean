/-
SchemaDoc.Proofs.Schema.Relocation — schemas in a directory that is copied.

What a schema file is carried out to depends on what the directory holds that
its path starts at, and not on where that lies or what it is called
(`file_twins`): the path is located and the file read alike, its references
lead on alike from the directory and, if they miss a file there, alike from
the file's own, and what is found is checked alike. The names of the
directories must be texts, since a URI keeps no other bytes, and no path may
be over the limit on its bytes below one of the directories only
(`file_untwinned`).

§1 locating and loading, §2 both attempts, §3 the whole run, §4 copies,
§5 what tells directories apart.
-/
import SchemaDoc.Proofs.Reference.Twins

namespace SchemaDoc.Resolve

open Reference

variable {disk : Disk} {a b way : List String} {places : List (List String)} {path : String}

/-! ## §1 Locating and loading -/

/-- The path that a text writes, blanks around it being dropped. -/
def written (path : String) : Path := Path.ofString (String.ofList (Text.trim path.toList))

theorem alike_fault {f g : Fault} (h : Path.SameFault f g) : (Failure.fault f).Alike (.fault g) :=
  ⟨congrArg (fun c => (FailureClass.internal, some c)) h, rfl⟩

/-- A relative path is looked for behind the names of the directory. -/
theorem locate_eq {names : List String} (hpath : written path = ⟨.relative, way⟩) :
    Load.locate disk path (.absolute names) = disk.resolve (.absolute (names ++ way)) := by
  have hjoin : (Path.absolute names).join (written path) = .absolute (names ++ way) := by
    rw [hpath]
    rfl
  rw [← hjoin]
  rfl

/-- A relative path that does not lead up is located alike below twins. -/
theorem locate_twins (h : disk.Twins a b) (hpath : written path = ⟨.relative, way⟩)
    (hup : ".." ∉ way) : Parallel (Path.Below a b way) Failure.Alike
      (orFail (Load.locate disk path (.absolute a)))
      (orFail (Load.locate disk path (.absolute b))) := by
  rw [locate_eq hpath, locate_eq hpath]
  exact (Path.resolve_below h hup).mapError fun _ _ => alike_fault

/-- A document is loaded alike below twins. -/
theorem load_twins (h : disk.Twins a b) (hup : ".." ∉ way) (hlimit : Disk.SameLimit a b way) :
    Parallel (fun v w => v = w ∧ disk.HoldsAt a way v) Failure.Alike
      (Load.file disk (.absolute (a ++ way))) (Load.file disk (.absolute (b ++ way))) := by
  have hfound := h.found hup hlimit
  unfold Load.file
  generalize disk.bytes? (.absolute (a ++ way)) = x at hfound ⊢
  generalize disk.bytes? (.absolute (b ++ way)) = y at hfound ⊢
  cases hfound with
  | error hsame => exact .error (alike_fault hsame)
  | @ok found _ hsame =>
    obtain ⟨rfl, hfile⟩ := hsame
    cases found with
    | none => exact .error ⟨rfl, rfl⟩
    | some bytes =>
      have hat := hfile bytes rfl
      simp only [orFail, mapError_ok, ok_bind, suffix_append (h.first.ne_nil_of_file hat)]
      split
      · exact .error ⟨rfl, rfl⟩
      · exact documentIn_twins hat _ _ _

/-! ## §2 Both attempts -/

/-- The places that a schema is taken to lie at: in the directory that its path starts at, and where
the path leads. A URI may write a name that is no text otherwise. -/
def placesOf (way : List String) : List (List String) :=
  [(Uri.tailOf [(Path.absolute way).fileName]).names, (Uri.tailOf way).names]

theorem sort_blaming {f g : Failure} (h : f.Alike g) (missing missing' : String) :
    (f.blaming missing).sort = (g.blaming missing').sort := by
  obtain ⟨hsort, hunresolved⟩ := h
  cases hf : f.isUnresolved with
  | true =>
    obtain ⟨_, _, _, rfl⟩ := Failure.eq_unresolved hf
    obtain ⟨_, _, _, rfl⟩ := Failure.eq_unresolved (hunresolved ▸ hf)
    rfl
  | false =>
    rw [hf] at hunresolved
    rw [Failure.blaming_eq_self, Failure.blaming_eq_self, hsort]
    · rintro _ _ _ rfl
      cases hunresolved
    · rintro _ _ _ rfl
      cases hf

theorem isSome_missed? (f : Failure) : (missed? f).isSome = (f.sort.1 == .missingReference) := by
  cases f <;> rfl

/-- What is given after a first attempt and, if that misses a file, a second one. -/
def afterBoth (first second : Except Failure Value) : Except Failure Value :=
  match first with
  | .ok v => .ok v
  | .error f => match missed? f with
    | none => .error f
    | some missing => second.mapError (Failure.blaming missing)

/-- What both attempts come to, if the schema lies elsewhere. -/
theorem inlined_result {base path : Path} {document : Value}
    (hne : disk.resolve base ≠ .ok path.parent) : (inlined disk base path document).result
      = afterBoth (dereference disk document base path.fileName)
          (dereference disk document path.parent path.fileName) := by
  by_cases hm : ∃ reference seen missing, dereference disk document base path.fileName
      = .error (.missingReference reference seen missing)
  · obtain ⟨reference, seen, missing, hd⟩ := hm
    rw [inlined_of_missing hd hne, hd]
    rfl
  · rw [inlined_of_not_missing fun reference seen missing hd => hm ⟨reference, seen, missing, hd⟩]
    show dereference disk document base path.fileName = _
    cases hd : dereference disk document base path.fileName with
    | ok v => rfl
    | error f =>
      cases f with
      | missingReference reference seen missing => exact absurd ⟨reference, seen, missing, hd⟩ hm
      | _ => rfl

/-- Attempts that go alike come to the same, and there is a second one of both or of none. -/
theorem afterBoth_alike {first first' second second' : Except Failure Value}
    (hfirst : Parallel Eq Failure.Alike first first')
    (hsecond : Parallel Eq Failure.Alike second second') :
    Parallel Eq (fun f g => f.sort = g.sort) (afterBoth first second)
      (afterBoth first' second') := by
  cases hfirst with
  | ok hv => exact .ok hv
  | @error f g halike =>
    have hmissed : (missed? f).isSome = (missed? g).isSome := by
      rw [isSome_missed?, isSome_missed?, halike.sort]
    dsimp only [afterBoth]
    cases hf : missed? f with
    | none =>
      have hg : missed? g = none := by simpa [hf] using hmissed.symm
      rw [hg]
      exact .error halike.sort
    | some missing =>
      rw [hf] at hmissed
      obtain ⟨missing', hg⟩ := Option.isSome_iff_exists.mp hmissed.symm
      rw [hg]
      exact hsecond.mapError fun _ _ halike => sort_blaming halike missing missing'

/-- Names that lead down a tree, as far as their text says. -/
theorem down_of_written (hpath : written path = ⟨.relative, way⟩) (hup : ".." ∉ way)
    (hspelled : ∀ n ∈ way, Text.Spelled n.toList) (hsound : Path.Sound way) :
    ∀ n ∈ way, Path.Down n := by
  intro n hn
  have hmem : n ∈ (written path).names := hpath ▸ hn
  obtain ⟨hne, hslash⟩ := Path.named_ofString _ n hmem
  refine ⟨⟨hspelled n hn, (hsound n hn).1⟩, hne, hslash, ?_, fun he => hup (he ▸ hn)⟩
  rintro rfl
  obtain ⟨part, hpart, he⟩ := List.mem_map.mp hmem
  have hdot : part = ['.'] := by
    rw [← String.toList_ofList (l := part), he]
    rfl
  simp [hdot] at hpart

/-- The place of a file below a directory. -/
theorem place_of_concat (names init : List String) (name : String) :
    (Path.absolute (names ++ (init ++ [name]))).fileName = name ∧
      (Path.absolute (names ++ (init ++ [name]))).parent = .absolute (names ++ init) := by
  simp [Path.fileName, Path.parent, Path.absolute, ← List.append_assoc]

/-- **Both attempts go alike below twins**, and there is a second one below both or below none. -/
theorem inlined_twins (h : disk.Twins a b) (hall : AllMovable disk a b (placesOf way))
    (hway : ∀ n ∈ way, Path.Down n) (hsound : Path.Sound way) (hne : way ≠ []) {document : Value}
    (hdocument : Such (disk.isMovable a b (placesOf way)) document) :
    Parallel Eq (fun f g => f.sort = g.sort)
      (inlined disk (.absolute a) (.absolute (a ++ way)) document).result
      (inlined disk (.absolute b) (.absolute (b ++ way)) document).result := by
  obtain ⟨init, name, rfl⟩ : ∃ init name, way = init ++ [name] :=
    ⟨_, _, (List.dropLast_append_getLast hne).symm⟩
  obtain ⟨hinit, hname⟩ := List.forall_mem_append.mp hway
  have hname := hname name (List.mem_singleton_self name)
  have hfileName := fun names => (place_of_concat names init name).1
  have hparent := fun names => (place_of_concat names init name).2
  have hresolve : ∀ {names : List String}, disk.Seat names →
      disk.resolve (.absolute names) = .ok (.absolute names) := fun hseat =>
    Path.resolve_of_sound hseat.not_up hseat.sound _
  have hplaces : (Uri.tailOf ([] ++ [name])).names ∈ placesOf (init ++ [name]) ∧
      (Uri.tailOf (init ++ [name])).names ∈ placesOf (init ++ [name]) := by
    have hlast : (Path.absolute (init ++ [name])).fileName = name := hfileName []
    simp [placesOf, hlast]
  have hfirst : Parallel Eq Failure.Alike (dereference disk document (.absolute (a ++ [])) name)
      (dereference disk document (.absolute (b ++ [])) name) :=
    dereference_twins h hall (List.forall_mem_nil _) (List.forall_mem_nil _) hname hplaces.1
      hdocument
  rw [List.append_nil, List.append_nil] at hfirst
  by_cases hbeside : init = []
  · subst hbeside
    have hsame : ∀ {names : List String}, disk.Seat names → disk.resolve (.absolute names)
        = .ok (Path.absolute (names ++ ([] ++ [name]))).parent := fun hseat => by
      rw [hresolve hseat, hparent, List.append_nil]
    rw [inlined_of_same_directory (hsame h.first), inlined_of_same_directory (hsame h.second),
      hfileName, hfileName]
    exact hfirst.imp_error fun _ _ halike => halike.sort
  · have helse : ∀ {names : List String}, disk.Seat names → disk.resolve (.absolute names)
        ≠ .ok (Path.absolute (names ++ (init ++ [name]))).parent := fun hseat he => by
      rw [hresolve hseat, hparent] at he
      exact hbeside (List.self_eq_append_right.mp (congrArg Path.names (Except.ok.inj he)))
    rw [inlined_result (helse h.first), inlined_result (helse h.second), hfileName, hfileName,
      hparent, hparent]
    exact afterBoth_alike hfirst
      (dereference_twins h hall hinit (Path.sound_append.mp hsound).1 hname hplaces.2 hdocument)

/-! ## §3 The whole run -/

/-- A schema file is carried out alike below twins. -/
theorem carriedOut_twins (h : disk.Twins a b) (hpath : written path = ⟨.relative, way⟩)
    (hup : ".." ∉ way) (hspelled : ∀ n ∈ way, Text.Spelled n.toList)
    (hlimit : Disk.SameLimit a b way) (hall : AllMovable disk a b (placesOf way)) :
    Parallel Eq (fun f g => f.sort = g.sort) (carriedOut disk (.absolute a) path)
      (carriedOut disk (.absolute b) path) := by
  have hsort : ∀ f g : Failure, f.Alike g → f.sort = g.sort := fun _ _ halike => halike.sort
  refine ((locate_twins h hpath hup).imp_error hsort).bind fun p q hpq => ?_
  obtain ⟨rfl, rfl, hsound⟩ := hpq
  refine ((load_twins h hup hlimit).imp_error hsort).bind fun v w hvw => ?_
  obtain ⟨rfl, hholds⟩ := hvw
  have hne : way ≠ [] := by
    obtain ⟨bytes, _, _, _, hat, -⟩ := hholds
    exact h.first.ne_nil_of_file hat
  have hdown := down_of_written hpath hup hspelled hsound
  exact inlined_twins h hall hdown hsound hne (hall way v hholds)

/-- **What a schema is carried out to does not depend on where its directory lies**, nor on what
that is called. Two directories of texts that hold the same files show the same schema for a path
that does not lead up, or failures of one sort, if the documents in them hold relative references and
no names, and if no path that is asked for is over the limit below one of them only. -/
theorem file_twins (h : disk.Twins a b) (strict : Bool) (hpath : written path = ⟨.relative, way⟩)
    (hup : ".." ∉ way) (hspelled : ∀ n ∈ way, Text.Spelled n.toList)
    (hlimit : Disk.SameLimit a b way) (hall : AllMovable disk a b (placesOf way)) :
    (file disk (.absolute a) strict path).result.mapError Failure.sort
      = (file disk (.absolute b) strict path).result.mapError Failure.sort := by
  rw [file_eq_finished, file_eq_finished]
  refine ((carriedOut_twins h hpath hup hspelled hlimit hall).bind fun s t hst => ?_).mapError_eq
  subst hst
  exact Parallel.refl (S := fun f g : Failure => f.sort = g.sort) (fun _ => rfl) _

/-! ## §4 Copies -/

/-- A name of characters that mean something in a URI. -/
def oddName : String := "a b%41#?;\u00e9"

/-- A schema with a reference to another one, and what it holds. -/
def referringText : String := "\x7b\"type\":\"object\",\"a\":\x7b\"$ref\":\"y.json\"\x7d\x7d"

def referring : Value :=
  .mapping [(.text "type", .text "object"), (.text "a", .mapping [(.text "$ref", .text "y.json")])]

/-- The other one, and what it holds. -/
def referredText : String := "\x7b\"b\":\x7b\"$ref\":\"#/c\"\x7d,\"c\":1\x7d"

def referred : Value :=
  .mapping [(.text "b", .mapping [(.text "$ref", .text "#/c")]), (.text "c", .integer 1)]

/-- The schema with its references carried out. -/
def carried : Value :=
  .mapping [(.text "type", .text "object"),
    (.text "a", .mapping [(.text "b", .integer 1), (.text "c", .integer 1)])]

/-- A directory with both schemas in a directory of their own. -/
def copyAt (seat : String) : List (List String × Entry) :=
  [([seat], .directory), ([seat, "sub"], .directory),
    ([seat, "sub", "x.json"], .file (bytesOf referringText)),
    ([seat, "sub", "y.json"], .file (bytesOf referredText))]

/-- A disk with such a directory twice. -/
def copies : Disk := ⟨⟨copyAt oddName ++ copyAt "z"⟩, .absolute []⟩

theorem seat_copies {seat : String} (h : seat = oddName ∨ seat = "z") : copies.Seat [seat] where
  plain := by
    refine List.forall_mem_singleton.mpr (Uri.plain_of_ofChars seat.toList ?_ ?_ ?_ ?_ ?_)
      <;> rcases h with rfl | rfl <;> decide +kernel
  no_nul := by rcases h with rfl | rfl <;> decide +kernel
  present := by rcases h with rfl | rfl <;> decide +kernel

theorem twins_copies : copies.Twins [oddName] ["z"] where
  first := seat_copies (Or.inl rfl)
  second := seat_copies (Or.inr rfl)
  same way := by simp [copies, copyAt, Tree.at?, List.lookup_cons, oddName]

/-- A document that is read from a JSON text is what the text holds, whatever it is called. -/
theorem eq_of_json {text suffix origin : String} {reading : Mark} {v w : Value}
    (hsuffix : Format.ofSuffix? suffix = some .json) (htext : Json.read text.toList = .ok v)
    (h : Load.document text suffix origin reading = .ok w) : w = v := by
  rw [Load.document, hsuffix] at h
  simp only [Load.json, htext, Except.ok.injEq] at h
  exact h.symm

theorem allMovable_copies : AllMovable copies [oddName] ["z"] (placesOf ["sub", "x.json"]) := by
  rintro way v ⟨bytes, text, origin, reading, hat, htext, hread⟩
  have hfile : (way = ["sub", "x.json"] ∧ bytes = bytesOf referringText) ∨
      (way = ["sub", "y.json"] ∧ bytes = bytesOf referredText) := by
    have hne : oddName ≠ "z" := by decide
    simpa [copies, copyAt, hne] using Tree.mem_entries_of_at? hat
  rcases hfile with ⟨rfl, rfl⟩ | ⟨rfl, rfl⟩
  · have hholds : Load.text (bytesOf referringText) = .ok referringText := by decide +kernel
    obtain rfl := Except.ok.inj (hholds.symm.trans htext)
    obtain rfl : v = referring := eq_of_json (by decide +kernel) (by decide +kernel) hread
    decide +kernel
  · have hholds : Load.text (bytesOf referredText) = .ok referredText := by decide +kernel
    obtain rfl := Except.ok.inj (hholds.symm.trans htext)
    obtain rfl : v = referred := eq_of_json (by decide +kernel) (by decide +kernel) hread
    decide +kernel

theorem file_copies : (file copies (.absolute ["z"]) false "sub/x.json").result = .ok carried := by
  have hlocate : Load.locate copies "sub/x.json" (.absolute ["z"])
      = .ok (.absolute ["z", "sub", "x.json"]) := by decide +kernel
  have hload : Load.file copies (.absolute ["z", "sub", "x.json"]) = .ok referring := by
    decide +kernel
  have hfirst : dereference copies referring (.absolute ["z"])
      (Path.absolute ["z", "sub", "x.json"]).fileName
        = .error (.missingReference "y.json" "file:///z/x.json" "/z/y.json") := by decide +kernel
  have hsecond : dereference copies referring (Path.absolute ["z", "sub", "x.json"]).parent
      (Path.absolute ["z", "sub", "x.json"]).fileName = .ok carried := by decide +kernel
  rw [file_result, hlocate]
  simp only [orFail, mapError_ok, ok_bind, hload]
  rw [inlined_of_missing hfirst (by decide +kernel), hsecond]
  simp only [mapError_ok, ok_bind]
  decide +kernel

/-- The directory with the odd name shows the same schema as the other one. -/
theorem file_twins_copies :
    written "sub/x.json" = ⟨.relative, ["sub", "x.json"]⟩ ∧
      (file copies (.absolute [oddName]) false "sub/x.json").result.mapError Failure.sort
        = (file copies (.absolute ["z"]) false "sub/x.json").result.mapError Failure.sort ∧
      (file copies (.absolute ["z"]) false "sub/x.json").result = .ok carried := by
  have hpath : written "sub/x.json" = ⟨.relative, ["sub", "x.json"]⟩ := by decide +kernel
  have hspelled : ∀ n ∈ ["sub", "x.json"], Text.Spelled n.toList := by
    have hchars : ∀ n ∈ ["sub", "x.json"], Text.ofChars n.toList = n.toList := by decide +kernel
    exact fun n hn => hchars n hn ▸ Text.spelled_ofChars _
  exact ⟨hpath, file_twins twins_copies false hpath (by decide) hspelled (by decide +kernel)
    allMovable_copies, file_copies⟩

/-! ## §5 What tells directories apart -/

/-- Where a sound path leads from a directory. -/
theorem locate_seat (hseat : disk.Seat a) (hpath : written path = ⟨.relative, way⟩)
    (hup : ".." ∉ way) (hsound : Path.Sound way) :
    Load.locate disk path (.absolute a) = .ok (.absolute (a ++ way)) := by
  rw [locate_eq hpath]
  exact Path.resolve_seat hseat hup hsound

/-- A document that cannot be loaded. -/
theorem file_of_load_error {base found : Path} {strict : Bool} {f : Failure}
    (hlocate : Load.locate disk path base = .ok found) (hload : Load.file disk found = .error f) :
    (file disk base strict path).result = .error f := by
  rw [file_result, hlocate]
  simp only [orFail, mapError_ok, ok_bind, hload]
  rfl

/-- A path over the limit is a fault. -/
theorem file_of_tooLong {strict : Bool} (hseat : disk.Seat a)
    (hpath : written path = ⟨.relative, way⟩) (hup : ".." ∉ way) (hsound : Path.Sound way)
    (hlong : (Path.absolute (a ++ way)).tooLong = true) :
    (file disk (.absolute a) strict path).result.mapError Failure.sort
      = .error (.internal, some .longName) := by
  have hload : Load.file disk (.absolute (a ++ way))
      = .error (.fault (.tooLongName (Text.quote (Path.absolute (a ++ way)).toString))) := by
    rw [Load.file, Disk.bytes?_of_tooLong (Path.sound_append.mpr ⟨hseat.sound, hsound⟩) hlong]
    rfl
  rw [file_of_load_error (locate_seat hseat hpath hup hsound) hload]
  rfl

/-- A path within the limit that leads to nothing is a missing file. -/
theorem file_of_missing {strict : Bool} (hseat : disk.Seat a)
    (hpath : written path = ⟨.relative, way⟩) (hup : ".." ∉ way) (hsound : Path.Sound way)
    (hshort : (Path.absolute (a ++ way)).tooLong = false)
    (hentry : disk.tree.entry (.absolute (a ++ way)) = .error .missing) :
    (file disk (.absolute a) strict path).result.mapError Failure.sort = .error (.load, none) := by
  have hfault : (Path.absolute (a ++ way)).fault? = none :=
    Path.fault?_eq_none.mpr (Path.sound_append.mpr ⟨hseat.sound, hsound⟩)
  have hload : Load.file disk (.absolute (a ++ way))
      = .error (.missingFile (Path.absolute (a ++ way)).toString) := by
    rw [Load.file, Disk.bytes?, hfault, Disk.entry_absolute, hshort, hentry]
    rfl
  rw [file_of_load_error (locate_seat hseat hpath hup hsound) hload]
  rfl

/-- A name of one character. -/
def repeated (c : Char) (n : Nat) : String := String.ofList (List.replicate n c)

section Repeated

variable {c : Char} {n : Nat}

theorem mem_repeated {d : Char} (h : d ∈ (repeated c n).toList) : d = c := by
  rw [repeated, String.toList_ofList] at h
  exact List.eq_of_mem_replicate h

theorem ascii_replicate (h : c.toNat < 0x80) : ∀ d ∈ List.replicate n c, d.toNat < 0x80 :=
  fun d hd => by rwa [List.eq_of_mem_replicate hd]

theorem repeated_ne {s : String} (h : s.toList.length < n) : repeated c n ≠ s := by
  rintro rfl
  rw [repeated, String.toList_ofList, List.length_replicate] at h
  exact Nat.lt_irrefl n h

theorem plain_repeated (h : c.toNat < 0x80) (hslash : c ≠ '/') (hn : 2 < n) :
    Uri.Plain (repeated c n) := by
  refine Uri.plain_of_ofChars (List.replicate n c) ?_
    (repeated_ne (Nat.lt_of_le_of_lt (by decide) hn)) (fun hm => hslash (mem_repeated hm).symm)
    (repeated_ne (Nat.lt_of_le_of_lt (by decide) hn))
    (repeated_ne (Nat.lt_of_le_of_lt (by decide) hn))
  rw [Text.ofChars_ascii (ascii_replicate h), repeated, String.toList_ofList]

theorem length_encodeName_repeated (h : c.toNat < 0x80) :
    (Text.encodeName (repeated c n)).length = n := by
  rw [repeated, Text.length_encodeName_ascii (ascii_replicate h), List.length_replicate]

end Repeated

/-- A name that is nearly as long as names can be, and one that is not. -/
def longName : String := repeated 'd' 240

def shortName : String := repeated 'e' 3

/-- A disk with two directories and no files. -/
def empties : Disk := ⟨⟨[([longName], .directory), ([shortName], .directory)]⟩, .absolute []⟩

theorem longName_ne : longName ≠ shortName := repeated_ne (by decide)

theorem at?_empties (names : List String) : empties.tree.at? names
    = if names = [] ∨ names = [longName] ∨ names = [shortName] then some .directory else none := by
  simp only [empties, Tree.at?, Tree.lookup_cons_eq, List.lookup_nil, List.isEmpty_iff]
  split <;> simp_all
  split <;> simp_all

theorem seat_repeated {c : Char} {n : Nat} (h : c.toNat < 0x80) (hslash : c ≠ '/')
    (hnul : c ≠ '\x00') (hn : 2 < n) (hlength : n ≤ Tree.maxName)
    (hat : disk.tree.at? [repeated c n] = some .directory) : disk.Seat [repeated c n] where
  plain := List.forall_mem_singleton.mpr (plain_repeated h hslash hn)
  no_nul := List.forall_mem_singleton.mpr fun hm => hnul (mem_repeated hm).symm
  present := by
    rw [Tree.entry, Path.absolute, Tree.follow_cons rfl (plain_repeated h hslash hn).not_doubleDot
      (by rwa [length_encodeName_repeated h]), Tree.follow, List.nil_append, ok_bind, hat]
    rfl

theorem twins_empties : empties.Twins [longName] [shortName] where
  first := seat_repeated (by decide) (by decide) (by decide) (by decide) (by decide)
    ((at?_empties _).trans (if_pos (Or.inr (Or.inl rfl))))
  second := seat_repeated (by decide) (by decide) (by decide) (by decide) (by decide)
    ((at?_empties _).trans (if_pos (Or.inr (Or.inr rfl))))
  same way := by
    rw [at?_empties, at?_empties]
    simp [longName_ne, longName_ne.symm]

/-- The names of a path to nowhere. -/
def farName : String := repeated 'a' 195

def farNames : List String := List.replicate 20 farName

theorem plain_farName : Uri.Plain farName := plain_repeated (by decide) (by decide) (by decide)

theorem not_up_far : ".." ∉ farNames := fun hm =>
  plain_farName.not_doubleDot (List.eq_of_mem_replicate hm).symm

theorem sound_far : Path.Sound farNames := fun n hn => by
  rw [List.eq_of_mem_replicate hn]
  exact ⟨plain_farName.isName.namable, fun hm => absurd (mem_repeated hm) (by decide)⟩

theorem trim_of_not_blank {s : List Char} (h : ∀ c ∈ s, Text.isBlank c = false) :
    Text.trim s = s := by
  have hdrop : ∀ {u : List Char}, (∀ c ∈ u, Text.isBlank c = false) →
      u.dropWhile Text.isBlank = u := by
    intro u hu
    cases u with
    | nil => rfl
    | cons c rest => rw [List.dropWhile_cons_of_neg (by simp [hu c (List.mem_cons_self ..)])]
  rw [Text.trim, Text.trimStart, hdrop h, Text.trimEnd,
    hdrop fun c hc => h c (List.mem_reverse.mp hc), List.reverse_reverse]

theorem written_far : written ("/".intercalate farNames) = ⟨.relative, farNames⟩ := by
  have hblank : ∀ c ∈ ("/".intercalate farNames).toList, Text.isBlank c = false := by
    intro c hc
    rw [Path.toList_intercalate] at hc
    rcases Uri.mem_intercalate hc with rfl | ⟨s, hs, hcs⟩
    · decide
    · obtain ⟨n, hn, rfl⟩ := List.mem_map.mp hs
      rw [List.eq_of_mem_replicate hn] at hcs
      rw [mem_repeated hcs]
      decide
  rw [written, trim_of_not_blank hblank, String.ofList_toList]
  refine Path.ofString_intercalate (by decide) fun n hn => ?_
  rw [List.eq_of_mem_replicate hn]
  exact ⟨plain_farName.ne_empty, plain_farName.unbroken, plain_farName.not_dot⟩

theorem tooLong_far {c : Char} {n : Nat} (h : c.toNat < 0x80) (hslash : c ≠ '/') (hn : 2 < n) :
    (Path.absolute ([repeated c n] ++ farNames)).tooLong = true ↔ 174 < n := by
  have hspelled : ∀ m ∈ repeated c n :: farNames, Text.Spelled m.toList := by
    refine List.forall_mem_cons.mpr ⟨(plain_repeated h hslash hn).isName.spelled, fun m hm => ?_⟩
    rw [List.eq_of_mem_replicate hm]
    exact plain_farName.isName.spelled
  have hfar : (Text.encodeName farName).length = 195 := length_encodeName_repeated (by decide)
  rw [List.singleton_append, Path.tooLong_iff (List.cons_ne_nil _ _) hspelled, farNames,
    List.map_cons, List.sum_cons, List.map_replicate, length_encodeName_repeated h, hfar,
    List.sum_replicate_nat]
  unfold Disk.maxPath
  omega

theorem entry_far : empties.tree.entry (.absolute ([shortName] ++ farNames)) = .error .missing := by
  have hseat := twins_empties.second.follow
  have hlength : (Text.encodeName farName).length ≤ Tree.maxName := by
    rw [farName, length_encodeName_repeated (by decide)]
    decide
  have hfollow : empties.tree.follow [] ([shortName] ++ farNames) = .error .missing := by
    rw [Tree.follow_append, hseat, ok_bind, farNames, List.replicate_succ,
      Tree.follow_cons (by simp [at?_empties]) plain_farName.not_doubleDot hlength,
      List.replicate_succ, Tree.follow_of_none (by simp [at?_empties])]
  rw [Tree.entry, Path.absolute, hfollow]
  rfl

/-- A name of a byte that no text has. -/
def byteName : String := String.ofList [Char.ofNat 0x10DCFF]

/-- A directory of a schema that is what another one in it holds. -/
def pairAt (seat : String) : List (List String × Entry) :=
  [([seat], .directory), ([seat, "s.json"], .file (bytesOf "\x7b\"$ref\":\"x.json\"\x7d")),
    ([seat, "x.json"], .file (bytesOf "\x7b\"type\":\"object\"\x7d"))]

/-- A disk with such a directory twice. -/
def pairs : Disk := ⟨⟨pairAt byteName ++ pairAt "b"⟩, .absolute []⟩

/-- Only from the directory whose name is a text does the reference lead to the other schema. -/
theorem carriedOut_pairs :
    (carriedOut pairs (.absolute [byteName]) "s.json").mapError Failure.sort
        = .error (.missingReference, none) ∧
      carriedOut pairs (.absolute ["b"]) "s.json"
        = .ok (.mapping [(.text "type", .text "object")]) :=
  ⟨by decide +kernel, by decide +kernel⟩

/-- **A limit and a byte tell directories apart.** Two directories without files show failures of
different sorts for a path that is too long below one of them only. Two directories with the same
schemas show a schema and a failure, if the name of one is no text: its URI leads nowhere. -/
theorem file_untwinned :
    (empties.Twins [longName] [shortName] ∧
      written ("/".intercalate farNames) = ⟨.relative, farNames⟩ ∧ ".." ∉ farNames ∧
      (∀ way v, ¬empties.HoldsAt [longName] way v) ∧
      (file empties (.absolute [longName]) false ("/".intercalate farNames)).result.mapError
        Failure.sort = .error (.internal, some .longName) ∧
      (file empties (.absolute [shortName]) false ("/".intercalate farNames)).result.mapError
        Failure.sort = .error (.load, none)) ∧
    (∀ way, pairs.tree.at? ([byteName] ++ way) = pairs.tree.at? (["b"] ++ way)) ∧
      (file pairs (.absolute [byteName]) false "s.json").result.mapError Failure.sort
        = .error (.missingReference, none) ∧
      (file pairs (.absolute ["b"]) false "s.json").result
        = .ok (.mapping [(.text "type", .text "object")]) := by
  have hlong : (Path.absolute ([longName] ++ farNames)).tooLong = true :=
    (tooLong_far (by decide) (by decide) (by decide)).mpr (by decide)
  have hshort : (Path.absolute ([shortName] ++ farNames)).tooLong = false :=
    Bool.not_eq_true _ |>.mp (mt (tooLong_far (by decide) (by decide) (by decide)).mp (by decide))
  refine ⟨⟨twins_empties, written_far, not_up_far, ?_, ?_, ?_⟩, ?_, ?_, ?_⟩
  · rintro way v ⟨bytes, _, _, _, hat, -⟩
    simpa [empties] using Tree.mem_entries_of_at? hat
  · exact file_of_tooLong twins_empties.first written_far not_up_far sound_far hlong
  · exact file_of_missing twins_empties.second written_far not_up_far sound_far hshort entry_far
  · intro way
    simp [pairs, pairAt, Tree.at?, Tree.lookup_cons_eq, byteName]
  · rw [file_eq_finished, mapError_bind, carriedOut_pairs.1]
    rfl
  · rw [file_eq_finished, carriedOut_pairs.2]
    rfl

end SchemaDoc.Resolve
