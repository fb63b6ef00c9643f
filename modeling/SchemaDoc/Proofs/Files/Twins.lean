/-
SchemaDoc.Proofs.Files.Twins — two directories that hold the same.

A path that does not lead up stays below the directory that it starts in, and
what it comes to is decided there: below a directory with the same entries it
comes to the same. Only the limit on the bytes of a whole path looks at the
way that leads to the directory, and the wording of what went wrong shows it
(`Twins.bytes?`). Resolving such a path keeps its names, or fails alike
(`resolve_below`).

§1 following a path in parts, §2 names, §3 seats, §4 twins, §5 reading,
§6 resolving.
-/
import Mathlib.Algebra.GroupWithZero.Nat
import SchemaDoc.Proofs.Files.Tree
import SchemaDoc.Proofs.Uri.Relative

namespace SchemaDoc

/-! ## §1 Following a path in parts -/

namespace Tree

variable {t : Tree}

/-- A file at a place is among the entries. -/
theorem mem_entries_of_at? {names : List String} {bytes : List UInt8}
    (h : t.at? names = some (.file bytes)) : (names, .file bytes) ∈ t.entries := by
  unfold at? at h
  split at h
  · cases h
  · obtain ⟨before, after, he, -⟩ := List.lookup_eq_some_iff.mp h
    simp [he]

/-- A name in a directory is followed. -/
theorem follow_cons {here rest : List String} {name : String}
    (hat : t.at? here = some .directory) (hup : name ≠ "..")
    (hlength : (Text.encodeName name).length ≤ maxName) :
    t.follow here (name :: rest) = t.follow (here ++ [name]) rest := by
  rw [follow, hat]
  simp only [hup, Nat.not_lt.mpr hlength, if_false]

/-- Nothing is found below what is not there. -/
theorem follow_of_none {here rest : List String} {name : String} (hat : t.at? here = none) :
    t.follow here (name :: rest) = .error .missing := by
  rw [follow, hat]

theorem follow_append : ∀ (names rest here : List String),
    t.follow here (names ++ rest) = t.follow here names >>= fun place => t.follow place rest
  | [], rest, here => by rw [follow]; rfl
  | name :: names, rest, here => by
    rw [List.cons_append, follow, follow]
    split
    · rfl
    · rfl
    · split
      · exact follow_append names rest _
      · split
        · rfl
        · exact follow_append names rest _

/-- Names that do not lead up lead to themselves. -/
theorem eq_append_of_follow : ∀ {names here place : List String}, ".." ∉ names →
    t.follow here names = .ok place → place = here ++ names
  | [], _, _, _, h => by
    rw [follow] at h
    cases h
    exact (List.append_nil _).symm
  | name :: rest, here, place, hup, h => by
    obtain ⟨hname, hrest⟩ := not_or.mp (mt List.mem_cons.mpr hup)
    rw [follow] at h
    split at h
    · cases h
    · cases h
    · rw [if_neg (Ne.symm hname)] at h
      split at h
      · cases h
      · rw [eq_append_of_follow hrest h, List.append_assoc, List.singleton_append]

/-- The entry of names that do not lead up is the one at that place. -/
theorem at?_of_entry {names : List String} {e : Entry} (hup : ".." ∉ names)
    (h : t.entry (Path.absolute names) = .ok e) :
    t.follow [] names = .ok names ∧ t.at? names = some e := by
  obtain ⟨place, hplace, hat⟩ := bind_eq_ok.mp h
  obtain rfl : place = names := eq_append_of_follow hup hplace
  refine ⟨hplace, ?_⟩
  split at hat
  · rename_i found hfound
    cases hat
    exact hfound
  · cases hat

end Tree

/-! ## §2 Names -/

namespace Path

variable {names way : List String}

theorem rootOf_of_head? : ∀ {s : List Char}, s.head? ≠ some '/' → rootOf s = .relative
  | [], _ => rfl
  | c :: rest, h => by
    have hc : c ≠ '/' := fun he => h (congrArg some he)
    unfold rootOf
    split <;> simp_all

/-- Names put together are a path of their own. -/
theorem ofString_intercalate (hne : names ≠ [])
    (h : ∀ n ∈ names, n ≠ "" ∧ '/' ∉ n.toList ∧ n ≠ ".") :
    ofString ("/".intercalate names) = ⟨.relative, names⟩ := by
  have hhead := head?_intercalate fun n hn => ⟨(h n hn).1, (h n hn).2.1⟩
  rw [ofString, rootOf_of_head? hhead, toList_intercalate, namesOf,
    Text.cutAt_intercalate (by simpa using hne) (List.forall_mem_map.mpr fun n hn => (h n hn).2.1),
    Uri.filtered_names fun n hn => ⟨(h n hn).1, (h n hn).2.2⟩]

theorem ofString_of_down {name : String} (h : Down name) : ofString name = ⟨.relative, [name]⟩ := by
  have hone : ofString ("/".intercalate [name]) = ⟨.relative, [name]⟩ :=
    ofString_intercalate (List.cons_ne_nil _ _)
      (List.forall_mem_singleton.mpr ⟨h.ne_empty, h.unbroken, h.not_dot⟩)
  rwa [String.intercalate_singleton] at hone

/-- Names that files can have. -/
def Sound (names : List String) : Prop :=
  ∀ n ∈ names, Text.Namable n.toList ∧ '\x00' ∉ n.toList

theorem sound_append : Sound (names ++ way) ↔ Sound names ∧ Sound way :=
  List.forall_mem_append

theorem nul_mem_toString :
    '\x00' ∈ (absolute names).toString.toList ↔ ∃ n ∈ names, '\x00' ∈ n.toList := by
  have htext : (absolute names).toString.toList
      = '/' :: ['/'].intercalate (names.map String.toList) := by
    simp [toString, absolute]
  rw [htext, List.mem_cons, or_iff_right (by decide)]
  constructor
  · intro h
    rcases Uri.mem_intercalate h with h | ⟨s, hs, h⟩
    · cases h
    · obtain ⟨n, hn, rfl⟩ := List.mem_map.mp hs
      exact ⟨n, hn, h⟩
  · rintro ⟨n, hn, h⟩
    exact Uri.subset_intercalate (List.mem_map_of_mem hn) h

/-- What is wrong with the names of a path. -/
def faultOf (names : List String) : Option FaultCategory :=
  if names.any fun n => (Text.unnamable? n).isSome then some .encoding
  else if names.any fun n => n.toList.contains '\x00' then some .value
  else none

theorem category_fault? (names : List String) :
    (absolute names).fault?.map Fault.category = faultOf names := by
  have hnamable : Text.unnamable? (absolute names).toString = none ↔
      ∀ n ∈ names, Text.unnamable? n = none :=
    Text.unnamable?_eq_none.trans ((namable_toString (p := absolute names) nofun).trans
      (forall₂_congr fun n _ => Text.unnamable?_eq_none.symm))
  have hnul : (absolute names).toString.toList.contains '\x00'
      = names.any fun n => n.toList.contains '\x00' := by
    rw [Bool.eq_iff_iff, List.any_eq_true, List.contains_iff_mem, nul_mem_toString]
    simp only [List.contains_iff_mem]
  unfold fault? textFault? faultOf
  rw [hnul]
  cases hfound : Text.unnamable? (absolute names).toString with
  | none =>
    have hnone : (names.any fun n => (Text.unnamable? n).isSome) = false := by
      simpa using hnamable.mp hfound
    rw [hnone]
    simp only [Bool.false_eq_true, if_false]
    split <;> rfl
  | some found =>
    have hany : (names.any fun n => (Text.unnamable? n).isSome) = true := by
      by_contra hnot
      have hall := hnamable.mpr (by simpa using hnot)
      rw [hall] at hfound
      cases hfound
    rw [hany]
    rfl

theorem faultOf_eq_none : faultOf names = none ↔ Sound names := by
  unfold faultOf Sound
  simp only [← Text.unnamable?_eq_none, forall₂_and]
  split
  · rename_i h
    obtain ⟨n, hn, hsome⟩ := List.any_eq_true.mp h
    refine iff_of_false nofun fun hall => ?_
    rw [hall.1 n hn] at hsome
    cases hsome
  · rename_i h
    split
    · rename_i hnul
      obtain ⟨n, hn, hnul⟩ := List.any_eq_true.mp hnul
      exact iff_of_false nofun fun hall => hall.2 n hn (List.contains_iff_mem.mp hnul)
    · rename_i hnul
      exact iff_of_true rfl ⟨by simpa using h, by simpa using hnul⟩

theorem fault?_eq_none : (absolute names).fault? = none ↔ Sound names := by
  rw [← faultOf_eq_none, ← category_fault?, Option.map_eq_none_iff]

/-- Sound names add nothing that is wrong. -/
theorem faultOf_append (h : Sound names) (way : List String) :
    faultOf (names ++ way) = faultOf way := by
  have hnone : (names.any fun n => (Text.unnamable? n).isSome) = false ∧
      (names.any fun n => n.toList.contains '\x00') = false := by
    simpa [Sound, Text.unnamable?_eq_none, ← forall₂_and] using h
  unfold faultOf
  rw [List.any_append, List.any_append, hnone.1, hnone.2, Bool.false_or, Bool.false_or]

/-- Two faults are of one sort. -/
def SameFault (f g : Fault) : Prop := f.category = g.category

end Path

/-! ## §3 Seats -/

/-- A path has more bytes than a disk admits. -/
def Path.tooLong (p : Path) : Bool := Disk.maxPath < (Text.encodeName p.toString).length

theorem Path.tooLong_iff {names : List String} (hne : names ≠ [])
    (h : ∀ n ∈ names, Text.Spelled n.toList) : (Path.absolute names).tooLong = true ↔
      Disk.maxPath < (names.map fun n => (Text.encodeName n).length + 1).sum := by
  rw [tooLong, decide_eq_true_eq, Uri.encodeName_absolute hne h, List.length_flatMap]
  rfl

/-- A directory of a disk, by the names that lead to it from the root, which are texts of
characters. -/
structure Disk.Seat (d : Disk) (names : List String) : Prop where
  plain : ∀ n ∈ names, Uri.Plain n
  no_nul : ∀ n ∈ names, '\x00' ∉ n.toList
  present : d.tree.entry (.absolute names) = .ok .directory

namespace Disk

variable {d : Disk} {names a b way : List String}

theorem Seat.down (h : d.Seat names) : ∀ n ∈ names, Path.Down n := fun n hn => (h.plain n hn).toDown

theorem Seat.not_up (h : d.Seat names) : ".." ∉ names := fun hm => (h.down _ hm).not_doubleDot rfl

theorem Seat.not_up_append (h : d.Seat a) (hup : ".." ∉ way) : ".." ∉ a ++ way := by
  rw [List.mem_append, not_or]
  exact ⟨h.not_up, hup⟩

theorem Seat.sound (h : d.Seat names) : Path.Sound names := fun n hn =>
  ⟨(h.down n hn).isName.namable, h.no_nul n hn⟩

theorem Seat.follow (h : d.Seat names) : d.tree.follow [] names = .ok names :=
  (Tree.at?_of_entry h.not_up h.present).1

/-! ## §4 Twins -/

/-- Two directories of a disk that hold the same. -/
structure Twins (d : Disk) (a b : List String) : Prop where
  first : d.Seat a
  second : d.Seat b
  same : ∀ way, d.tree.at? (a ++ way) = d.tree.at? (b ++ way)

/-- A path is over the limit below both directories, or below none. -/
def SameLimit (a b way : List String) : Prop :=
  (Path.absolute (a ++ way)).tooLong = (Path.absolute (b ++ way)).tooLong

instance (a b way : List String) : Decidable (SameLimit a b way) :=
  inferInstanceAs (Decidable (_ = _))

/-- Names that do not lead up lead to the same place below both. -/
theorem Twins.follow (h : d.Twins a b) : ∀ {way : List String} (here : List String), ".." ∉ way →
    ∃ r : Except Obstacle (List String), d.tree.follow (a ++ here) way = r.map (a ++ ·) ∧
      d.tree.follow (b ++ here) way = r.map (b ++ ·)
  | [], here, _ => ⟨.ok here, by rw [Tree.follow]; rfl, by rw [Tree.follow]; rfl⟩
  | name :: rest, here, hup => by
    obtain ⟨hname, hrest⟩ := not_or.mp (mt List.mem_cons.mpr hup)
    have hne : name ≠ ".." := Ne.symm hname
    rw [Tree.follow, Tree.follow, h.same here]
    split
    · exact ⟨.error .missing, rfl, rfl⟩
    · exact ⟨.error .file, rfl, rfl⟩
    · simp only [if_neg hne]
      split
      · exact ⟨.error .tooLong, rfl, rfl⟩
      · rw [List.append_assoc, List.append_assoc]
        exact h.follow (here ++ [name]) hrest

/-- So they lead to the same entry. -/
theorem Twins.entry (h : d.Twins a b) (hup : ".." ∉ way) :
    d.tree.entry (.absolute (a ++ way)) = d.tree.entry (.absolute (b ++ way)) := by
  obtain ⟨r, ha, hb⟩ := h.follow [] hup
  rw [List.append_nil] at ha hb
  simp only [Tree.entry, Path.absolute, Tree.follow_append, h.first.follow, h.second.follow, ok_bind,
    ha, hb]
  cases r with
  | error o => rfl
  | ok place =>
    simp only [Except.map, ok_bind]
    rw [h.same place]

/-! ## §5 Reading -/

theorem entry_absolute (names : List String) : d.entry (.absolute names)
    = if (Path.absolute names).tooLong then .error .tooLong else d.tree.entry (.absolute names) := by
  unfold entry Path.tooLong
  simp only [decide_eq_true_eq, gt_iff_lt]
  rfl

/-- **What is read below one directory is read below the other**, unless the path is too long below
one of them only. -/
theorem Twins.bytes? (h : d.Twins a b) (hup : ".." ∉ way) (hlimit : SameLimit a b way) :
    Parallel Eq Path.SameFault (d.bytes? (.absolute (a ++ way)))
      (d.bytes? (.absolute (b ++ way))) := by
  have hfault : (Path.absolute (a ++ way)).fault?.isSome
      = (Path.absolute (b ++ way)).fault?.isSome := by
    rw [← Option.isSome_map (f := Fault.category), Path.category_fault?,
      Path.faultOf_append h.first.sound, ← Path.faultOf_append h.second.sound,
      ← Path.category_fault?, Option.isSome_map]
  unfold Disk.bytes?
  rw [hfault, entry_absolute, entry_absolute, h.entry hup, hlimit]
  split
  · exact .ok rfl
  · split
    · exact .ok rfl
    · exact .error rfl
    · exact .ok rfl

/-- A path that is too long cannot be asked for its bytes. -/
theorem bytes?_of_tooLong (hsound : Path.Sound names) (h : (Path.absolute names).tooLong = true) :
    d.bytes? (.absolute names)
      = .error (.tooLongName (Text.quote (Path.absolute names).toString)) := by
  rw [Disk.bytes?, Path.fault?_eq_none.mpr hsound, entry_absolute, if_pos h]
  rfl

/-- What is read lies in the tree. -/
theorem at?_of_bytes? {bytes : List UInt8} (hup : ".." ∉ names)
    (h : d.bytes? (.absolute names) = .ok (some bytes)) : d.tree.at? names = some (.file bytes) := by
  unfold Disk.bytes? at h
  split at h
  · cases h
  · split at h
    · rename_i found hentry
      cases h
      rw [entry_absolute] at hentry
      split at hentry
      · cases hentry
      · exact (Tree.at?_of_entry hup hentry).2
    · cases h
    · cases h

/-- Below a directory there is a file only behind some name. -/
theorem Seat.ne_nil_of_file {bytes : List UInt8} (h : d.Seat a)
    (hat : d.tree.at? (a ++ way) = some (.file bytes)) : way ≠ [] := by
  rintro rfl
  rw [List.append_nil, (Tree.at?_of_entry h.not_up h.present).2] at hat
  cases hat

/-- What is found below both of two directories is a file below the first one. -/
theorem Twins.found (h : d.Twins a b) (hup : ".." ∉ way) (hlimit : SameLimit a b way) :
    Parallel (fun x y => x = y ∧ ∀ bytes, x = some bytes →
        d.tree.at? (a ++ way) = some (.file bytes)) Path.SameFault
      (d.bytes? (.absolute (a ++ way))) (d.bytes? (.absolute (b ++ way))) := by
  have hbytes := h.bytes? hup hlimit
  have hnot := h.first.not_up_append hup
  generalize hx : d.bytes? (.absolute (a ++ way)) = x at hbytes ⊢
  generalize d.bytes? (.absolute (b ++ way)) = y at hbytes ⊢
  cases hbytes with
  | error hsame => exact .error hsame
  | @ok found _ hsame =>
    exact .ok ⟨hsame, fun bytes hbytes => at?_of_bytes? hnot (hbytes ▸ hx)⟩

end Disk

/-! ## §6 Resolving -/

namespace Path

open Disk

variable {d : Disk} {a b before names way : List String}

/-- Sound names that do not lead up are passed. -/
theorem resolveFrom_append (hup : ".." ∉ names) (h : Sound (before.reverse ++ names))
    (way : List String) :
    resolveFrom before (names ++ way) = resolveFrom (names.reverse ++ before) way := by
  induction names generalizing before with
  | nil => rfl
  | cons name rest ih =>
    obtain ⟨hname, hrest⟩ := not_or.mp (mt List.mem_cons.mpr hup)
    have hsplit : before.reverse ++ name :: rest = (name :: before).reverse ++ rest := by simp
    have hsound : Sound (name :: before).reverse := (sound_append.mp (hsplit ▸ h)).1
    rw [List.cons_append, resolveFrom, if_neg (Ne.symm hname), fault?_eq_none.mpr hsound]
    simp only
    rw [ih hrest (hsplit ▸ h), List.reverse_cons, List.append_assoc, List.singleton_append]

theorem resolveFrom_start (hup : ".." ∉ names) (h : Sound names) (way : List String) :
    resolveFrom [] (names ++ way) = resolveFrom names.reverse way := by
  have hpass := resolveFrom_append hup (show Sound (([] : List String).reverse ++ names) from h) way
  rwa [List.append_nil] at hpass

/-- Resolving sound names that do not lead up keeps them. -/
theorem resolve_of_sound (hup : ".." ∉ names) (h : Sound names) (workingDirectory : Path) :
    (absolute names).resolve workingDirectory = .ok (absolute names) := by
  have hjoin : workingDirectory.join (absolute names) = absolute names := if_pos rfl
  have hpass := resolveFrom_start hup h []
  rw [List.append_nil, resolveFrom, List.reverse_reverse] at hpass
  rw [resolve, hjoin]
  exact congrArg (Except.map absolute) hpass

/-- A sound way below a directory that does not lead up resolves to itself. -/
theorem resolve_seat (h : d.Seat a) (hup : ".." ∉ way) (hsound : Sound way) :
    d.resolve (absolute (a ++ way)) = .ok (absolute (a ++ way)) :=
  resolve_of_sound (h.not_up_append hup) (sound_append.mpr ⟨h.sound, hsound⟩) _

/-- Two results of resolving are the same way below two directories. -/
structure Below (a b way : List String) (p q : Path) : Prop where
  first : p = absolute (a ++ way)
  second : q = absolute (b ++ way)
  sound : Sound way

theorem resolveFrom_below (ha : Sound a) (hb : Sound b) : ∀ {way : List String} (done : List String),
    ".." ∉ way → Sound done →
    Parallel (fun x y => Below a b (done ++ way) (absolute x) (absolute y)) SameFault
      (resolveFrom (a ++ done).reverse way) (resolveFrom (b ++ done).reverse way)
  | [], done, _, hdone => by
    rw [resolveFrom, resolveFrom]
    refine .ok ⟨?_, ?_, ?_⟩ <;> simp [hdone]
  | name :: rest, done, hup, hdone => by
    obtain ⟨hname, hrest⟩ := not_or.mp (mt List.mem_cons.mpr hup)
    have hnext : ∀ seat : List String,
        (name :: (seat ++ done).reverse).reverse = seat ++ (done ++ [name]) := by simp
    have hcons : ∀ seat : List String,
        name :: (seat ++ done).reverse = (seat ++ (done ++ [name])).reverse := by simp
    have hfault := (category_fault? (a ++ (done ++ [name]))).trans
      ((faultOf_append ha _).trans ((faultOf_append hb _).symm.trans
        (category_fault? (b ++ (done ++ [name]))).symm))
    rw [resolveFrom, resolveFrom, if_neg (Ne.symm hname), if_neg (Ne.symm hname), hnext, hnext, hcons,
      hcons]
    cases hfa : (absolute (a ++ (done ++ [name]))).fault? with
    | some f =>
      rw [hfa] at hfault
      obtain ⟨g, hg, hsame⟩ := Option.map_eq_some_iff.mp hfault.symm
      rw [hg]
      exact .error hsame.symm
    | none =>
      rw [hfa] at hfault
      rw [Option.map_eq_none_iff.mp hfault.symm]
      have hsound := (sound_append.mp (fault?_eq_none.mp hfa)).2
      simpa using resolveFrom_below ha hb (done ++ [name]) hrest hsound

/-- **A path that does not lead up is resolved alike** from two directories. -/
theorem resolve_below (h : d.Twins a b) (hup : ".." ∉ way) :
    Parallel (Below a b way) SameFault (d.resolve (absolute (a ++ way)))
      (d.resolve (absolute (b ++ way))) := by
  have hseat : ∀ {seat : List String}, d.Seat seat → d.resolve (absolute (seat ++ way))
      = (resolveFrom (seat ++ []).reverse way).map absolute := by
    intro seat hs
    have hjoin : d.workingDirectory.join (absolute (seat ++ way)) = absolute (seat ++ way) :=
      if_pos rfl
    rw [Disk.resolve, resolve, hjoin, List.append_nil, ← resolveFrom_start hs.not_up hs.sound way]
    rfl
  rw [hseat h.first, hseat h.second]
  exact (resolveFrom_below h.first.sound h.second.sound [] hup nofun).map fun _ _ hxy => hxy

end Path

end SchemaDoc
