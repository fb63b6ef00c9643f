/-
SchemaDoc.Proofs.Files.Namable — texts that names of files can have.

Halves of surrogate pairs are in the name of a file only where they stand for
single bytes. A slash keeps the halves on both of its sides apart, so a path
can be named exactly if each of its names can; what a path is resolved to can.
A document that lies at a resolved path has a URI in every directory that can
be resolved (`exists_rootUri`).

§1 halves around a slash, §2 paths, §3 resolving, §4 URIs.
-/
import Mathlib.Data.List.TakeWhile
import SchemaDoc.Proofs.Files.Path
import SchemaDoc.Proofs.Uri.Fragment

namespace SchemaDoc

/-! ## §1 Halves around a slash -/

namespace Text

/-- A text that the name of a file can have: its halves stand for bytes. -/
def Namable (s : List Char) : Prop :=
  ∀ n ∈ (codes s).filter isHalf, standsForByte n = true

theorem unnamable?_eq_none {s : String} : unnamable? s = none ↔ Namable s.toList := by
  unfold Namable
  constructor
  · intro h n hn
    obtain ⟨hn, hhalf⟩ := List.mem_filter.mp hn
    exact Uri.passes_of_halves? h n hn hhalf
  · intro h
    have hall : (codes s.toList).takeWhile (fun n => !isHalf n || standsForByte n)
        = codes s.toList := by
      refine List.takeWhile_eq_self_iff.mpr fun n hn => ?_
      by_cases hhalf : isHalf n = true
      · simp [h n (List.mem_filter.mpr ⟨hn, hhalf⟩)]
      · simp [hhalf]
    simp [unnamable?, halves?, hall]

theorem isHalf_codeOf_mark : isHalf (codeOf mark) = false := by
  simp [codeOf, toNat_mark, isHalf, halfShift]

/-- A slash may hide behind a mark, but it is no half either way. -/
theorem halves_append_slash (s t : List Char) : (codes (s ++ '/' :: t)).filter isHalf
    = (codes s).filter isHalf ++ (codes t).filter isHalf := by
  fun_induction codes s with
  | case1 =>
    rw [List.nil_append, Reference.codes_slash, List.filter_cons_of_neg (by decide)]
    rfl
  | case2 c =>
    rw [List.singleton_append]
    by_cases hc : c = mark
    · subst hc
      rw [codes_mark, List.filter_cons_of_neg (by decide),
        List.filter_cons_of_neg (by simp [isHalf_codeOf_mark])]
      rfl
    · rw [codes_cons hc, Reference.codes_slash, List.filter_cons, List.filter_cons_of_neg (by decide)]
      split <;> simp_all
  | case3 d rest ih =>
    rw [List.cons_append, List.cons_append, codes_mark, List.filter_cons, ih, List.filter_cons]
    split <;> rfl
  | case4 c d rest hc ih =>
    rw [List.cons_append, List.cons_append, codes, if_neg hc, List.filter_cons, List.filter_cons]
    rw [List.cons_append] at ih
    rw [ih]
    split <;> rfl

theorem namable_append_slash {s t : List Char} :
    Namable (s ++ '/' :: t) ↔ Namable s ∧ Namable t := by
  unfold Namable
  rw [halves_append_slash, List.forall_mem_append]

theorem namable_nil : Namable [] := nofun

theorem namable_intercalate : ∀ {parts : List (List Char)},
    Namable (['/'].intercalate parts) ↔ ∀ part ∈ parts, Namable part
  | [] => by simp [namable_nil]
  | [part] => by simp
  | part :: next :: rest => by
    rw [List.intercalate_cons_cons, List.append_assoc, List.singleton_append,
      namable_append_slash, namable_intercalate, List.forall_mem_cons (a := part)]

theorem cutAt_ne_nil (mark : Char) (s : List Char) : cutAt mark s ≠ [] := by
  fun_cases cutAt mark s <;> simp

/-- What a text is cut into at slashes, put together again. -/
theorem intercalate_cutAt : ∀ s : List Char, ['/'].intercalate (cutAt '/' s) = s
  | [] => rfl
  | c :: rest => by
    have ih := intercalate_cutAt rest
    obtain ⟨part, parts, h⟩ := List.exists_cons_of_ne_nil (cutAt_ne_nil '/' rest)
    rw [cutAt, h]
    rw [h] at ih
    split
    · rename_i hc
      rw [List.intercalate_cons_cons, ih, hc]
      rfl
    · cases parts with
      | nil => simpa using ih
      | cons next parts =>
        rw [List.intercalate_cons_cons] at ih ⊢
        simpa using ih

end Text

/-! ## §2 Paths -/

namespace Path

open Text

/-- Every name of the path can be the name of a file. -/
def Namable (p : Path) : Prop := ∀ n ∈ p.names, Text.Namable n.toList

theorem toList_intercalate (names : List String) :
    ("/".intercalate names).toList = ['/'].intercalate (names.map String.toList) := by
  rw [String.toList_intercalate]
  rfl

theorem namable_intercalate_names {names : List String} :
    Text.Namable (['/'].intercalate (names.map String.toList)) ↔
      ∀ n ∈ names, Text.Namable n.toList := by
  rw [namable_intercalate, List.forall_mem_map]

/-- The text of a path can be named exactly if its names can. -/
theorem namable_toString {p : Path} (hp : p.root ≠ .relative) :
    Text.Namable p.toString.toList ↔ p.Namable := by
  have hslash : ∀ s : List Char, Text.Namable ('/' :: s) ↔ Text.Namable s := fun s =>
    (namable_append_slash (s := [])).trans (and_iff_right namable_nil)
  unfold Namable
  rw [← namable_intercalate_names, ← toList_intercalate]
  unfold toString
  cases h : p.root with
  | relative => exact absurd h hp
  | slash => simp only [String.toList_append]; exact hslash _
  | doubleSlash => simp only [String.toList_append]; exact (hslash _).trans (hslash _)

theorem namable_ofString {s : String} (h : Text.Namable s.toList) : (ofString s).Namable := by
  rw [← intercalate_cutAt s.toList, namable_intercalate] at h
  intro n hn
  obtain ⟨part, hpart, rfl⟩ := List.mem_map.mp hn
  rw [String.toList_ofList]
  exact h part (List.mem_filter.mp hpart).1

theorem Namable.join {p q : Path} (hp : p.Namable) (hq : q.Namable) : (p.join q).Namable := by
  unfold Path.join
  split
  · exact hq
  · exact List.forall_mem_append.mpr ⟨hp, hq⟩

theorem Namable.fileName {p : Path} (h : p.Namable) : Text.Namable p.fileName.toList := by
  unfold Path.fileName
  cases hl : p.names.getLast? with
  | none => exact namable_nil
  | some n => exact h n (List.mem_of_getLast? hl)

/-! ## §3 Resolving -/

/-- Each name is looked at when it is met, so what is resolved can be named. -/
theorem namable_of_resolveFrom {before names found : List String}
    (h : resolveFrom before names = .ok found) (hbefore : ∀ n ∈ before, Text.Namable n.toList) :
    ∀ n ∈ found, Text.Namable n.toList := by
  fun_induction resolveFrom before names with
  | case1 before =>
    cases h
    exact fun n hn => hbefore n (List.mem_reverse.mp hn)
  | case2 before rest ih => exact ih h fun n hn => hbefore n (List.mem_of_mem_tail hn)
  | case3 => cases h
  | case4 before name rest _ hfault ih =>
    refine ih h (List.forall_mem_cons.mpr ⟨?_, hbefore⟩)
    have hnone : unnamable? (absolute (name :: before).reverse).toString = none := by
      unfold fault? textFault? at hfault
      split at hfault
      · cases hfault
      · assumption
    have hrooted : (absolute (name :: before).reverse).root ≠ .relative := by rintro ⟨⟩
    exact (namable_toString hrooted).mp (unnamable?_eq_none.mp hnone) name (by simp [absolute])

theorem namable_of_resolve {p workingDirectory q : Path}
    (h : p.resolve workingDirectory = .ok q) : q.Namable ∧ q.root = .slash := by
  obtain ⟨names, hnames, rfl⟩ := map_eq_ok.mp h
  exact ⟨namable_of_resolveFrom hnames nofun, rfl⟩

end Path

/-! ## §4 URIs -/

/-- A path that can be named has a URI, unless it starts at a working directory. -/
theorem Uri.ofPath_of_namable {p : Path} (h : p.Namable) (hp : p.root ≠ .relative) :
    Uri.ofPath p = .ok ("file://" ++ Uri.escape (Text.encodeName p.toString)) := by
  rw [Uri.ofPath, Text.unnamable?_eq_none.mpr ((Path.namable_toString hp).mpr h)]

/-- A document with the name of a resolved path has a URI in every directory that can be resolved. -/
theorem Reference.exists_rootUri {disk : Disk} {base directory p found : Path}
    (hbase : disk.resolve base = .ok directory) (hfound : disk.resolve p = .ok found) :
    ∃ uri, rootUri disk base found.fileName = .ok uri := by
  obtain ⟨hdirectory, hroot⟩ := Path.namable_of_resolve hbase
  have hname := Path.namable_ofString (Path.namable_of_resolve hfound).1.fileName
  rw [rootUri, hbase, ok_bind]
  refine ⟨_, Uri.ofPath_of_namable (hdirectory.join hname) ?_⟩
  unfold Path.join
  split
  · rename_i habs
    simpa [Path.isAbsolute] using habs
  · rw [hroot]
    decide

end SchemaDoc
