/-
SchemaDoc.Proofs.Files.Suffix — paths that end in a closing brace.

The format of a schema file is told by the suffix of its name, and none of the
known suffixes has a brace. A path keeps its last character through trimming,
joining and resolving, so no file is ever read by a path that ends in a brace
(`not_braceEnded_of_file`).
-/
import SchemaDoc.Proofs.Failing
import SchemaDoc.Proofs.Files.Path
import SchemaDoc.Proofs.Text.Cut
import SchemaDoc.Resolve

namespace SchemaDoc

namespace Text

/-- Lower case keeps braces. -/
theorem brace_mem_lowerAfter {before s : List Char} (h : '\x7d' ∈ s) :
    '\x7d' ∈ lowerAfter before s := by
  induction s generalizing before with
  | nil => cases h
  | cons c rest ih =>
    rw [lowerAfter]
    rcases List.mem_cons.mp h with rfl | h
    · exact List.mem_append_left _ (List.mem_singleton_self _)
    · exact List.mem_append_right _ (ih h)

theorem getLast?_trim {c : Char} {s : List Char} (h : s.getLast? = some c)
    (hc : isBlank c = false) : (trim s).getLast? = some c := by
  have hend : ∀ {u : List Char}, u.getLast? = some c → (trimEnd u).getLast? = some c := by
    intro u hu
    obtain ⟨r, hr⟩ := List.head?_eq_some_iff.mp (List.head?_reverse.trans hu)
    rw [trimEnd, hr, List.dropWhile_cons_of_neg (by simp [hc])]
    simp
  refine hend ?_
  obtain ⟨u, rfl⟩ := List.getLast?_eq_some_iff.mp h
  rw [trimStart, List.dropWhile_append, List.dropWhile_cons_of_neg (by simp [hc])]
  split
  · rfl
  · simp

end Text

/-- A path ends in a closing brace. -/
def BraceEnded (path : String) : Prop := path.toList.getLast? = some '\x7d'

theorem not_braceEnded_dots : ¬BraceEnded ".." := by
  unfold BraceEnded
  decide

theorem Format.ofSuffix?_eq_none {s : String} (h : s = "" ∨ '\x7d' ∈ s.toList) :
    Format.ofSuffix? s = none := by
  have hne : ∀ known : String, known ≠ "" → '\x7d' ∉ known.toList → s ≠ known := by
    rintro known hempty hbrace rfl
    exact h.elim hempty hbrace
  simp [Format.ofSuffix?, hne ".yaml" (by decide) (by decide), hne ".yml" (by decide) (by decide),
    hne ".json" (by decide) (by decide)]

namespace Path

theorem getLast?_names_ofString {s : String} (h : BraceEnded s) :
    ∃ n, (ofString s).names.getLast? = some n ∧ BraceEnded n := by
  obtain ⟨parts, part, hcut, hpart⟩ := Text.exists_cutAt_append_last (show '\x7d' ≠ '/' by decide) h
  have hkept : (!part.isEmpty && part != ['.']) = true := by
    simp only [Bool.and_eq_true, Bool.not_eq_true', List.isEmpty_eq_false_iff, bne_iff_ne]
    constructor
    · rintro rfl
      cases hpart
    · rintro rfl
      cases hpart
  refine ⟨String.ofList part, ?_, by rwa [BraceEnded, String.toList_ofList]⟩
  have hfilter : [part].filter (fun part => !part.isEmpty && part != ['.']) = [part] :=
    List.filter_cons_of_pos hkept
  rw [ofString, namesOf, hcut, List.filter_append, hfilter]
  simp

theorem getLast?_join {p q : Path} {n : String} (h : q.names.getLast? = some n) :
    (p.join q).names.getLast? = some n := by
  unfold Path.join
  split
  · exact h
  · rw [List.getLast?_append, h]
    rfl

theorem getLast?_settleFrom {n : String} (hn : n ≠ "..") : ∀ {before names : List String},
    names.getLast? = some n → (settleFrom before names).getLast? = some n
  | _, [], h => nomatch h
  | before, [name], h => by
    obtain rfl : name = n := Option.some.inj h
    simp [settleFrom, hn]
  | before, name :: next :: rest, h => by
    rw [List.getLast?_cons_cons] at h
    rw [settleFrom]
    split
    · exact getLast?_settleFrom hn h
    · exact getLast?_settleFrom hn h

/-- Resolving a path keeps its last name, unless that is a double dot. -/
theorem fileName_resolve {p workingDirectory q : Path} {n : String} (hn : n ≠ "..")
    (h : p.names.getLast? = some n) (hq : p.resolve workingDirectory = .ok q) :
    q.fileName = n := by
  obtain ⟨names, hnames, rfl⟩ := map_eq_ok.mp hq
  have hlast : (settleFrom [] (workingDirectory.join p).names).getLast? = some n :=
    getLast?_settleFrom hn (getLast?_join h)
  rw [← eq_settleFrom_of_resolveFrom hnames] at hlast
  simp [fileName, absolute, hlast]

theorem brace_mem_suffix {p : Path} (h : BraceEnded p.fileName) :
    p.suffix = "" ∨ '\x7d' ∈ p.suffix.toList := by
  unfold suffix
  simp only
  split
  · exact Or.inl rfl
  · refine Or.inr ?_
    obtain ⟨rest, hrest⟩ : ∃ rest, p.fileName.toList.reverse = '\x7d' :: rest := by
      rw [BraceEnded, ← List.head?_reverse] at h
      exact List.head?_eq_some_iff.mp h
    rw [hrest, String.toList_ofList]
    simp

end Path

theorem Load.ofSuffix?_of_file {disk : Disk} {path : Path} {document : Value}
    (h : Load.file disk path = .ok document) :
    Format.ofSuffix? (Text.lower path.suffix) ≠ none := by
  obtain ⟨bytes, -, h⟩ := bind_eq_ok.mp h
  intro hnone
  split at h
  · cases h
  · simp only [hnone] at h
    cases h

theorem Logged.lift_result {α : Type} (r : Except Failure α) : (liftM r : Logged α).result = r :=
  rfl

/-- A schema file without its history. -/
theorem Resolve.file_result (disk : Disk) (base : Path) (strict : Bool) (path : String) :
    (Resolve.file disk base strict path).result = (do
      let found ← orFail (Load.locate disk path base)
      let document ← Load.file disk found
      let schema ← (inlined disk base found document).result
      finished strict schema) := by
  unfold Resolve.file
  simp only [Logged.bind_result, Logged.tell_result, Logged.lift_result]
  rfl

/-- No file is read whose path ends in a brace: none of the known suffixes does. -/
theorem not_braceEnded_of_file {disk : Disk} {base : Path} {strict : Bool} {path : String}
    {schema : Value} (h : (Resolve.file disk base strict path).result = .ok schema) :
    ¬BraceEnded path := by
  intro hbrace
  rw [Resolve.file_result] at h
  obtain ⟨found, hlocate, h⟩ := bind_eq_ok.mp h
  obtain ⟨document, hload, -⟩ := bind_eq_ok.mp h
  have htrim : BraceEnded (String.ofList (Text.trim path.toList)) := by
    rw [BraceEnded, String.toList_ofList]
    exact Text.getLast?_trim hbrace (by decide)
  obtain ⟨n, hn, hname⟩ := Path.getLast?_names_ofString htrim
  have hresolve := orFail_eq_ok.mp hlocate
  rw [Load.locate, Disk.resolve] at hresolve
  have hdots : n ≠ ".." := by
    rintro rfl
    exact not_braceEnded_dots hname
  have hfound := Path.fileName_resolve hdots (Path.getLast?_join hn) hresolve
  rw [← hfound] at hname
  refine Load.ofSuffix?_of_file hload (Format.ofSuffix?_eq_none ?_)
  rw [Text.lower]
  rcases Path.brace_mem_suffix hname with hsuffix | hsuffix
  · refine Or.inl ?_
    rw [hsuffix, String.toList_empty, Text.lowerAfter]
  · refine Or.inr ?_
    rw [String.toList_ofList]
    exact Text.brace_mem_lowerAfter hsuffix

end SchemaDoc
