/-
SchemaDoc.Proofs.Uri.Join — relative paths seen from the URI of a file.

The last segment of a path gives way to the segments of a relative one. Where
no segment is empty or made of dots, that is all that joining does
(`joinPath_names`), so a URI grows with every relative reference that passes
a directory.

§1 segments, §2 paths, §3 URIs of files.
-/
import SchemaDoc.Proofs.Uri.Fragment

namespace SchemaDoc.Uri

/-! ## §1 Segments -/

/-- A segment that names something: it is not empty, and is none of those made of dots. -/
structure Names (s : List Char) : Prop where
  ne_nil : s ≠ []
  unbroken : '/' ∉ s
  not_dot : isDot s = false
  not_doubleDot : isDoubleDot s = false

theorem settleFrom_of_names : ∀ {segments : List (List Char)} (before : List (List Char)),
    (∀ s ∈ segments, isDot s = false ∧ isDoubleDot s = false) →
    settleFrom before segments = before.reverse ++ segments
  | [], before, _ => by simp [settleFrom]
  | s :: rest, before, h => by
    obtain ⟨⟨hdot, hdouble⟩, hrest⟩ := List.forall_mem_cons.mp h
    rw [settleFrom, hdot, hdouble]
    simp [settleFrom_of_names (s :: before) hrest]

/-! ## §2 Paths -/

/-- A path from the root. -/
def rooted (segments : List (List Char)) : List Char := ['/'].intercalate ([] :: segments)

variable {dirs own : List (List Char)} {file last : List Char}

theorem cutAt_rooted {segments : List (List Char)} (h : ∀ s ∈ segments, Names s) :
    Text.cutAt '/' (rooted segments) = [] :: segments :=
  Text.cutAt_intercalate (List.cons_ne_nil _ _)
    (List.forall_mem_cons.mpr ⟨List.not_mem_nil, fun s hs => (h s hs).unbroken⟩)

/-- A relative path of names does not start at the root. -/
theorem head?_intercalate_names (hown : ∀ s ∈ own, Names s) (hlast : Names last) :
    (['/'].intercalate (own ++ [last])).head? ≠ some '/' := by
  have hhead : ∀ {s : List Char}, Names s → ∀ t, (s ++ t).head? ≠ some '/' := by
    intro s hs t ht
    cases s with
    | nil => exact hs.ne_nil rfl
    | cons c rest =>
      cases ht
      exact hs.unbroken (List.mem_cons_self ..)
  cases own with
  | nil =>
    rw [List.nil_append, List.intercalate_singleton, ← List.append_nil last]
    exact hhead hlast []
  | cons s rest =>
    rw [List.cons_append, List.intercalate_cons_of_ne_nil (by simp), List.append_assoc]
    exact hhead (hown s (List.mem_cons_self ..)) _

/-- The segments of a relative path take the place of the last one. -/
theorem segmentsFrom_names (hdirs : ∀ s ∈ dirs, Names s) (hfile : Names file)
    (hown : ∀ s ∈ own, Names s) (hlast : Names last) :
    segmentsFrom (rooted (dirs ++ [file])) (['/'].intercalate (own ++ [last]))
      = [] :: (dirs ++ (own ++ [last])) := by
  have hbase : ∀ s ∈ dirs ++ [file], Names s :=
    List.forall_mem_append.mpr ⟨hdirs, by simpa using hfile⟩
  have hrelative : Text.cutAt '/' (['/'].intercalate (own ++ [last])) = own ++ [last] :=
    Text.cutAt_intercalate (by simp) fun s hs =>
      (List.forall_mem_append.mpr ⟨hown, by simpa using hlast⟩ s hs).unbroken
  have hfilled : (dirs ++ own).filter (!·.isEmpty) = dirs ++ own := by
    rw [List.filter_eq_self]
    intro s hs
    have hs := (List.forall_mem_append.mpr ⟨hdirs, hown⟩ s hs).ne_nil
    simpa using hs
  have hlength : (dirs ++ (own ++ [last])).length - 1 = (dirs ++ own).length := by simp
  rw [segmentsFrom, if_neg (head?_intercalate_names hown hlast), cutAt_rooted hbase, hrelative]
  have hends : ([] :: (dirs ++ [file])).getLast? ≠ some [] := by
    simpa [List.getLast?_cons] using hfile.ne_nil
  simp only [hends, if_false]
  rw [← List.cons_append, List.dropLast_concat, List.cons_append]
  simp only
  rw [hlength, ← List.append_assoc, List.dropLast_concat, hfilled, List.drop_left]
  simp

/-- **A relative path of names** replaces the last name of the path it is seen from. -/
theorem joinPath_names (hdirs : ∀ s ∈ dirs, Names s) (hfile : Names file)
    (hown : ∀ s ∈ own, Names s) (hlast : Names last) :
    joinPath (rooted (dirs ++ [file])) (['/'].intercalate (own ++ [last]))
      = rooted (dirs ++ (own ++ [last])) := by
  have hnames : ∀ s ∈ [] :: (dirs ++ (own ++ [last])), isDot s = false ∧ isDoubleDot s = false := by
    intro s hs
    simp only [List.mem_cons, List.mem_append, List.not_mem_nil, or_false] at hs
    rcases hs with rfl | hs | hs | rfl
    · exact ⟨rfl, rfl⟩
    · exact ⟨(hdirs s hs).not_dot, (hdirs s hs).not_doubleDot⟩
    · exact ⟨(hown s hs).not_dot, (hown s hs).not_doubleDot⟩
    · exact ⟨hlast.not_dot, hlast.not_doubleDot⟩
  have hlastD : ([] :: (dirs ++ (own ++ [last]))).getLastD [] = last := by
    have hconcat : [] :: (dirs ++ (own ++ [last])) = ([] :: (dirs ++ own)) ++ [last] := by simp
    rw [hconcat, List.getLastD_concat]
  have hfull : (rooted (dirs ++ (own ++ [last]))).isEmpty = false := by
    rw [rooted, List.intercalate_cons_of_ne_nil (by simp)]
    rfl
  rw [joinPath, segmentsFrom_names hdirs hfile hown hlast]
  simp only [hlastD, hlast.not_dot, hlast.not_doubleDot, Bool.or_false, Bool.false_eq_true,
    if_false, List.append_nil, settleFrom_of_names [] hnames, List.reverse_nil, List.nil_append]
  exact if_neg (by rw [← rooted, hfull]; exact Bool.false_ne_true)

/-! ## §3 URIs of files -/

theorem mem_intercalate {c : Char} : ∀ {segments : List (List Char)},
    c ∈ ['/'].intercalate segments → c = '/' ∨ ∃ s ∈ segments, c ∈ s
  | [], h => nomatch h
  | [s], h => by
    rw [List.intercalate_singleton] at h
    exact Or.inr ⟨s, List.mem_singleton_self s, h⟩
  | s :: t :: rest, h => by
    rw [List.intercalate_cons_cons, List.append_assoc, List.mem_append, List.mem_append,
      List.mem_singleton] at h
    rcases h with h | h | h
    · exact Or.inr ⟨s, List.mem_cons_self .., h⟩
    · exact Or.inl h
    · rcases mem_intercalate h with h | ⟨u, hu, hc⟩
      · exact Or.inl h
      · exact Or.inr ⟨u, List.mem_cons_of_mem _ hu, hc⟩

/-- A path of names is left as it is by joining, if none of its characters has a meaning. -/
theorem settled_rooted (hdirs : ∀ s ∈ dirs, Names s) (hfile : Names file)
    (hchars : ∀ s ∈ dirs ++ [file], ∀ c ∈ s, isNameChar c = true) :
    Settled [] (rooted (dirs ++ [file])) := by
  have hrooted : rooted (dirs ++ [file]) = '/' :: ['/'].intercalate (dirs ++ [file]) := by
    rw [rooted, List.intercalate_cons_of_ne_nil (by simp)]
    rfl
  rw [hrooted]
  refine settled_of_slash (fun c hc => ?_) (head?_intercalate_names hdirs hfile)
  rcases mem_intercalate hc with h | ⟨s, hs, hc⟩
  · exact Or.inr h
  · exact Or.inl (hchars s hs c hc)

/-- A relative reference of names, with a fragment, seen from the URI of a file. -/
theorem joinList_names {authority fragment reference : List Char} (hdirs : ∀ s ∈ dirs, Names s)
    (hfile : Names file) (hown : ∀ s ∈ own, Names s) (hlast : Names last)
    (hbase : FileParts authority (rooted (dirs ++ [file])))
    (hresult : Settled authority (rooted (dirs ++ (own ++ [last])))) (hne : reference ≠ [])
    (hsplit : splitWith fileScheme reference
      = .ok ⟨fileScheme, [], ['/'].intercalate (own ++ [last]), [], fragment⟩) :
    joinList (fileText authority (rooted (dirs ++ [file])) []) reference
      = .ok (fileText authority (rooted (dirs ++ (own ++ [last]))) fragment) := by
  have hb : split (fileText authority (rooted (dirs ++ [file])) [])
      = .ok ⟨fileScheme, authority, rooted (dirs ++ [file]), [], []⟩ :=
    splitWith_fileText hbase (by simp) []
  have hparameters : ∀ p : List Char, cutParameters fileScheme p = (p, []) := fun p => rfl
  have hkeep : ∀ p : List Char, withParameters p [] = p := fun p => rfl
  rw [joinList, if_neg (by simp [fileText, fileScheme]), if_neg (by simpa using hne), hb, ok_bind]
  simp only [hsplit, ok_bind, hparameters, hkeep, joinPath_names hdirs hfile hown hlast]
  have hscheme : (fileScheme != fileScheme || !schemeIn hierarchicalSchemes fileScheme) = false := by
    decide +kernel
  have hauthority : schemeIn authoritySchemes fileScheme = true := by decide +kernel
  have hfull : (['/'].intercalate (own ++ [last])).isEmpty = false := by
    cases own with
    | nil => simpa [List.intercalate_singleton] using hlast.ne_nil
    | cons s rest => simp [List.intercalate_cons_of_ne_nil]
  simp only [hscheme, hauthority, hfull, Bool.false_eq_true, if_false, if_true, List.isEmpty_nil,
    Bool.not_true, Bool.and_false, Bool.false_and]
  exact congrArg Except.ok (toList_settled hresult fragment)

end SchemaDoc.Uri
