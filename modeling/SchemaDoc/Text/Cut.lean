/-
SchemaDoc.Text.Cut — texts cut at a character.
-/

namespace SchemaDoc.Text

/-- A text cut at every occurrence of a character. -/
def cutAt (mark : Char) : List Char → List (List Char)
  | [] => [[]]
  | c :: rest =>
    if c = mark then [] :: cutAt mark rest
    else match cutAt mark rest with
      | part :: parts => (c :: part) :: parts
      | [] => [[c]]

/-- A text cut at the first occurrence of a character: what stands before it, and what stands
behind it if it occurs. -/
def cutOnce (mark : Char) (s : List Char) : List Char × Option (List Char) :=
  match s.dropWhile (· != mark) with
  | [] => (s, none)
  | _ :: rest => (s.takeWhile (· != mark), some rest)

/-- A text cut at the last occurrence of a character, if it occurs. -/
def cutLast? (mark : Char) : List Char → Option (List Char × List Char)
  | [] => none
  | c :: rest => match cutLast? mark rest with
    | some (before, behind) => some (c :: before, behind)
    | none => if c = mark then some ([], rest) else none

/-- The parts around the last occurrence put together again. -/
theorem eq_of_cutLast? {mark : Char} {s before behind : List Char}
    (h : cutLast? mark s = some (before, behind)) :
    s = before ++ mark :: behind ∧ mark ∉ behind := by
  induction s generalizing before behind with
  | nil => simp [cutLast?] at h
  | cons c rest ih =>
    simp only [cutLast?] at h
    split at h
    · rename_i before' behind' hr
      simp only [Option.some.injEq, Prod.mk.injEq] at h
      obtain ⟨rfl, rfl⟩ := h
      obtain ⟨hs, hm⟩ := ih hr
      exact ⟨by simp [hs], hm⟩
    · rename_i hr
      split at h
      · rename_i hc
        simp only [Option.some.injEq, Prod.mk.injEq] at h
        obtain ⟨rfl, rfl⟩ := h
        refine ⟨by simp [hc], fun hm => ?_⟩
        clear ih hc
        induction rest with
        | nil => simp at hm
        | cons d rest ih =>
          simp only [cutLast?] at hr
          split at hr
          · simp at hr
          · rename_i hr'
            split at hr
            · simp at hr
            · rename_i hd
              rcases List.mem_cons.1 hm with h | h
              · exact hd h.symm
              · exact ih hr' h
      · simp at h

end SchemaDoc.Text
