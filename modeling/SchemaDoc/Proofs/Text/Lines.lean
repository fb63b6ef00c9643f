/-
SchemaDoc.Proofs.Text.Lines — when texts put together are the lines of the whole.

Cutting a text into lines gives lines (`IsLine`) that stay apart (`Apart`):
each but the last is ended, and no CR stands before an LF of the next one.
Texts of this kind are found again when they are put together and cut, and no
others are (`lines_flatten_iff`). Reading every line end as LF touches nothing
but the ends of lines (`lines_unifyNewlines`).

§1 lines, §2 what is cut, §3 what is found again, §4 terminators,
§5 unified line ends.
-/
import Mathlib.Data.List.Chain
import SchemaDoc.Text.Lines

namespace SchemaDoc.Text

/-! ## §1 Lines -/

/-- A line: a line break stands at its end or nowhere. -/
inductive IsLine : List Char → Prop
  | ended {c : Char} : isBreak c = true → IsLine [c]
  | crlf : IsLine ['\r', '\n']
  | last {c : Char} : isBreak c = false → IsLine [c]
  | cons {c : Char} {line : List Char} : isBreak c = false → IsLine line → IsLine (c :: line)

/-- The line break at the end of a line: CR LF, a single one, or nothing. -/
def terminator (line : List Char) : List Char :=
  match line.reverse with
  | '\n' :: '\r' :: _ => ['\r', '\n']
  | c :: _ => if isBreak c then [c] else []
  | [] => []

/-- The first text is ended, and its end does not grow by the start of the second. -/
def Apart (a b : List Char) : Prop :=
  (∃ c, a.getLast? = some c ∧ isBreak c = true) ∧
    ¬(a.getLast? = some '\r' ∧ b.head? = some '\n')

theorem IsLine.ne_nil {line : List Char} (h : IsLine line) : line ≠ [] := by
  cases h <;> simp

theorem isBreak_cr : isBreak '\r' = true := rfl

theorem isBreak_lf : isBreak '\n' = true := rfl

/-- A character that is no break starts the line that goes on behind it. -/
theorem lines_cons {c : Char} (h : isBreak c = false) (rest : List Char) :
    lines (c :: rest) = match lines rest with
      | [] => [[c]]
      | line :: more => (c :: line) :: more := by
  rw [lines]
  · cases lines rest with
    | nil => simp [h]
    | cons line more => simp [h]
  · rintro rest' rfl
    rw [isBreak_cr] at h
    cases h

/-- A break is a line, unless it is a CR before an LF. -/
theorem lines_break {c : Char} (h : isBreak c = true) {rest : List Char}
    (hcr : ¬(c = '\r' ∧ rest.head? = some '\n')) : lines (c :: rest) = [c] :: lines rest := by
  rw [lines]
  · simp [h]
  · rintro rest' rfl rfl
    exact hcr ⟨rfl, rfl⟩

/-! ## §2 What is cut -/

theorem lines_lf (rest : List Char) : lines ('\n' :: rest) = ['\n'] :: lines rest :=
  lines_break isBreak_lf fun h => nomatch h.1

theorem getLast?_cons_of_ne_nil {c : Char} {line : List Char} (h : line ≠ []) :
    (c :: line).getLast? = line.getLast? := by
  cases line with
  | nil => exact absurd rfl h
  | cons d rest => rfl

/-- What stands before a line does not matter to what comes behind it. -/
theorem Apart.cons {a b : List Char} (h : Apart a b) (c : Char) : Apart (c :: a) b := by
  have hne : a ≠ [] := by
    rintro rfl
    obtain ⟨⟨d, hd, -⟩, -⟩ := h
    cases hd
  unfold Apart
  rw [getLast?_cons_of_ne_nil hne]
  exact h

theorem head?_of_lines {s : List Char} {line : List Char} {more : List (List Char)}
    (h : lines s = line :: more) (hline : line ≠ []) : line.head? = s.head? := by
  have hs := flatten_lines s
  rw [h, List.flatten_cons] at hs
  rw [← hs]
  cases line with
  | nil => exact absurd rfl hline
  | cons c rest => rfl

theorem isLine_of_mem_lines (s : List Char) : ∀ x ∈ lines s, IsLine x := by
  fun_induction lines s with
  | case1 => exact List.forall_mem_nil _
  | case2 rest ih => exact List.forall_mem_cons.mpr ⟨.crlf, ih⟩
  | case3 c rest _ h ih => exact List.forall_mem_cons.mpr ⟨.ended h, ih⟩
  | case4 c rest _ h heq ih =>
    have hc : isBreak c = false := by simpa using h
    exact List.forall_mem_singleton.mpr (.last hc)
  | case5 c rest _ h line more heq ih =>
    have hc : isBreak c = false := by simpa using h
    rw [heq] at ih
    obtain ⟨hline, hmore⟩ := List.forall_mem_cons.mp ih
    exact List.forall_mem_cons.mpr ⟨.cons hc hline, hmore⟩

theorem isChain_lines (s : List Char) : (lines s).IsChain Apart := by
  have hhead : ∀ {rest b}, (lines rest).head? = some b → b.head? = rest.head? := by
    intro rest b hb
    cases hl : lines rest with
    | nil =>
      rw [hl] at hb
      cases hb
    | cons line more =>
      rw [hl] at hb
      cases hb
      refine head?_of_lines hl (isLine_of_mem_lines rest b ?_).ne_nil
      rw [hl]
      exact List.mem_cons_self ..
  fun_induction lines s with
  | case1 => exact .nil
  | case2 rest ih =>
    refine List.isChain_cons.mpr ⟨fun b _ => ⟨⟨'\n', rfl, isBreak_lf⟩, fun h => ?_⟩, ih⟩
    cases h.1
  | case3 c rest hcr h ih =>
    refine List.isChain_cons.mpr ⟨fun b hb => ⟨⟨c, rfl, h⟩, fun hglue => ?_⟩, ih⟩
    obtain ⟨hc, hlf⟩ := hglue
    rw [hhead hb] at hlf
    obtain ⟨rest', rfl⟩ : ∃ rest', rest = '\n' :: rest' := by
      cases rest with
      | nil => cases hlf
      | cons d rest' => exact ⟨rest', by rw [Option.some.inj hlf]⟩
    exact hcr rest' (Option.some.inj hc) rfl
  | case4 c rest _ h heq ih => exact .singleton _
  | case5 c rest _ h line more heq ih =>
    rw [heq] at ih
    obtain ⟨hline, hmore⟩ := List.isChain_cons.mp ih
    exact List.isChain_cons.mpr ⟨fun b hb => (hline b hb).cons c, hmore⟩

/-- An LF behind a CR belongs to the line. -/
theorem IsLine.grown {line : List Char} (h : IsLine line) (hcr : line.getLast? = some '\r') :
    IsLine (line ++ ['\n']) := by
  induction h with
  | ended =>
    cases hcr
    exact .crlf
  | crlf => cases hcr
  | last hc =>
    cases hcr
    cases hc
  | cons hc hline ih =>
    rw [getLast?_cons_of_ne_nil hline.ne_nil] at hcr
    exact .cons hc (ih hcr)

/-! ## §3 What is found again -/

/-- An ended line is cut off in front of what does not make its end grow. -/
theorem lines_append {line : List Char} (h : IsLine line) {rest : List Char}
    (hapart : Apart line rest) : lines (line ++ rest) = line :: lines rest := by
  induction h with
  | ended hc => exact lines_break hc fun hcr => hapart.2 ⟨congrArg some hcr.1, hcr.2⟩
  | crlf => rfl
  | @last c hc =>
    obtain ⟨⟨d, hd, hb⟩, -⟩ := hapart
    have he : c = d := Option.some.inj hd
    rw [← he, hc] at hb
    cases hb
  | cons hc hline ih =>
    unfold Apart at hapart
    rw [getLast?_cons_of_ne_nil hline.ne_nil] at hapart
    rw [List.cons_append, lines_cons hc, ih hapart]

theorem lines_of_isLine {line : List Char} (h : IsLine line) : lines line = [line] := by
  induction h with
  | ended hc => exact lines_break hc fun hcr => nomatch hcr.2
  | crlf => rfl
  | last hc => rw [lines_cons hc]; rfl
  | cons hc _ ih => rw [lines_cons hc, ih]

/-- **Lines put together are found again** exactly if each of them is one, and they stay apart. -/
theorem lines_flatten_iff {xs : List (List Char)} :
    lines xs.flatten = xs ↔ (∀ x ∈ xs, IsLine x) ∧ xs.IsChain Apart := by
  constructor
  · intro h
    rw [← h]
    exact ⟨isLine_of_mem_lines _, isChain_lines _⟩
  · rintro ⟨hlines, hchain⟩
    induction xs with
    | nil => rfl
    | cons x xs ih =>
      obtain ⟨hx, hxs⟩ := List.forall_mem_cons.mp hlines
      obtain ⟨hapart, hrest⟩ := List.isChain_cons.mp hchain
      rw [List.flatten_cons]
      cases xs with
      | nil =>
        rw [List.flatten_nil, List.append_nil]
        exact lines_of_isLine hx
      | cons y ys =>
        have hy : y ≠ [] := (hxs y (List.mem_cons_self ..)).ne_nil
        have hhead : (List.flatten (y :: ys)).head? = y.head? := by
          cases y with
          | nil => exact absurd rfl hy
          | cons c rest => rfl
        have hapart : Apart x (List.flatten (y :: ys)) := by
          unfold Apart
          rw [hhead]
          exact hapart y rfl
        rw [lines_append hx hapart, ih hxs hrest]

/-! ## §4 Terminators -/

/-- What is taken for the terminator of a line is that, unless the line ends in a break that is
neither CR nor LF. -/
theorem ending_eq_terminator (line : List Char) :
    (Line.ofList line).ending = terminator line ∨
      (Line.ofList line).ending = [] ∧ ∃ c, terminator line = [c] ∧ c ≠ '\n' := by
  unfold Line.ofList terminator
  generalize line.reverse = r
  cases r with
  | nil => exact Or.inl rfl
  | cons c rest =>
    by_cases hlf : c = '\n'
    · subst hlf
      refine Or.inl ?_
      cases rest with
      | nil => rfl
      | cons d rest =>
        by_cases hcr : d = '\r'
        · subst hcr
          rfl
        · simp [hcr, isBreak_lf]
    · by_cases hcr : c = '\r'
      · subst hcr
        exact Or.inl rfl
      · cases hb : isBreak c with
        | true => exact Or.inr ⟨by simp [hlf, hcr], c, by simp [hlf, hb], hlf⟩
        | false => exact Or.inl (by simp [hlf, hcr, hb])

/-- Without a line break. -/
def Unbroken (s : List Char) : Prop := ∀ c ∈ s, isBreak c = false

-- Checked letter by letter of the text, not for every character there is.
instance (s : List Char) : Decidable (Unbroken s) := List.decidableBAll _ s

/-- A line has no break in front of something else. -/
theorem IsLine.unbroken_of_append {x z : List Char} {c : Char} (h : IsLine (x ++ c :: z))
    (hc : isBreak c = false) : Unbroken x := by
  induction x with
  | nil => exact fun _ hd => nomatch hd
  | cons d x ih =>
    rw [List.cons_append] at h
    generalize hrest : x ++ c :: z = rest at h
    cases h with
    | ended => simp at hrest
    | crlf =>
      cases x with
      | nil =>
        cases hrest
        cases hc
      | cons e x => simp at hrest
    | last => simp at hrest
    | cons hd hline =>
      subst hrest
      exact List.forall_mem_cons.mpr ⟨hd, ih hline⟩

theorem IsLine.of_unbroken {s : List Char} (h : Unbroken s) (hne : s ≠ []) : IsLine s := by
  induction s with
  | nil => exact absurd rfl hne
  | cons c rest ih =>
    obtain ⟨hc, hrest⟩ := List.forall_mem_cons.mp h
    cases rest with
    | nil => exact .last hc
    | cons d rest => exact .cons hc (ih hrest (List.cons_ne_nil d rest))

theorem IsLine.unbroken_append {s line : List Char} (h : Unbroken s) (hline : IsLine line) :
    IsLine (s ++ line) := by
  induction s with
  | nil => exact hline
  | cons c rest ih =>
    obtain ⟨hc, hrest⟩ := List.forall_mem_cons.mp h
    exact .cons hc (ih hrest)

/-- A line is unbroken up to its terminator. -/
theorem IsLine.exists_unbroken {line : List Char} (h : IsLine line) :
    ∃ s, line = s ++ terminator line ∧ Unbroken s := by
  obtain ⟨s, e, rfl, hs, he⟩ : ∃ s e, line = s ++ e ∧ Unbroken s ∧
      (e = [] ∨ (∃ c, e = [c] ∧ isBreak c = true) ∨ e = ['\r', '\n']) := by
    induction h with
    | @ended c hc => exact ⟨[], [c], rfl, by simp [Unbroken], Or.inr (Or.inl ⟨c, rfl, hc⟩)⟩
    | crlf => exact ⟨[], _, rfl, by simp [Unbroken], Or.inr (Or.inr rfl)⟩
    | @last c hc => exact ⟨[c], [], rfl, by simpa [Unbroken] using hc, Or.inl rfl⟩
    | @cons c line hc _ ih =>
      obtain ⟨s, e, rfl, hs, he⟩ := ih
      exact ⟨c :: s, e, rfl, List.forall_mem_cons.mpr ⟨hc, hs⟩, he⟩
  have hhead : ∀ c rest, s.reverse = c :: rest → isBreak c = false := fun c rest hr =>
    hs c (List.mem_reverse.mp (hr ▸ List.mem_cons_self ..))
  suffices hterminator : terminator (s ++ e) = e by
    exact ⟨s, by rw [hterminator], hs⟩
  rcases he with rfl | ⟨c, rfl, hc⟩ | rfl
  · rw [List.append_nil, terminator]
    cases hr : s.reverse with
    | nil => rfl
    | cons c rest =>
      have hc := hhead c rest hr
      have hlf : c ≠ '\n' := by
        rintro rfl
        cases hc
      simp [hlf, hc]
  · rw [terminator, List.reverse_append, List.reverse_singleton, List.singleton_append]
    cases hr : s.reverse with
    | nil => simp [hc]
    | cons d rest =>
      have hd : d ≠ '\r' := by
        rintro rfl
        cases hhead _ rest hr
      by_cases hlf : c = '\n' <;> simp [hlf, hd, hc, isBreak_lf]
  · rw [terminator, List.reverse_append]
    rfl

/-- So its body is unbroken, if its terminator is known. -/
theorem IsLine.unbroken_body {line : List Char} (h : IsLine line)
    (he : (Line.ofList line).ending = terminator line) : Unbroken (Line.ofList line).body := by
  obtain ⟨s, hline, hs⟩ := h.exists_unbroken
  have hbody := Line.toList_ofList line
  unfold Line.toList at hbody
  rw [he] at hbody
  have : (Line.ofList line).body = s := List.append_cancel_right (hbody.trans hline)
  rwa [this]

/-- The ends that are taken apart from the body of a line. -/
def knownEnds : List (List Char) := [[], ['\n'], ['\r'], ['\r', '\n']]

theorem ending_mem_knownEnds (line : List Char) : (Line.ofList line).ending ∈ knownEnds := by
  unfold Line.ofList
  split <;> simp [knownEnds]

/-- Behind a body without breaks a known end is found. -/
theorem Line.ofList_append {s e : List Char} (hs : Unbroken s) (he : e ∈ knownEnds) :
    Line.ofList (s ++ e) = ⟨s, e⟩ := by
  have hhead : ∀ c rest, s.reverse = c :: rest → c ≠ '\n' ∧ c ≠ '\r' := by
    intro c rest hr
    have hc := hs c (List.mem_reverse.mp (hr ▸ List.mem_cons_self ..))
    constructor
    · rintro rfl
      cases hc
    · rintro rfl
      cases hc
  have hback : s = s.reverse.reverse := s.reverse_reverse.symm
  simp only [knownEnds, List.mem_cons, List.not_mem_nil, or_false] at he
  rw [Line.ofList, List.reverse_append]
  generalize s.reverse = r at hhead hback
  subst hback
  cases r with
  | nil => rcases he with rfl | rfl | rfl | rfl <;> rfl
  | cons c r =>
    obtain ⟨hlf, hcr⟩ := hhead c r rfl
    rcases he with rfl | rfl | rfl | rfl <;> simp [hlf, hcr]

/-- A line whose break is an LF, a CR or both has a known end. -/
theorem ending_eq_terminator_of_mem {line : List Char} (hline : IsLine line)
    (h : ∀ c ∈ line, isBreak c = true → c = '\n' ∨ c = '\r') :
    (Line.ofList line).ending = terminator line := by
  obtain ⟨s, hs, hunbroken⟩ := hline.exists_unbroken
  suffices hknown : terminator line ∈ knownEnds by
    have hofList := Line.ofList_append hunbroken hknown
    rw [← hs] at hofList
    rw [hofList]
  unfold terminator
  split
  · simp [knownEnds]
  · rename_i c rest _ hrest
    split
    · rename_i hc
      have hmem : c ∈ line := List.mem_reverse.mp (hrest ▸ List.mem_cons_self ..)
      rcases h c hmem hc with rfl | rfl <;> simp [knownEnds]
    · simp [knownEnds]
  · simp [knownEnds]

/-! ## §5 Unified line ends -/

theorem unifyNewlines_cons {c : Char} (h : c ≠ '\r') (s : List Char) :
    unifyNewlines (c :: s) = c :: unifyNewlines s := by
  rw [unifyNewlines]
  · rw [if_neg h]
  · rintro rest rfl
    exact absurd rfl h

theorem unifyNewlines_cr {s : List Char} (h : s.head? ≠ some '\n') :
    unifyNewlines ('\r' :: s) = '\n' :: unifyNewlines s := by
  rw [unifyNewlines]
  · rfl
  · rintro rest - rfl
    exact h rfl

theorem unifyNewlines_of_not_mem : ∀ {s : List Char}, '\r' ∉ s → unifyNewlines s = s
  | [], _ => rfl
  | c :: s, h => by
    have hc : c ≠ '\r' := fun e => h (e ▸ List.mem_cons_self ..)
    rw [unifyNewlines_cons hc, unifyNewlines_of_not_mem fun hm => h (List.mem_cons_of_mem c hm)]

/-- The lines of a text with unified line ends are its lines with unified ends. -/
theorem lines_unifyNewlines (s : List Char) :
    lines (unifyNewlines s) = (lines s).map unifyNewlines := by
  fun_induction lines s with
  | case1 => rfl
  | case2 rest ih => rw [unifyNewlines, lines_lf, ih]; rfl
  | case3 c rest hcr h ih =>
    by_cases hc : c = '\r'
    · subst hc
      have hlf : rest.head? ≠ some '\n' := by
        intro hhead
        obtain ⟨rest', rfl⟩ := List.head?_eq_some_iff.mp hhead
        exact hcr rest' rfl rfl
      rw [unifyNewlines_cr hlf, lines_lf, ih]
      rfl
    · rw [unifyNewlines_cons hc, lines_break h fun hglue => hc hglue.1, ih, List.map_cons,
        unifyNewlines_cons hc]
      rfl
  | case4 c rest _ h heq ih =>
    have hb : isBreak c = false := by simpa using h
    have hc : c ≠ '\r' := fun e => by rw [e] at hb; cases hb
    rw [unifyNewlines_cons hc, lines_cons hb, ih, heq, List.map_singleton, unifyNewlines_cons hc]
    rfl
  | case5 c rest _ h line more heq ih =>
    have hb : isBreak c = false := by simpa using h
    have hc : c ≠ '\r' := fun e => by rw [e] at hb; cases hb
    rw [unifyNewlines_cons hc, lines_cons hb, ih, heq, List.map_cons, List.map_cons,
      unifyNewlines_cons hc]

/-- Unifying the end of a line keeps its body. -/
theorem unifyNewlines_append {s e : List Char} (hs : Unbroken s) :
    unifyNewlines (s ++ e) = s ++ unifyNewlines e := by
  induction s with
  | nil => rfl
  | cons c s ih =>
    obtain ⟨hb, hs⟩ := List.forall_mem_cons.mp hs
    have hc : c ≠ '\r' := fun e => by rw [e] at hb; cases hb
    rw [List.cons_append, unifyNewlines_cons hc, ih hs, List.cons_append]

/-- A line with a CR ends in it, or in CR LF. -/
theorem IsLine.exists_of_cr {line : List Char} (h : IsLine line) (hcr : '\r' ∈ line) :
    ∃ s e, Unbroken s ∧ line = s ++ e ∧ (e = ['\r'] ∨ e = ['\r', '\n']) := by
  induction h with
  | ended => exact ⟨[], ['\r'], nofun, by rw [← List.mem_singleton.mp hcr]; rfl, Or.inl rfl⟩
  | crlf => exact ⟨[], ['\r', '\n'], nofun, rfl, Or.inr rfl⟩
  | last hc =>
    rw [← List.mem_singleton.mp hcr] at hc
    cases hc
  | cons hc hline ih =>
    rcases List.mem_cons.mp hcr with rfl | hcr
    · cases hc
    · obtain ⟨s, e, hs, rfl, he⟩ := ih hcr
      exact ⟨_ :: s, e, List.forall_mem_cons.mpr ⟨hc, hs⟩, rfl, he⟩

end SchemaDoc.Text
