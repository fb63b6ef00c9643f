/-
SchemaDoc.Proofs.Text.Cut — texts cut at a character.

A text is cut at the first or the last occurrence of a character, or at all of
them. Where it is put together from parts that do not have the character, the
parts are found again.

§1 the first occurrence, §2 the last one, §3 all of them, §4 kinds of characters.
-/
import SchemaDoc.Text.Cut

namespace SchemaDoc.Text

/-! ## §1 The first occurrence -/

theorem cutOnce_of_not_mem {mark : Char} {s : List Char} (h : mark ∉ s) :
    cutOnce mark s = (s, none) := by
  have : s.dropWhile (· != mark) = [] := by
    rw [← List.append_nil s, List.dropWhile_append_of_pos fun c hc => ?_]
    · rfl
    · simp only [bne_iff_ne]
      rintro rfl
      exact h hc
  rw [cutOnce, this]

theorem cutOnce_append {mark : Char} {s : List Char} (h : mark ∉ s) (rest : List Char) :
    cutOnce mark (s ++ mark :: rest) = (s, some rest) := by
  have hs : ∀ c ∈ s, (c != mark) = true := by
    intro c hc
    simp only [bne_iff_ne]
    rintro rfl
    exact h hc
  rw [cutOnce, List.dropWhile_append_of_pos hs, List.takeWhile_append_of_pos hs]
  simp

/-- The parts around the first occurrence put together again. -/
theorem eq_of_cutOnce {mark : Char} {s before behind : List Char}
    (h : cutOnce mark s = (before, some behind)) : s = before ++ mark :: behind ∧ mark ∉ before := by
  unfold cutOnce at h
  split at h
  · cases h
  · rename_i c rest hdrop
    cases h
    have hc : c = mark := by
      have := List.head_dropWhile_not (· != mark) (l := s) (by simp [hdrop])
      simpa [hdrop] using this
    subst hc
    constructor
    · rw [← hdrop, List.takeWhile_append_dropWhile]
    · intro hm
      have := List.all_eq_true.mp (List.all_takeWhile (p := (· != c)) (l := s)) c hm
      simp at this

theorem cutOnce_subset {mark c : Char} {s before behind : List Char}
    (h : cutOnce mark s = (before, some behind)) (hc : c ∈ before) : c ∈ s := by
  unfold cutOnce at h
  split at h
  · cases h
  · cases h
    exact List.takeWhile_subset _ hc

theorem not_mem_cutOnce (mark : Char) (s : List Char) : mark ∉ (cutOnce mark s).1 := by
  have htake : mark ∉ s.takeWhile (· != mark) := fun hm => by
    simpa using List.all_eq_true.mp (List.all_takeWhile (p := (· != mark)) (l := s)) mark hm
  unfold cutOnce
  split
  · rename_i hdrop
    rwa [← List.takeWhile_append_dropWhile (p := (· != mark)) (l := s), hdrop, List.append_nil]
  · exact htake

theorem cutOnce_before_subset (mark : Char) (s : List Char) : (cutOnce mark s).1 ⊆ s := by
  unfold cutOnce
  split
  · exact List.Subset.refl _
  · exact List.takeWhile_subset _

theorem cutOnce_behind_subset (mark : Char) (s : List Char) :
    (cutOnce mark s).2.getD [] ⊆ s := by
  unfold cutOnce
  split
  · exact List.nil_subset _
  · rename_i c rest hdrop
    exact fun d hd => (List.dropWhile_suffix (· != mark)).subset (hdrop ▸ List.mem_cons_of_mem c hd)

/-- A text is cut at a character that stands in it, or at an earlier one. -/
theorem exists_cutOnce_append (mark : Char) (s t : List Char) : ∃ before behind,
    cutOnce mark (s ++ mark :: t) = (before, some behind) ∧
      (behind = t ∨ ∃ r, behind = r ++ mark :: t) := by
  induction s with
  | nil => exact ⟨[], t, by simp [cutOnce], Or.inl rfl⟩
  | cons c s ih =>
    by_cases hc : c = mark
    · subst hc
      exact ⟨[], s ++ c :: t, by simp [cutOnce], Or.inr ⟨s, rfl⟩⟩
    · obtain ⟨before, behind, hcut, hbehind⟩ := ih
      refine ⟨c :: before, behind, ?_, hbehind⟩
      have hne : (c != mark) = true := bne_iff_ne.mpr hc
      rw [cutOnce] at hcut ⊢
      simp only [List.cons_append, List.dropWhile_cons, List.takeWhile_cons, hne, if_true]
      split at hcut
      · cases hcut
      · cases hcut
        rfl

/-! ## §2 The last occurrence -/

theorem isSome_cutLast? {mark : Char} : ∀ {s : List Char}, mark ∈ s → (cutLast? mark s).isSome
  | [], h => nomatch h
  | c :: rest, h => by
    rw [cutLast?]
    split
    · rfl
    · rename_i hnone
      rcases List.mem_cons.mp h with rfl | h
      · simp
      · have := isSome_cutLast? h
        rw [hnone] at this
        cases this

/-- The last cut is not before a character that stands in the text. -/
theorem prefix_of_cutLast? {mark : Char} {t before behind : List Char} :
    ∀ {s : List Char}, cutLast? mark (s ++ mark :: t) = some (before, behind) → s <+: before
  | [], _ => List.nil_prefix
  | c :: s, h => by
    rw [List.cons_append, cutLast?] at h
    split at h
    · rename_i before' behind' hrest
      cases h
      exact List.cons_prefix_cons.mpr ⟨rfl, prefix_of_cutLast? hrest⟩
    · rename_i hnone
      have := isSome_cutLast? (List.mem_append_right s (List.mem_cons_self (a := mark) (l := t)))
      rw [hnone] at this
      cases this

theorem cutLast?_of_not_mem {mark : Char} : ∀ {s : List Char}, mark ∉ s → cutLast? mark s = none
  | [], _ => rfl
  | c :: rest, h => by
    rw [List.mem_cons, not_or] at h
    rw [cutLast?, cutLast?_of_not_mem h.2, if_neg (Ne.symm h.1)]

theorem cutLast?_append {mark : Char} {rest : List Char} (h : mark ∉ rest) : ∀ s : List Char,
    cutLast? mark (s ++ mark :: rest) = some (s, rest)
  | [] => by rw [List.nil_append, cutLast?, cutLast?_of_not_mem h, if_pos rfl]
  | c :: s => by rw [List.cons_append, cutLast?, cutLast?_append h s]

/-! ## §3 All occurrences -/

theorem cutAt_of_not_mem {mark : Char} : ∀ {s : List Char}, mark ∉ s → cutAt mark s = [s]
  | [], _ => rfl
  | c :: rest, h => by
    have hc : c ≠ mark := fun e => h (e ▸ List.mem_cons_self ..)
    rw [cutAt, if_neg hc, cutAt_of_not_mem fun hm => h (List.mem_cons_of_mem _ hm)]

theorem cutAt_append {mark : Char} {s : List Char} (h : mark ∉ s) (rest : List Char) :
    cutAt mark (s ++ mark :: rest) = s :: cutAt mark rest := by
  induction s with
  | nil => simp [cutAt]
  | cons c s ih =>
    have hc : c ≠ mark := fun e => h (e ▸ List.mem_cons_self ..)
    rw [List.cons_append, cutAt, if_neg hc, ih fun hm => h (List.mem_cons_of_mem _ hm)]

/-- Segments put together are found again. -/
theorem cutAt_intercalate : ∀ {segments : List (List Char)}, segments ≠ [] →
    (∀ s ∈ segments, '/' ∉ s) → cutAt '/' (['/'].intercalate segments) = segments
  | [], h, _ => absurd rfl h
  | [s], _, h => by
    rw [List.intercalate_singleton]
    exact cutAt_of_not_mem (h s (List.mem_singleton_self s))
  | s :: t :: rest, _, h => by
    obtain ⟨hs, hrest⟩ := List.forall_mem_cons.mp h
    rw [List.intercalate_cons_cons, List.append_assoc, List.singleton_append, cutAt_append hs,
      cutAt_intercalate (List.cons_ne_nil t rest) hrest]

/-- The last part of a text that does not end in the character ends as the text does. -/
theorem exists_cutAt_append_last {mark c : Char} (hc : c ≠ mark) : ∀ {s : List Char},
    s.getLast? = some c → ∃ parts part, cutAt mark s = parts ++ [part] ∧ part.getLast? = some c
  | [], h => nomatch h
  | [d], h => by
    obtain rfl : d = c := Option.some.inj h
    exact ⟨[], [d], by simp [cutAt, hc], rfl⟩
  | d :: e :: rest, h => by
    rw [List.getLast?_cons_cons] at h
    obtain ⟨parts, part, hcut, hpart⟩ := exists_cutAt_append_last hc h
    by_cases hd : d = mark
    · exact ⟨[] :: parts, part, by rw [cutAt, if_pos hd, hcut]; rfl, hpart⟩
    · rw [cutAt, if_neg hd, hcut]
      cases parts with
      | nil =>
        exact ⟨[], d :: part, rfl, by rw [List.getLast?_cons, hpart]; rfl⟩
      | cons first parts => exact ⟨(d :: first) :: parts, part, rfl, hpart⟩

/-! ## §4 Kinds of characters -/

/-- A text of one kind of characters ends at the first character of another kind. -/
theorem eq_of_append_eq_of_all {p : Char → Bool} {s t x y : List Char} (hs : ∀ c ∈ s, p c = true)
    (ht : ∀ c ∈ t, p c = true) (hx : ∀ c ∈ x.head?, p c = false) (hy : ∀ c ∈ y.head?, p c = false)
    (h : s ++ x = t ++ y) : s = t ∧ x = y := by
  have htake : ∀ {s x : List Char}, (∀ c ∈ s, p c = true) → (∀ c ∈ x.head?, p c = false) →
      (s ++ x).takeWhile p = s := by
    intro s x hs hx
    rw [List.takeWhile_append_of_pos hs]
    cases x with
    | nil => simp
    | cons c x => simp [hx c rfl]
  have hst : s = t := by rw [← htake hs hx, h, htake ht hy]
  exact ⟨hst, List.append_cancel_left (hst ▸ h)⟩

end SchemaDoc.Text
