/-
SchemaDoc.Proofs.Source.TagLines — the tags of a source text.

The tags of a text are those of its lines. Where texts are put together and the
first one ends with a line, the tags of the whole are those of the parts, even
if a CR and an LF meet (`tagLines_append`). What stands in the place of a
mention is read back as one tag per field, up to the gaps at the end of its
content (`tagLines_endedBy`, `tagLine?_fieldLine`).

§1 ended texts, §2 the tags of texts put together, §3 tidy tags, §4 the tags of
field lines.
-/
import Mathlib.Data.List.DropRight
import SchemaDoc.Proofs.Source.Mentioned

namespace SchemaDoc

/-! ## §1 Ended texts -/

namespace Text

/-- A text whose last line is ended. -/
def Ended (s : List Char) : Prop := ∃ c, s.getLast? = some c ∧ isBreak c = true

theorem Ended.append {y : List Char} (h : Ended y) (x : List Char) : Ended (x ++ y) := by
  obtain ⟨c, hc, hb⟩ := h
  refine ⟨c, ?_, hb⟩
  rw [List.getLast?_append, hc]
  rfl

theorem ended_terminator {line : List Char} (h : terminator line ≠ []) :
    Ended (terminator line) := by
  revert h
  unfold terminator
  split
  · exact fun _ => ⟨'\n', rfl, rfl⟩
  · rename_i c rest _ _
    split
    · rename_i hc
      exact fun _ => ⟨c, rfl, hc⟩
    · exact fun h => absurd rfl h
  · exact fun h => absurd rfl h

/-- The last line of a text ends as the text does. -/
theorem getLast?_of_lines {s line : List Char} (h : (lines s).getLast? = some line) :
    line.getLast? = s.getLast? := by
  obtain ⟨before, hlines⟩ := List.getLast?_eq_some_iff.mp h
  have hne : line ≠ [] :=
    (isLine_of_mem_lines s line (hlines ▸ List.mem_append_right _ (List.mem_singleton_self _))).ne_nil
  have hs := flatten_lines s
  rw [hlines, List.flatten_append, List.flatten_singleton] at hs
  rw [← hs, List.getLast?_append_of_ne_nil _ hne]

end Text

namespace Source

/-! ## §2 The tags of texts put together -/

/-- The tag of a line, and what stands before it. -/
def tagOf? (line : List Char) : Option TagLine := tagLine? (Text.Line.ofList line).body

/-- The tags of a text, in order. -/
def tagLines (s : List Char) : List TagLine := (Text.lines s).filterMap tagOf?

theorem tagOf?_append_lf {line : List Char} (h : line.getLast? = some '\r') :
    tagOf? (line ++ ['\n']) = tagOf? line := by
  obtain ⟨u, rfl⟩ := List.getLast?_eq_some_iff.mp h
  simp [tagOf?, Text.Line.ofList]

theorem tagLines_lf (s : List Char) : tagLines ('\n' :: s) = tagLines s := by
  rw [tagLines, Text.lines_lf]
  rfl

theorem tagLines_isLine {line : List Char} (h : Text.IsLine line) :
    tagLines line = (tagOf? line).toList := by
  rw [tagLines, Text.lines_of_isLine h]
  cases hl : tagOf? line <;> simp [hl]

/-- A line in front of a text, which stays a line or grows by an LF. -/
theorem tagLines_line_append {line s : List Char} (h : Text.IsLine line)
    (hend : s = [] ∨ Text.Ended line) :
    tagLines (line ++ s) = (tagOf? line).toList ++ tagLines s := by
  rcases hend with rfl | hend
  · rw [List.append_nil, tagLines_isLine h]
    exact (List.append_nil _).symm
  by_cases hglue : line.getLast? = some '\r' ∧ s.head? = some '\n'
  · obtain ⟨hcr, hlf⟩ := hglue
    obtain ⟨s, rfl⟩ := List.head?_eq_some_iff.mp hlf
    have hapart : Text.Apart (line ++ ['\n']) s :=
      ⟨⟨'\n', List.getLast?_concat, Text.isBreak_lf⟩, fun h => by simp at h⟩
    have hlines : Text.lines (line ++ '\n' :: s) = (line ++ ['\n']) :: Text.lines s := by
      rw [List.append_cons, Text.lines_append (h.grown hcr) hapart]
    rw [tagLines_lf, tagLines, hlines, List.filterMap_cons, tagOf?_append_lf hcr]
    cases tagOf? line <;> rfl
  · rw [tagLines, Text.lines_append h ⟨hend, hglue⟩, List.filterMap_cons]
    cases tagOf? line <;> rfl

/-- Lines that stay apart, in front of a text. -/
theorem tagLines_flatten_append {s : List Char} : ∀ {ls : List (List Char)},
    (∀ line ∈ ls, Text.IsLine line) → ls.IsChain Text.Apart →
    (s = [] ∨ ∀ line, ls.getLast? = some line → Text.Ended line) →
    tagLines (ls.flatten ++ s) = ls.filterMap tagOf? ++ tagLines s
  | [], _, _, _ => rfl
  | line :: rest, hlines, hchain, hend => by
    obtain ⟨hline, hlines⟩ := List.forall_mem_cons.mp hlines
    obtain ⟨hapart, hchain⟩ := List.isChain_cons.mp hchain
    have hrest : tagLines (rest.flatten ++ s) = rest.filterMap tagOf? ++ tagLines s := by
      refine tagLines_flatten_append hlines hchain (hend.imp_right fun hend last hlast => ?_)
      refine hend last ?_
      rw [List.getLast?_cons, hlast]
      rfl
    have hfirst : rest.flatten ++ s = [] ∨ Text.Ended line := by
      cases rest with
      | nil => exact hend.imp id fun hend => hend line rfl
      | cons next rest => exact Or.inr (hapart next rfl).1
    rw [List.flatten_cons, List.append_assoc, tagLines_line_append hline hfirst, hrest,
      List.filterMap_cons]
    cases tagOf? line <;> rfl

/-- **The tags of a text put together from two** are those of both, if the first one is ended. -/
theorem tagLines_append {x s : List Char} (h : x = [] ∨ Text.Ended x ∨ s = []) :
    tagLines (x ++ s) = tagLines x ++ tagLines s := by
  have hend : s = [] ∨ ∀ line, (Text.lines x).getLast? = some line → Text.Ended line := by
    rcases h with rfl | ⟨c, hc, hb⟩ | rfl
    · exact Or.inr fun line hline => nomatch hline
    · exact Or.inr fun line hline => ⟨c, (Text.getLast?_of_lines hline).trans hc, hb⟩
    · exact Or.inl rfl
  have := tagLines_flatten_append (Text.isLine_of_mem_lines x) (Text.isChain_lines x) hend
  rwa [Text.flatten_lines] at this

/-! ## §3 Tidy tags -/

/-- A tag without the gaps at the end of its content. -/
def TagLine.tidy (t : TagLine) : TagLine :=
  { t with tag := { t.tag with
      text := String.ofList (withoutGap t.tag.text.toList)
      content := String.ofList (withoutGap t.tag.content.toList) } }

theorem withoutGap_withoutGap (s : List Char) : withoutGap (withoutGap s) = withoutGap s := by
  unfold withoutGap
  rw [List.reverse_reverse, List.dropWhile_idempotent]

theorem isGap_of_withoutGap {s : List Char} (h : withoutGap s = []) :
    ∀ c ∈ s, Text.isGap c = true := by
  intro c hc
  have hdrop : s.reverse.dropWhile Text.isGap = [] := List.reverse_eq_nil_iff.mp h
  exact List.dropWhile_eq_nil_iff.mp hdrop c (List.mem_reverse.mpr hc)

theorem withoutGap_of_isGap {s : List Char} (h : ∀ c ∈ s, Text.isGap c = true) :
    withoutGap s = [] := by
  refine List.reverse_eq_nil_iff.mpr (List.dropWhile_eq_nil_iff.mpr fun c hc => ?_)
  exact h c (List.mem_reverse.mp hc)

theorem TagLine.tidy_tidy (t : TagLine) : t.tidy.tidy = t.tidy := by
  unfold TagLine.tidy
  simp only [String.toList_ofList, withoutGap_withoutGap]

theorem withoutGap_cons {c : Char} (h : Text.isGap c = false) (s : List Char) :
    withoutGap (c :: s) = c :: withoutGap s := by
  have hc : withoutGap [c] = [c] := by simp [withoutGap, h]
  rw [← List.singleton_append, withoutGap_append, hc]
  split
  · rename_i hempty
    rw [List.isEmpty_iff.mp hempty]
  · rfl

/-- Gaps at the end of a content that starts with no gap are gaps at the end of the tag. -/
theorem withoutGap_textOf (spelling : String) {content : String} {c : Char} {rest : List Char}
    (hcontent : content.toList = c :: rest) (hc : Text.isGap c = false) :
    withoutGap (Tag.textOf spelling content).toList
      = (Tag.textOf spelling (String.ofList (withoutGap content.toList))).toList := by
  have hkept : (withoutGap content.toList).isEmpty = false := by
    rw [hcontent, withoutGap_cons hc]
    rfl
  have hsplit : ∀ s : String,
      (Tag.textOf spelling s).toList = '@' :: (spelling.toList ++ [' ']) ++ s.toList := by
    simp [Tag.textOf]
  rw [hsplit, hsplit, withoutGap_append, hkept, String.toList_ofList]
  rfl

/-- A tag is tidied by tidying its content. -/
theorem tidy_ofContent (before spelling : String) {content : String} {c : Char} {rest : List Char}
    (hcontent : content.toList = c :: rest) (hc : Text.isGap c = false) :
    (TagLine.mk before (Tag.ofContent spelling content)).tidy
      = ⟨before, Tag.ofContent spelling (String.ofList (withoutGap content.toList))⟩ := by
  unfold TagLine.tidy Tag.ofContent
  simp only [withoutGap_textOf spelling hcontent hc, String.ofList_toList]

theorem not_isGap_of_not_isBlank {c : Char} (h : Text.isBlank c = false) :
    Text.isGap c = false := by
  rw [Text.isGap, Bool.or_eq_false_iff, beq_eq_false_iff_ne, beq_eq_false_iff_ne]
  constructor
  · rintro rfl
    cases h
  · rintro rfl
    cases h

/-- What a content is: it starts with no blank, and ends in no gap. -/
theorem tagContent?_form {s content : List Char} (h : tagContent? s = some content) :
    withoutGap content = content ∧ ∃ c rest, content = c :: rest ∧ Text.isBlank c = false := by
  unfold tagContent? at h
  split at h
  · cases h
  · rename_i c rest _
    simp only at h
    generalize hline : (if (c :: rest).getLast? = some '\n' then (c :: rest).dropLast
      else c :: rest) = line at h
    split at h
    · rename_i hcond
      cases h
      simp only [Bool.and_eq_true, Bool.not_eq_true'] at hcond
      obtain ⟨⟨-, hblank⟩, -⟩ := hcond
      refine ⟨withoutGap_withoutGap line, c, ?_⟩
      obtain ⟨rest', rfl⟩ : ∃ rest', line = c :: rest' := by
        rw [← hline]
        split
        · rename_i hlast
          cases rest with
          | nil =>
            cases hlast
            cases hblank
          | cons d rest => exact ⟨(d :: rest).dropLast, rfl⟩
        · exact ⟨rest, rfl⟩
      exact ⟨withoutGap rest', withoutGap_cons (not_isGap_of_not_isBlank hblank) rest', hblank⟩
    · cases h

/-- What the tag of a line is: a name and a content, behind a text without line feeds. -/
theorem tagLine?_form {body : List Char} {t : TagLine} (h : tagLine? body = some t) :
    '\n' ∉ t.before.toList ∧ t.tag = Tag.ofContent t.tag.spelling t.tag.content ∧
      t.tidy = t := by
  unfold tagLine? at h
  split at h
  · rename_i before behind _
    split at h
    · cases h
    · rename_i hbefore
      split at h
      · rename_i name rest _
        obtain ⟨content, hcontent, rfl⟩ := Option.map_eq_some_iff.mp h
        obtain ⟨htidy, c, rest', hform, hblank⟩ := tagContent?_form hcontent
        refine ⟨?_, rfl, ?_⟩
        · simpa using hbefore
        · have hlist : (String.ofList content).toList = c :: rest' := by
            rw [String.toList_ofList, hform]
          rw [tidy_ofContent _ _ hlist (not_isGap_of_not_isBlank hblank), String.toList_ofList,
            htidy]
      · cases h
  · cases h

/-! ## §4 The tags of field lines -/

theorem tagContent?_of_blank {c : Char} {rest : List Char} (hc : Text.isBlank c = false)
    (hbreak : '\n' ∉ c :: rest) :
    tagContent? (' ' :: c :: rest) = some (withoutGap (c :: rest)) := by
  have hgap := not_isGap_of_not_isBlank hc
  have hdrop : (' ' :: c :: rest).dropWhile Text.isGap = c :: rest := by
    rw [List.dropWhile_cons_of_pos (by decide), List.dropWhile_cons_of_neg (by simp [hgap])]
  have hlast : (c :: rest).getLast? ≠ some '\n' := fun h => hbreak (List.mem_of_getLast? h)
  have hcontains : (c :: rest).contains '\n' = false := by simpa using hbreak
  unfold tagContent?
  rw [hdrop]
  simp only [if_neg hlast, hc, hcontains]
  rfl

/-- The line of a field is read back as the tag that stands for the field, but for gaps at the end
of its content. -/
theorem tagLine?_fieldLine {body : List Char} {t : TagLine} {content : String} {c : Char}
    {rest : List Char} (ht : tagLine? body = some t)
    (hname : Tag.describing.contains t.tag.spelling = true) (hcontent : content.toList = c :: rest)
    (hc : Text.isBlank c = false) (hbreak : '\n' ∉ content.toList) :
    tagLine? (fieldLine t content) = some (TagLine.tidy ⟨t.before, t.tag.withContent content⟩) := by
  obtain ⟨hbefore, htag, -⟩ := tagLine?_form ht
  have hat := (parts_of_tagLine? ht).1
  have hlf : t.before.toList.contains '\n' = false := by simpa using hbefore
  have hwith : t.tag.withContent content = Tag.ofContent t.tag.spelling content := by
    rw [htag]
    rfl
  rw [hcontent] at hbreak
  rw [hwith, tidy_ofContent _ _ hcontent (not_isGap_of_not_isBlank hc), fieldLine, tagLine?,
    Text.cutOnce_append hat]
  simp only [hlf, tagName?_of_describing hname, hcontent, tagContent?_of_blank hc hbreak]
  simp

/-- The tags of lines with the same end are those of their bodies. -/
theorem tagLines_endedBy {e : List Char} (he : e ∈ Text.knownEnds) :
    ∀ {bodies : List (List Char)}, (∀ b ∈ bodies, Text.Unbroken b ∧ b ≠ []) →
      tagLines (endedBy e bodies).flatten = bodies.filterMap tagLine?
  | [], _ => rfl
  | body :: rest, hb => by
    obtain ⟨⟨hplain, hne⟩, hrest⟩ := List.forall_mem_cons.mp hb
    have ih := tagLines_endedBy he hrest
    have hline : ∀ e ∈ Text.knownEnds, tagLines (body ++ e) = (tagLine? body).toList := by
      intro e he
      have hofList := Text.Line.ofList_append hplain he
      have hisLine : Text.IsLine (body ++ e) := by
        simp only [Text.knownEnds, List.mem_cons, List.not_mem_nil, or_false] at he
        rcases he with rfl | rfl | rfl | rfl
        · rw [List.append_nil]
          exact .of_unbroken hplain hne
        · exact .unbroken_append hplain (.ended rfl)
        · exact .unbroken_append hplain (.ended rfl)
        · exact .unbroken_append hplain .crlf
      rw [tagLines_isLine hisLine, tagOf?, hofList]
    cases rest with
    | nil =>
      rw [endedBy, List.flatten_singleton, hline e he]
      cases htag : tagLine? body <;> simp [htag]
    | cons next rest =>
      have hinner : (if e.isEmpty then ['\n'] else e) ∈ Text.knownEnds ∧
          Text.Ended (if e.isEmpty then ['\n'] else e) := by
        simp only [Text.knownEnds, List.mem_cons, List.not_mem_nil, or_false] at he
        rcases he with rfl | rfl | rfl | rfl
        · exact ⟨by decide, '\n', rfl, rfl⟩
        · exact ⟨by decide, '\n', rfl, rfl⟩
        · exact ⟨by decide, '\r', rfl, rfl⟩
        · exact ⟨by decide, '\n', rfl, rfl⟩
      rw [endedBy_cons_cons, List.flatten_cons,
        tagLines_append (Or.inr (Or.inl (hinner.2.append body))), hline _ hinner.1, ih,
        List.filterMap_cons (l := next :: rest)]
      cases tagLine? body <;> rfl

end Source

end SchemaDoc
