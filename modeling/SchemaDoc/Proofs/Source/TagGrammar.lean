/-
SchemaDoc.Proofs.Source.TagGrammar — which lines hold a tag.

A line holds a tag exactly if it can be put together from a text without at
signs, an at sign, a name that starts with `api`, a gap, a content, and perhaps
another gap (`tagLine?_eq_some_iff`). No two ways of doing so make one line:
each part is of one kind of characters and the next one starts with another
kind, except for the content, and that ends where only a gap is left
(`IsTag.eq_of_text_eq`). The tag keeps name and content alone, and its text
behind the same prefix holds the same tag (`tagLine?_text`).

§1 the parts of a line, §2 one way to take a line apart, §3 a line put together
is read, §4 a line that is read is taken apart, §5 lines with a tag.
-/
import SchemaDoc.Proofs.Source.TagLines

namespace SchemaDoc.Source

/-! ## §1 The parts of a line -/

/-- The parts of a line around the at sign of its tag. -/
@[ext]
structure TagParts where
  before : List Char
  name : List Char
  gap : List Char
  content : List Char
  after : List Char

namespace TagParts

/-- The line that the parts make. -/
def text (p : TagParts) : List Char :=
  p.before ++ '@' :: (p.name ++ (p.gap ++ (p.content ++ p.after)))

/-- The parts are those of a tag: the at sign is the first one, the name is `api` with a letter of
ASCII at least behind it, there is a gap between name and content, the content starts with no blank
of any kind and ends in no gap, and only a gap follows it. -/
structure IsTag (p : TagParts) : Prop where
  first : '@' ∉ p.before
  named : ∃ letters, p.name = 'a' :: 'p' :: 'i' :: letters ∧ letters ≠ [] ∧
    ∀ c ∈ letters, c.isAlpha = true
  parted : p.gap ≠ []
  gap : ∀ c ∈ p.gap, Text.isGap c = true
  given : ∃ c rest, p.content = c :: rest ∧ Text.isBlank c = false
  ended : ∀ c ∈ p.content.getLast?, Text.isGap c = false
  after : ∀ c ∈ p.after, Text.isGap c = true

/-- The tag of the parts, and what stands before it. -/
def tagLine (p : TagParts) : TagLine :=
  ⟨String.ofList p.before, Tag.ofContent (String.ofList p.name) (String.ofList p.content)⟩

/-! ## §2 One way to take a line apart -/

variable {p q : TagParts}

theorem not_isAlpha_of_isGap {c : Char} (h : Text.isGap c = true) : c.isAlpha = false := by
  simp only [Text.isGap, Bool.or_eq_true, beq_iff_eq] at h
  rcases h with rfl | rfl <;> rfl

theorem IsTag.isAlpha_name (h : p.IsTag) : ∀ c ∈ p.name, c.isAlpha = true := by
  obtain ⟨letters, hname, -, hletters⟩ := h.named
  rw [hname]
  simpa only [List.forall_mem_cons] using ⟨rfl, rfl, rfl, hletters⟩

/-- The name ends where the gap begins. -/
theorem IsTag.head?_gap (h : p.IsTag) (rest : List Char) :
    ∀ c ∈ (p.gap ++ rest).head?, c.isAlpha = false := by
  intro c hc
  rw [List.head?_append_of_ne_nil _ h.parted] at hc
  exact not_isAlpha_of_isGap (h.gap c (List.mem_of_mem_head? hc))

/-- The gap ends where the content begins. -/
theorem IsTag.head?_content (h : p.IsTag) (rest : List Char) :
    ∀ c ∈ (p.content ++ rest).head?, Text.isGap c = false := by
  obtain ⟨c, content, hcontent, hc⟩ := h.given
  rw [hcontent]
  rintro _ ⟨⟩
  exact not_isGap_of_not_isBlank hc

/-- The content is what is left without the gap at the end. -/
theorem IsTag.withoutGap_content (h : p.IsTag) : withoutGap (p.content ++ p.after) = p.content := by
  obtain ⟨c, content, hcontent, -⟩ := h.given
  obtain ⟨start, last, hlast⟩ :=
    (List.eq_nil_or_concat' p.content).resolve_left (by simp [hcontent])
  have hgap : Text.isGap last = false := h.ended last (by simp [hlast])
  rw [withoutGap_append, withoutGap_of_isGap h.after, List.isEmpty_nil, if_pos rfl, hlast,
    withoutGap_append, withoutGap_cons hgap]
  rfl

/-- **The parts of a tag are found in one way only.** -/
theorem IsTag.eq_of_text_eq (hp : p.IsTag) (hq : q.IsTag) (h : p.text = q.text) : p = q := by
  have hcut := congrArg (Text.cutOnce '@') h
  rw [text, text, Text.cutOnce_append hp.first, Text.cutOnce_append hq.first] at hcut
  obtain ⟨hbefore, hbehind⟩ := Prod.mk.inj hcut
  obtain ⟨hname, hrest⟩ := Text.eq_of_append_eq_of_all hp.isAlpha_name hq.isAlpha_name
    (hp.head?_gap _) (hq.head?_gap _) (Option.some.inj hbehind)
  obtain ⟨hgap, hrest⟩ := Text.eq_of_append_eq_of_all hp.gap hq.gap
    (hp.head?_content _) (hq.head?_content _) hrest
  have hcontent : p.content = q.content := by
    rw [← hp.withoutGap_content, hrest, hq.withoutGap_content]
  rw [hcontent] at hrest
  exact TagParts.ext hbefore hname hgap hcontent (List.append_cancel_left hrest)

/-! ## §3 A line put together is read -/

theorem IsTag.tagName? (h : p.IsTag) :
    tagName? (p.name ++ (p.gap ++ (p.content ++ p.after)))
      = some (p.name, p.gap ++ (p.content ++ p.after)) := by
  obtain ⟨letters, hname, hne, hletters⟩ := h.named
  obtain ⟨c, rest, hgap⟩ := List.exists_cons_of_ne_nil h.parted
  have hc : c.isAlpha = false := h.head?_gap [] c (by simp [hgap])
  have htake : (letters ++ c :: (rest ++ (p.content ++ p.after))).takeWhile Char.isAlpha
      = letters := by
    rw [List.takeWhile_append_of_pos hletters, List.takeWhile_cons_of_neg (by simp [hc]),
      List.append_nil]
  have hdrop : (letters ++ c :: (rest ++ (p.content ++ p.after))).dropWhile Char.isAlpha
      = c :: (rest ++ (p.content ++ p.after)) := by
    rw [List.dropWhile_append_of_pos hletters, List.dropWhile_cons_of_neg (by simp [hc])]
  simp only [hname, hgap, List.cons_append, Source.tagName?, htake, hdrop,
    List.isEmpty_eq_false_iff.mpr hne]
  rfl

theorem IsTag.tagContent? (h : p.IsTag) (hline : '\n' ∉ p.content ++ p.after) :
    tagContent? (p.gap ++ (p.content ++ p.after)) = some p.content := by
  obtain ⟨c, rest, hcontent, hc⟩ := h.given
  have hdrop : (p.gap ++ (p.content ++ p.after)).dropWhile Text.isGap = p.content ++ p.after := by
    rw [List.dropWhile_append_of_pos h.gap, hcontent, List.cons_append,
      List.dropWhile_cons_of_neg (by simp [not_isGap_of_not_isBlank hc])]
  have hhead : ((p.gap ++ (p.content ++ p.after)).head?.map Text.isGap).getD false = true := by
    obtain ⟨d, gap, hgap⟩ := List.exists_cons_of_ne_nil h.parted
    rw [hgap]
    exact h.gap d (hgap ▸ List.mem_cons_self ..)
  have hlast : (p.content ++ p.after).getLast? ≠ some '\n' := fun hl =>
    hline (List.mem_of_getLast? hl)
  have hcontains : (p.content ++ p.after).contains '\n' = false := by simpa using hline
  have hkept := h.withoutGap_content
  unfold Source.tagContent?
  rw [hdrop, hhead]
  rw [hcontent, List.cons_append] at hlast hcontains hkept ⊢
  simp only [if_neg hlast, hc, hcontains, hkept]
  rfl

/-- A line that is put together from the parts of a tag holds this tag. -/
theorem IsTag.tagLine?_text (h : p.IsTag) (hline : '\n' ∉ p.text) :
    tagLine? p.text = some p.tagLine := by
  simp only [text, List.mem_append, List.mem_cons, not_or] at hline
  obtain ⟨hbefore, -, -, -, hcontent, hafter⟩ := hline
  have hbehind : '\n' ∉ p.content ++ p.after :=
    fun hm => (List.mem_append.mp hm).elim hcontent hafter
  rw [Source.tagLine?, text, Text.cutOnce_append h.first]
  simp only [List.contains_eq_mem, hbefore, decide_false, Bool.false_eq_true, if_false, h.tagName?,
    h.tagContent? hbehind]
  rfl

end TagParts

/-! ## §4 A line that is read is taken apart -/

/-- What is read as a name is one, and stands in front of the rest. -/
theorem eq_of_tagName? {s name rest : List Char} (h : tagName? s = some (name, rest)) :
    s = name ++ rest ∧ ∃ letters, name = 'a' :: 'p' :: 'i' :: letters ∧ letters ≠ [] := by
  unfold tagName? at h
  split at h
  · simp only at h
    split at h
    · cases h
    · rename_i hne
      cases h
      refine ⟨?_, _, rfl, fun hnil => hne (List.isEmpty_iff.mpr hnil)⟩
      simp only [List.cons_append, List.takeWhile_append_dropWhile]
  · cases h

/-- What is read as a content stands between gaps, of which the first one is not empty. -/
theorem gaps_of_tagContent? {s content : List Char} (hline : '\n' ∉ s)
    (h : tagContent? s = some content) : ∃ gap after, s = gap ++ (content ++ after) ∧
      gap ≠ [] ∧ (∀ c ∈ gap, Text.isGap c = true) ∧ ∀ c ∈ after, Text.isGap c = true := by
  have hgap : ∀ t : List Char, ∀ c ∈ t.takeWhile Text.isGap, Text.isGap c = true := fun t =>
    List.all_eq_true.mp List.all_takeWhile
  unfold tagContent? at h
  split at h
  · cases h
  · rename_i c rest hdrop
    have hlast : (c :: rest).getLast? ≠ some '\n' := fun hl =>
      hline ((List.dropWhile_suffix _).subset (hdrop ▸ List.mem_of_getLast? hl))
    simp only [if_neg hlast] at h
    split at h
    · rename_i hcond
      cases h
      refine ⟨s.takeWhile Text.isGap, ((c :: rest).reverse.takeWhile Text.isGap).reverse, ?_, ?_,
        hgap s, fun d hd => hgap _ d (List.mem_reverse.mp hd)⟩
      · rw [withoutGap, ← List.reverse_append, List.takeWhile_append_dropWhile,
          List.reverse_reverse, ← hdrop, List.takeWhile_append_dropWhile]
      · intro hnil
        cases s with
        | nil => cases hdrop
        | cons d s =>
          simp only [List.head?_cons, Option.map_some, Option.getD_some, Bool.and_eq_true] at hcond
          rw [List.takeWhile_cons_of_pos hcond.1.1] at hnil
          cases hnil
    · cases h

/-- What has no gap at its end ends in no gap. -/
theorem not_isGap_of_withoutGap_eq {s : List Char} (h : withoutGap s = s) :
    ∀ c ∈ s.getLast?, Text.isGap c = false := by
  intro c hc
  obtain ⟨start, rfl⟩ := List.getLast?_eq_some_iff.mp (Option.mem_def.mp hc)
  by_contra hgap
  rw [withoutGap_append, withoutGap_of_isGap (by simpa using hgap), List.isEmpty_nil,
    if_pos rfl] at h
  have hlength := (withoutGap_starts start).length_le
  rw [h, List.length_append, List.length_singleton] at hlength
  omega

/-- A line that holds a tag is put together from the parts of one. -/
theorem exists_parts_of_tagLine? {line : List Char} {t : TagLine} (hline : '\n' ∉ line)
    (h : tagLine? line = some t) : ∃ p : TagParts, p.IsTag ∧ p.text = line ∧ p.tagLine = t := by
  unfold tagLine? at h
  split at h
  · rename_i before behind hcut
    obtain ⟨rfl, hat⟩ := Text.eq_of_cutOnce hcut
    split at h
    · cases h
    · split at h
      · rename_i name rest hname
        obtain ⟨content, hcontent, rfl⟩ := Option.map_eq_some_iff.mp h
        obtain ⟨rfl, letters, hletters, hne⟩ := eq_of_tagName? hname
        have hrest : '\n' ∉ rest := fun hm => hline (by simp [hm])
        obtain ⟨gap, after, rfl, hparted, hgap, hafter⟩ := gaps_of_tagContent? hrest hcontent
        obtain ⟨htidy, hgiven⟩ := tagContent?_form hcontent
        refine ⟨⟨before, name, gap, content, after⟩, ⟨hat, ⟨letters, hletters, hne, fun c hc => ?_⟩,
          hparted, hgap, hgiven, not_isGap_of_withoutGap_eq htidy, hafter⟩, rfl, rfl⟩
        exact isAlpha_of_tagName? hname c (hletters ▸ by simp [hc])
      · cases h
  · cases h

/-! ## §5 Lines with a tag -/

variable {line : List Char}

/-- The line of a tag without the gaps that it does not keep. -/
def TagParts.tight (p : TagParts) : TagParts := { p with gap := [' '], after := [] }

theorem TagParts.IsTag.tight {p : TagParts} (h : p.IsTag) : p.tight.IsTag :=
  { h with
    parted := List.cons_ne_nil ' ' []
    gap := List.forall_mem_singleton.mpr rfl
    after := nofun }

theorem TagParts.text_tight (p : TagParts) :
    p.tight.text = p.tagLine.before.toList ++ p.tagLine.tag.text.toList := by
  simp [TagParts.text, TagParts.tight, TagParts.tagLine, Tag.ofContent, Tag.textOf]

/-- **The lines that hold a tag** are those that parts of a tag make. There is one way to take such
a line apart, and the text of the tag behind what stands before it is read as the same. -/
theorem tagLine?_eq_some_iff (hline : '\n' ∉ line) :
    (∀ t, tagLine? line = some t ↔ ∃ p : TagParts, p.IsTag ∧ p.text = line ∧ p.tagLine = t) ∧
    (∀ p q : TagParts, p.IsTag → q.IsTag → p.text = line → q.text = line → p = q) ∧
    ∀ t, tagLine? line = some t → tagLine? (t.before.toList ++ t.tag.text.toList) = some t := by
  refine ⟨fun t => ⟨exists_parts_of_tagLine? hline, ?_⟩, fun p q hp hq hptext hqtext => ?_,
    fun t ht => ?_⟩
  · rintro ⟨p, hp, rfl, rfl⟩
    exact hp.tagLine?_text hline
  · exact hp.eq_of_text_eq hq (hptext.trans hqtext.symm)
  · obtain ⟨p, hp, rfl, rfl⟩ := exists_parts_of_tagLine? hline ht
    have htight : '\n' ∉ p.tight.text := by
      simp only [TagParts.text, TagParts.tight, List.mem_append, List.mem_cons, not_or] at hline ⊢
      simp [hline]
    rw [← p.text_tight]
    exact hp.tight.tagLine?_text htight

/-- A line with another at sign, gaps of both kinds, and a blank at its end that is no gap. -/
theorem tagLine?_eq_some_padded :
    '\n' ∉ " * @apiParam \t (a) \x7bschema\x7d b@c\u00a0 \t".toList ∧
    tagLine? " * @apiParam (a) \x7bschema\x7d b@c\u00a0".toList
      = some ⟨" * ", Tag.ofContent "apiParam" "(a) \x7bschema\x7d b@c\u00a0"⟩ := by
  have hline : '\n' ∉ " * @apiParam \t (a) \x7bschema\x7d b@c\u00a0 \t".toList := by decide
  refine ⟨hline, (tagLine?_eq_some_iff hline).2.2
    ⟨" * ", Tag.ofContent "apiParam" "(a) \x7bschema\x7d b@c\u00a0"⟩ ?_⟩
  decide +kernel

end SchemaDoc.Source
