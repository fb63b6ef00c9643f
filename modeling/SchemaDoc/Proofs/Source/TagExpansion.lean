/-
SchemaDoc.Proofs.Source.TagExpansion — expanding a text expands its tags.

A text can be expanded as a whole, or its tags can be read and expanded one by
one. Both ways lead to the same tags behind the same prefixes, except that a
content that is read from a text has no gaps at its end
(`tagLines_expand`). What is needed is that no field is rendered with a line
break, and that the end of each line with a mention is known.

§1 tags expanded one by one, §2 what becomes of a line, §3 what becomes of a text.
-/
import SchemaDoc.Proofs.Source.Drift
import SchemaDoc.Proofs.Source.TagLines

namespace SchemaDoc.Source

/-! ## §1 Tags expanded one by one -/

/-- The tags that tags stand for, each behind the prefix of the tag that stands for it. -/
def expandTagLines (disk : Disk) (base : Path) (strict : Bool) :
    List TagLine → Except Failure (List TagLine)
  | [] => .ok []
  | t :: rest => do
    let here ← (t.tag.expand disk base strict).result
    let others ← expandTagLines disk base strict rest
    return here.map (TagLine.mk t.before) ++ others

variable {disk : Disk} {base : Path} {strict : Bool}

theorem expandTagLines_append : ∀ {ts us xs ys : List TagLine},
    expandTagLines disk base strict ts = .ok xs → expandTagLines disk base strict us = .ok ys →
    expandTagLines disk base strict (ts ++ us) = .ok (xs ++ ys)
  | [], us, xs, ys, hts, hus => by
    cases hts
    exact hus
  | t :: ts, us, xs, ys, hts, hus => by
    obtain ⟨here, hhere, h⟩ := bind_eq_ok.mp hts
    obtain ⟨others, hothers, h⟩ := bind_eq_ok.mp h
    cases h
    rw [List.cons_append, expandTagLines, hhere, ok_bind, expandTagLines_append hothers hus,
      ok_bind, List.append_assoc]
    rfl

theorem expandTagLines_singleton (t : TagLine) : expandTagLines disk base strict [t]
    = (t.tag.expand disk base strict).result.map (List.map (TagLine.mk t.before)) := by
  rw [expandTagLines]
  cases (t.tag.expand disk base strict).result with
  | error f => rfl
  | ok tags =>
    simp only [ok_bind, expandTagLines, pure_eq_ok, List.append_nil]
    rfl

/-- What a tag stands for is among what comes of a list with it. -/
theorem mem_expandTagLines {t : TagLine} {u : Tag} {tags : List Tag}
    (ht : (t.tag.expand disk base strict).result = .ok tags) (hu : u ∈ tags) :
    ∀ {ts xs : List TagLine}, expandTagLines disk base strict ts = .ok xs → t ∈ ts →
      TagLine.mk t.before u ∈ xs
  | first :: rest, xs, h, hmem => by
    obtain ⟨here, hhere, h⟩ := bind_eq_ok.mp h
    obtain ⟨others, hothers, h⟩ := bind_eq_ok.mp h
    cases h
    rcases List.mem_cons.mp hmem with rfl | hmem
    · cases Except.ok.inj (hhere.symm.trans ht)
      exact List.mem_append_left _ (List.mem_map.mpr ⟨u, hu, rfl⟩)
    · exact List.mem_append_right _ (mem_expandTagLines ht hu hothers hmem)

/-- A tag that mentions no schema stands for itself. -/
theorem expand_of_mention?_none {t : Tag} (h : t.mention? = none) :
    (t.expand disk base strict).result = .ok [t] := by
  unfold Tag.expand
  rw [h]
  rfl

/-- A tag that mentions a schema stands for a tag for each line of the description. -/
theorem expand_of_mention? {t : Tag} {m : Mention} (h : t.mention? = some m) :
    (t.expand disk base strict).result
      = (Tag.describe disk base strict m).result.map (List.map t.withContent) := by
  unfold Tag.expand
  simp only [h, Logged.bind_result]
  cases (Tag.describe disk base strict m).result <;> rfl

/-! ## §2 What becomes of a line -/

theorem mentioned?_eq_some_iff {line : List Char} {t : TagLine} {m : Mention} :
    mentioned? line = some (t, m) ↔ tagOf? line = some t ∧ t.tag.mention? = some m := by
  unfold mentioned? tagOf?
  constructor
  · intro h
    obtain ⟨t', ht, h⟩ := Option.bind_eq_some_iff.mp h
    obtain ⟨m', hm, h⟩ := Option.bind_eq_some_iff.mp h
    cases h
    exact ⟨ht, hm⟩
  · rintro ⟨ht, hm⟩
    rw [ht]
    show (t.tag.mention?).bind _ = _
    rw [hm]
    rfl

theorem mentioned?_eq_none_iff {line : List Char} :
    mentioned? line = none ↔ ∀ t, tagOf? line = some t → t.tag.mention? = none := by
  constructor
  · intro h t ht
    cases hm : t.tag.mention? with
    | none => rfl
    | some m =>
      rw [mentioned?_eq_some_iff.mpr ⟨ht, hm⟩] at h
      cases h
  · intro h
    cases hl : mentioned? line with
    | none => rfl
    | some p =>
      obtain ⟨ht, hm⟩ := mentioned?_eq_some_iff.mp (show mentioned? line = some (p.1, p.2) from hl)
      rw [h p.1 ht] at hm
      cases hm

/-- A rendered line with its group starts with no blank. -/
theorem grouped_first {schema pad : Value} {lines : List String} (group : Option String)
    (h : Fields.linesOf schema pad = .ok lines) : ∀ line ∈ lines,
      ∃ c rest, (Tag.grouped group line).toList = c :: rest ∧ Text.isBlank c = false := by
  intro line hline
  obtain ⟨t, rest, hform, -⟩ := Fields.exists_of_mem_linesOf h line hline
  unfold Tag.grouped
  split
  · rename_i g _
    exact ⟨'(', g.toList ++ ')' :: ' ' :: line.toList, by simp, by decide⟩
  · exact ⟨'\x7b', _, hform, by decide⟩

/-- The fields that a line with a mention stands for: the lines that are put in its place, and the
tags that are read from these. -/
theorem fieldLines_of_mentioned? {line : List Char} {t : TagLine} {m : Mention}
    {contents : List String} (hline : Text.IsLine line) (hm : mentioned? line = some (t, m))
    (hplain : RendersUnbroken disk base strict line)
    (hd : (Tag.describe disk base strict m).result = .ok contents) :
    ∀ content ∈ contents, Text.Unbroken (fieldLine t content) ∧
      tagLine? (fieldLine t content)
        = some (TagLine.tidy ⟨t.before, t.tag.withContent content⟩) := by
  rw [Tag.describe_result] at hd
  obtain ⟨schema, hschema, hd⟩ := bind_eq_ok.mp hd
  obtain ⟨rendered, hrendered, hd⟩ := bind_eq_ok.mp hd
  cases hd
  intro content hcontent
  obtain ⟨r, hr, rfl⟩ := List.mem_map.mp hcontent
  have hunbroken := unbroken_fieldLine_of_mentioned? hline hm
    (hplain t m schema rendered hm hschema hrendered r hr)
  refine ⟨hunbroken, ?_⟩
  obtain ⟨c, rest, hform, hc⟩ := grouped_first m.group hrendered r hr
  obtain ⟨htag, -⟩ := mentioned?_eq_some_iff.mp hm
  refine tagLine?_fieldLine htag (describing_of_mentioned? hm).2 hform hc fun hlf => ?_
  have := hunbroken '\n' (by simp [fieldLine, hlf])
  rw [Text.isBreak_lf] at this
  cases this

/-- The tags of what becomes of a line are those that its tag stands for. -/
theorem tagLines_expandLine {line out : List Char} (hline : Text.IsLine line)
    (hplain : RendersUnbroken disk base strict line)
    (h : (expandLine disk base strict line).result = .ok out) :
    ∃ ts, expandTagLines disk base strict (tagOf? line).toList = .ok ts ∧
      tagLines out = ts.map TagLine.tidy := by
  rw [expandLine_result] at h
  obtain ⟨xs, hxs, rfl⟩ := map_eq_ok.mp h
  unfold standsForWith at hxs
  split at hxs
  · rename_i hnone
    cases hxs
    have hnone := mentioned?_eq_none_iff.mp hnone
    rw [List.flatten_singleton, tagLines_isLine hline]
    cases ht : tagOf? line with
    | none => exact ⟨[], rfl, rfl⟩
    | some t =>
      have hexpand : expandTagLines disk base strict [t] = _ := expandTagLines_singleton t
      rw [expand_of_mention?_none (hnone t ht)] at hexpand
      refine ⟨[t], hexpand, ?_⟩
      show [t] = [t.tidy]
      rw [(tagLine?_form ht).2.2]
  · rename_i t m hm
    obtain ⟨contents, hd, h⟩ := bind_eq_ok.mp hxs
    cases h
    obtain ⟨ht, hmention⟩ := mentioned?_eq_some_iff.mp hm
    have hfields := fieldLines_of_mentioned? hline hm hplain hd
    have hexpand : expandTagLines disk base strict [t] = _ := expandTagLines_singleton t
    rw [expand_of_mention? hmention, hd] at hexpand
    refine ⟨_, by rw [ht]; exact hexpand, ?_⟩
    have hbodies : ∀ b ∈ contents.map (fieldLine t), Text.Unbroken b ∧ b ≠ [] := by
      intro b hb
      obtain ⟨content, hcontent, rfl⟩ := List.mem_map.mp hb
      exact ⟨(hfields content hcontent).1, by simp [fieldLine]⟩
    have hread : (contents.map (fieldLine t)).filterMap tagLine?
        = contents.map fun content => TagLine.tidy ⟨t.before, t.tag.withContent content⟩ := by
      rw [List.filterMap_map, ← List.filterMap_eq_map]
      exact List.filterMap_congr fun content hcontent => (hfields content hcontent).2
    rw [tagLines_endedBy (Text.ending_mem_knownEnds line) hbodies, hread, List.map_map,
      List.map_map]
    rfl

theorem ended_endedBy {e : List Char} (he : Text.Ended e) : ∀ {bodies : List (List Char)},
    bodies ≠ [] → Text.Ended (endedBy e bodies).flatten
  | [], h => absurd rfl h
  | [body], _ => by
    rw [endedBy, List.flatten_singleton]
    exact he.append body
  | body :: next :: rest, _ => by
    rw [endedBy_cons_cons, List.flatten_cons]
    exact (ended_endedBy he (List.cons_ne_nil next rest)).append _

/-- What becomes of an ended line is ended, or nothing is left of it. -/
theorem ended_expandLine {line out : List Char} (hline : Text.IsLine line)
    (hended : Text.Ended line) (hknown : EndKnown disk base strict line)
    (h : (expandLine disk base strict line).result = .ok out) : out = [] ∨ Text.Ended out := by
  rw [expandLine_result] at h
  obtain ⟨ys, hys, rfl⟩ := map_eq_ok.mp h
  obtain ⟨xs, hxs⟩ := exists_standsFor hys
  rw [(flatten_standsForWith hxs hys).2.mpr hknown]
  unfold standsFor standsForWith at hxs
  split at hxs
  · cases hxs
    rw [List.flatten_singleton]
    exact Or.inr hended
  · obtain ⟨contents, -, h⟩ := bind_eq_ok.mp hxs
    cases h
    cases contents with
    | nil => exact Or.inl rfl
    | cons content contents =>
      have happart : Text.Apart line [] := ⟨hended, by simp⟩
      have hterminator := Text.ended_terminator (terminator_ne_nil hline happart)
      exact Or.inr (ended_endedBy hterminator (by simp))

/-! ## §3 What becomes of a text -/

theorem tagLines_expandLines : ∀ {ls : List (List Char)} {out : List Char},
    (∀ line ∈ ls, Text.IsLine line) → ls.IsChain Text.Apart →
    (∀ line ∈ ls, EndKnown disk base strict line) →
    (∀ line ∈ ls, RendersUnbroken disk base strict line) →
    (expandLines disk base strict ls).result = .ok out →
    ∃ ts, expandTagLines disk base strict (ls.filterMap tagOf?) = .ok ts ∧
      tagLines out = ts.map TagLine.tidy
  | [], out, _, _, _, _, h => by
    cases h
    exact ⟨[], rfl, rfl⟩
  | line :: rest, out, hlines, hchain, hknown, hplain, h => by
    obtain ⟨here, others, hhere, hothers, rfl⟩ := expandLines_cons_eq_ok.mp h
    obtain ⟨hline, hlines⟩ := List.forall_mem_cons.mp hlines
    obtain ⟨hapart, hchain⟩ := List.isChain_cons.mp hchain
    obtain ⟨hend, hknown⟩ := List.forall_mem_cons.mp hknown
    obtain ⟨hfirst, hplain⟩ := List.forall_mem_cons.mp hplain
    obtain ⟨us, hus, htags⟩ := tagLines_expandLines hlines hchain hknown hplain hothers
    obtain ⟨ts, hts, hhereTags⟩ := tagLines_expandLine hline hfirst hhere
    have hended : here = [] ∨ Text.Ended here ∨ others = [] := by
      cases rest with
      | nil =>
        cases hothers
        exact Or.inr (Or.inr rfl)
      | cons next rest =>
        exact (ended_expandLine hline (hapart next rfl).1 hend hhere).imp_right Or.inl
    refine ⟨ts ++ us, ?_, ?_⟩
    · have := expandTagLines_append hts hus
      rw [List.filterMap_cons]
      cases htag : tagOf? line with
      | none =>
        rw [htag] at this
        exact this
      | some t =>
        rw [htag] at this
        exact this
    · rw [tagLines_append hended, hhereTags, htags, List.map_append]

/-- The tags of an expanded text, if the end of every line with a mention is known. -/
theorem tagLines_of_expand {text out : String}
    (h : (expand disk base strict text).result = .ok out)
    (hknown : ∀ line ∈ Text.lines text.toList, EndKnown disk base strict line)
    (hplain : ∀ line ∈ Text.lines text.toList, RendersUnbroken disk base strict line) :
    ∃ ts, expandTagLines disk base strict (tagLines text.toList) = .ok ts ∧
      tagLines out.toList = ts.map TagLine.tidy :=
  tagLines_expandLines (Text.isLine_of_mem_lines _) (Text.isChain_lines _) hknown hplain
    (expand_eq_ok.mp h)

theorem lines_lf : Text.lines " * @apiParam \x7bschema\x7d s.json\n */\n".toList
    = [" * @apiParam \x7bschema\x7d s.json\n".toList, " */\n".toList] := rfl

theorem expand_lf : (expand (schemaDisk "") (.absolute []) false
    " * @apiParam \x7bschema\x7d s.json\n */\n").result
      = .ok " * @apiParam \x7bstring\x7d [a] \n */\n" :=
  expand_of_lines lines_lf (standsForWith_of_fieldSchema mentioned?_lf holdsFieldSchema_empty _)
    (standsForWith_of_none mentioned?_end _) rfl

theorem rendersUnbroken_lf :
    ∀ line ∈ Text.lines " * @apiParam \x7bschema\x7d s.json\n */\n".toList,
      RendersUnbroken (schemaDisk "") (.absolute []) false line := by
  rw [lines_lf]
  exact List.forall_mem_cons.mpr
    ⟨rendersUnbroken_of_fieldSchema mentioned?_lf holdsFieldSchema_empty (by decide),
      List.forall_mem_singleton.mpr (rendersUnbroken_of_none mentioned?_end)⟩

/-- **Expanding a text expands its tags.** If the lines of a text end in LF, CR LF or CR and no
field is rendered with a line break, then reading the tags of the expanded text gives what comes of
expanding the tags of the text one by one, each behind its prefix, up to gaps at the end of their
contents. -/
theorem tagLines_expand {text out : String}
    (h : (expand disk base strict text).result = .ok out)
    (hends : ∀ c ∈ text.toList, Text.isBreak c = true → c = '\n' ∨ c = '\r')
    (hplain : ∀ line ∈ Text.lines text.toList, RendersUnbroken disk base strict line) :
    ∃ ts, expandTagLines disk base strict (tagLines text.toList) = .ok ts ∧
      (tagLines out.toList).map TagLine.tidy = ts.map TagLine.tidy := by
  have hknown : ∀ line ∈ Text.lines text.toList, EndKnown disk base strict line := by
    intro line hline _ _
    have hmem : ∀ c ∈ line, c ∈ text.toList := by
      intro c hc
      rw [← Text.flatten_lines text.toList]
      exact List.mem_flatten.mpr ⟨line, hline, hc⟩
    exact Text.ending_eq_terminator_of_mem (Text.isLine_of_mem_lines _ line hline)
      fun c hc => hends c (hmem c hc)
  obtain ⟨ts, hts, htags⟩ := tagLines_of_expand h hknown hplain
  refine ⟨ts, hts, ?_⟩
  rw [htags, List.map_map]
  exact List.map_congr_left fun t _ => t.tidy_tidy

/-- The tag of a line that ends in a line feed, and what it stands for: the gap behind the name of
the field is not read again. -/
theorem tagLines_expand_lf : ∃ out ts,
    (expand (schemaDisk "") (.absolute []) false " * @apiParam \x7bschema\x7d s.json\n */\n").result
      = .ok out ∧
    expandTagLines (schemaDisk "") (.absolute []) false
        (tagLines " * @apiParam \x7bschema\x7d s.json\n */\n".toList) = .ok ts ∧
    tagLines out.toList = [⟨" * ", Tag.ofContent "apiParam" "\x7bstring\x7d [a]"⟩] ∧
    (tagLines out.toList).map TagLine.tidy = ts.map TagLine.tidy := by
  have hbreaks : " * @apiParam \x7bschema\x7d s.json\n */\n".toList.filter Text.isBreak
      = ['\n', '\n'] := rfl
  have hends : ∀ c ∈ " * @apiParam \x7bschema\x7d s.json\n */\n".toList,
      Text.isBreak c = true → c = '\n' ∨ c = '\r' := by
    intro c hc hbreak
    have hmem : c ∈ ['\n', '\n'] := hbreaks ▸ List.mem_filter.mpr ⟨hc, hbreak⟩
    exact Or.inl (by simpa using hmem)
  obtain ⟨ts, hts, htags⟩ := tagLines_expand expand_lf hends rendersUnbroken_lf
  exact ⟨_, ts, expand_lf, hts, rfl, htags⟩

end SchemaDoc.Source
