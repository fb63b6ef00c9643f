/-
SchemaDoc.Proofs.Tag — a tag that mentions a schema is none of those it stands for.

What a schema's fields are rendered as starts with braces around the type of a
leaf, behind a group perhaps. The first opening brace of such a content and
the last closing one enclose that type, so they do not enclose the word that
announces a schema, whatever the group is.

§1 rendered lines, §2 tags.
-/
import SchemaDoc.Proofs.Fields
import SchemaDoc.Proofs.Text.Cut
import SchemaDoc.Tag

namespace SchemaDoc

/-! ## §1 Rendered lines -/

namespace Mention

/-- Braces around the type of a leaf do not enclose the word that announces a schema. -/
theorem ne_keyword_of_braced? {a rest word path : List Char} {t : String}
    (ht : Descriptor.StartsWithType t)
    (h : braced? (a ++ '\x7b' :: (t.toList ++ '\x7d' :: ' ' :: rest)) = some (word, path)) :
    word ≠ keyword := by
  obtain ⟨before, inner, hcut, hinner⟩ :=
    Text.exists_cutOnce_append '\x7b' a (t.toList ++ '\x7d' :: ' ' :: rest)
  obtain ⟨r, hr, hword⟩ : ∃ r, inner = r ++ '\x7d' :: ' ' :: rest ∧
      (r = t.toList ∨ '\x7b' ∈ r) := by
    rcases hinner with rfl | ⟨r, rfl⟩
    · exact ⟨_, rfl, Or.inl rfl⟩
    · exact ⟨r ++ '\x7b' :: t.toList, by simp, Or.inr (by simp)⟩
  have hbegin : r <+: word := by
    have hdrop : inner.dropLast = r ++ '\x7d' :: (' ' :: rest).dropLast := by
      rw [hr, List.dropLast_append_of_ne_nil (by simp)]
      rfl
    rw [braced?, hcut] at h
    simp only at h
    split at h
    · rename_i hlast
      rw [hdrop] at hlast
      cases h
      exact Text.prefix_of_cutLast? hlast
    · cases h
  rintro rfl
  rcases hword with rfl | hbrace
  · obtain ⟨l, hl, hlt⟩ := ht
    have hlk := hlt.trans hbegin
    have hnone : ∀ l ∈ Descriptor.leafTypes, ¬l.toList <+: keyword := by decide
    exact hnone l hl hlk
  · exact absurd (hbegin.subset hbrace) (by decide)

/-- So a rendered line mentions no schema, with its group or without. -/
theorem ofContent?_grouped {group : Option String} {line t : String} {rest : List Char}
    (hline : line.toList = '\x7b' :: t.toList ++ '\x7d' :: ' ' :: rest)
    (ht : Descriptor.StartsWithType t)
    (hbreak : '\n' ∉ (Tag.grouped group line).toList) :
    ofContent? (Tag.grouped group line) = none := by
  obtain ⟨a, ha⟩ : ∃ a, (Tag.grouped group line).toList
      = a ++ '\x7b' :: (t.toList ++ '\x7d' :: ' ' :: rest) := by
    unfold Tag.grouped
    split
    · rename_i g _
      refine ⟨("(" ++ g ++ ") ").toList, ?_⟩
      rw [String.toList_append, hline]
      simp
    · exact ⟨[], by simp [hline]⟩
  unfold ofContent?
  simp only [Text.cutAt_of_not_mem hbreak, List.findSome?_singleton]
  rw [ha]
  split
  · rename_i word path hb
    rw [if_neg (ne_keyword_of_braced? ht hb)]
  · rfl

end Mention

/-! ## §2 Tags -/

namespace Tag

/-- The lines of a mention are the rendered lines of a schema, each with the group. -/
theorem describe_result (disk : Disk) (base : Path) (strict : Bool) (m : Mention) :
    (describe disk base strict m).result = (do
      let schema ← (Resolve.file disk base strict m.path).result
      let rendered ← Fields.linesOf schema Descriptor.defaultPad
      return rendered.map (grouped m.group)) := by
  unfold describe
  rw [Logged.bind_result]
  refine congrArg _ (funext fun schema => ?_)
  rw [Logged.bind_result]
  rfl

theorem describe_eq_ok {disk : Disk} {base : Path} {strict : Bool} {m : Mention}
    {lines : List String} (h : (describe disk base strict m).result = .ok lines) :
    ∃ schema rendered, Fields.linesOf schema Descriptor.defaultPad = .ok rendered ∧
      lines = rendered.map (grouped m.group) := by
  rw [describe_result] at h
  obtain ⟨schema, -, h⟩ := bind_eq_ok.mp h
  obtain ⟨rendered, hr, h⟩ := bind_eq_ok.mp h
  cases h
  exact ⟨schema, rendered, hr, rfl⟩

/-- A tag in a line that mentions a schema is not among those it stands for. -/
theorem map_withContent_ne {disk : Disk} {base : Path} {strict : Bool} {t : Tag} {m : Mention}
    {lines : List String} (hm : t.mention? = some m)
    (hd : (describe disk base strict m).result = .ok lines) (hbreak : '\n' ∉ t.content.toList) :
    lines.map t.withContent ≠ [t] := by
  intro he
  obtain ⟨c, rfl, hc⟩ : ∃ c, lines = [c] ∧ t.withContent c = t := by
    simpa [List.map_eq_singleton_iff] using he
  have hcontent : c = t.content := congrArg content hc
  obtain ⟨schema, rendered, hr, hlines⟩ := describe_eq_ok hd
  have hmem : c ∈ rendered.map (grouped m.group) := hlines ▸ List.mem_singleton_self c
  obtain ⟨line, hline, rfl⟩ := List.mem_map.mp hmem
  obtain ⟨type, rest, hform, htype⟩ := Fields.exists_of_mem_linesOf hr line hline
  rw [← hcontent] at hbreak
  have hnone := Mention.ofContent?_grouped hform htype hbreak
  unfold mention? at hm
  rw [← hcontent, hnone] at hm
  split at hm <;> cases hm

end Tag

end SchemaDoc
