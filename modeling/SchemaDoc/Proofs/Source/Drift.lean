/-
SchemaDoc.Proofs.Source.Drift — a text that mentions a schema is changed by expanding it.

Whether a source text is up to date is decided by comparing it with its
expansion as a whole. The comparison never misses a mention, however the lines
shift: each line of an expanded text starts with the line of a field, or had no
mention before, so what it mentions has a path that ends in a brace
(`mentionsBraceEnded_of_expandLines`). The mentions of a text that can be
expanded were all found, and no file is read by such a path; so an expanded
text is none with a mention (`expand_drifts_iff`).

§1 lines put together, §2 expanded texts, §3 drift.
-/
import SchemaDoc.Command.Run
import SchemaDoc.Proofs.Source.Mentioned

namespace SchemaDoc.Source

/-! ## §1 Lines put together -/

/-- A text without breaks goes on into the first line behind it. -/
theorem mem_lines_unbroken_append {x s L : List Char} (hx : Text.Unbroken x) (hne : x ≠ [])
    (h : L ∈ Text.lines (x ++ s)) : (∃ y, L = x ++ y) ∨ L ∈ (Text.lines s).tail := by
  suffices hlines : ∃ y, Text.lines (x ++ s) = (x ++ y) :: (Text.lines s).tail by
    obtain ⟨y, hlines⟩ := hlines
    rw [hlines] at h
    exact (List.mem_cons.mp h).imp (fun h => ⟨y, h⟩) id
  clear h
  induction x with
  | nil => exact absurd rfl hne
  | cons c x ih =>
    obtain ⟨hc, hx⟩ := List.forall_mem_cons.mp hx
    cases x with
    | nil =>
      rw [List.singleton_append, Text.lines_cons hc]
      cases Text.lines s with
      | nil => exact ⟨[], rfl⟩
      | cons line more => exact ⟨line, rfl⟩
    | cons d x =>
      obtain ⟨y, hlines⟩ := ih hx (List.cons_ne_nil d x)
      rw [List.cons_append, Text.lines_cons hc, hlines]
      exact ⟨y, rfl⟩

/-- A line that ends in CR grows by an LF behind it; otherwise an ended line is found again. -/
theorem mem_lines_isLine_append {line s L : List Char} (hline : Text.IsLine line)
    (hend : (∃ c, line.getLast? = some c ∧ Text.isBreak c = true) ∨ s = [])
    (h : L ∈ Text.lines (line ++ s)) :
    L = line ∨ (line.getLast? = some '\r' ∧ L = line ++ ['\n']) ∨ L ∈ Text.lines s := by
  rcases hend with hend | rfl
  · by_cases hglue : line.getLast? = some '\r' ∧ s.head? = some '\n'
    · obtain ⟨hcr, hlf⟩ := hglue
      obtain ⟨s, rfl⟩ := List.head?_eq_some_iff.mp hlf
      have happart : Text.Apart (line ++ ['\n']) s :=
        ⟨⟨'\n', List.getLast?_concat, Text.isBreak_lf⟩, fun h => by simp at h⟩
      rw [List.append_cons, Text.lines_append (hline.grown hcr) happart] at h
      rw [Text.lines_lf]
      rcases List.mem_cons.mp h with rfl | h
      · exact Or.inr (Or.inl ⟨hcr, rfl⟩)
      · exact Or.inr (Or.inr (List.mem_cons_of_mem _ h))
    · rw [Text.lines_append hline ⟨hend, hglue⟩] at h
      exact (List.mem_cons.mp h).imp id Or.inr
  · rw [List.append_nil, Text.lines_of_isLine hline] at h
    exact Or.inl (List.mem_singleton.mp h)

/-- What is taken for the end of a line starts no line, apart from the one that it ends. -/
theorem tail_lines_ending (line s : List Char) :
    (Text.lines ((Text.Line.ofList line).ending ++ s)).tail ⊆ Text.lines s := by
  unfold Text.Line.ofList
  split
  · exact List.Subset.refl _
  · rw [List.singleton_append, Text.lines_lf]
    exact List.Subset.refl _
  · rw [List.singleton_append]
    by_cases hlf : s.head? = some '\n'
    · obtain ⟨s, rfl⟩ := List.head?_eq_some_iff.mp hlf
      rw [Text.lines_lf]
      exact List.subset_cons_self ..
    · rw [Text.lines_break Text.isBreak_cr fun h => hlf h.2]
      exact List.Subset.refl _
  · exact (List.tail_sublist _).subset

/-- The lines of a mention in front of a text: each starts with the line of a field, or stood in the
text before. -/
theorem mem_lines_endedBy (line s : List Char) {L : List Char} : ∀ {bodies : List (List Char)},
    (∀ b ∈ bodies, Text.Unbroken b ∧ b ≠ []) →
    L ∈ Text.lines ((endedBy (Text.Line.ofList line).ending bodies).flatten ++ s) →
    (∃ b ∈ bodies, ∃ y, L = b ++ y) ∨ L ∈ Text.lines s
  | [], _, h => Or.inr h
  | [b], hb, h => by
    obtain ⟨hplain, hne⟩ := hb b (List.mem_singleton_self b)
    rw [endedBy, List.flatten_singleton, List.append_assoc] at h
    rcases mem_lines_unbroken_append hplain hne h with ⟨y, rfl⟩ | h
    · exact Or.inl ⟨b, List.mem_singleton_self b, y, rfl⟩
    · exact Or.inr (tail_lines_ending line s h)
  | b :: next :: rest, hb, h => by
    obtain ⟨⟨hplain, hne⟩, hrest⟩ := List.forall_mem_cons.mp hb
    have hend : ∀ s, (Text.lines ((if (Text.Line.ofList line).ending.isEmpty then ['\n']
        else (Text.Line.ofList line).ending) ++ s)).tail ⊆ Text.lines s := by
      intro s
      split
      · exact tail_lines_ending ['\n'] s
      · exact tail_lines_ending line s
    rw [endedBy_cons_cons, List.flatten_cons, List.append_assoc, List.append_assoc] at h
    rcases mem_lines_unbroken_append hplain hne h with ⟨y, rfl⟩ | h
    · exact Or.inl ⟨b, List.mem_cons_self .., y, rfl⟩
    · rcases mem_lines_endedBy line s hrest (hend _ h) with ⟨b', hb', h⟩ | h
      · exact Or.inl ⟨b', List.mem_cons_of_mem _ hb', h⟩
      · exact Or.inr h

/-! ## §2 Expanded texts -/

/-- What a line mentions, if anything, has a path that ends in a brace. -/
def MentionsBraceEnded (line : List Char) : Prop :=
  ∀ t m, mentioned? line = some (t, m) → BraceEnded m.path

/-- The lines that the fields of a mentioned schema are rendered as, without their group, have no
line break inside. -/
def RendersUnbroken (disk : Disk) (base : Path) (strict : Bool) (line : List Char) : Prop :=
  ∀ t m schema rendered, mentioned? line = some (t, m) →
    (Resolve.file disk base strict m.path).result = .ok schema →
    Fields.linesOf schema Descriptor.defaultPad = .ok rendered →
    ∀ r ∈ rendered, Text.Unbroken r.toList

/-- An LF behind a CR is part of the end of the line. -/
theorem mentioned?_append_lf {line : List Char} (h : line.getLast? = some '\r') :
    mentioned? (line ++ ['\n']) = mentioned? line := by
  obtain ⟨u, rfl⟩ := List.getLast?_eq_some_iff.mp h
  have hbody : (Text.Line.ofList (u ++ ['\r'] ++ ['\n'])).body
      = (Text.Line.ofList (u ++ ['\r'])).body := by
    simp [Text.Line.ofList]
  rw [mentioned?, mentioned?, hbody]

variable {disk : Disk} {base : Path} {strict : Bool}

/-- A condition that the line of each field of a mention meets, whatever follows it. -/
def FieldsMeet (disk : Disk) (base : Path) (strict : Bool) (P : List Char → Prop)
    (line : List Char) : Prop :=
  ∀ t m schema rendered, mentioned? line = some (t, m) →
    (Resolve.file disk base strict m.path).result = .ok schema →
    Fields.linesOf schema Descriptor.defaultPad = .ok rendered →
    ∀ r ∈ rendered, Text.Unbroken (fieldLine t (Tag.grouped m.group r)) →
      ∀ y, P (fieldLine t (Tag.grouped m.group r) ++ y)

/-- What stands for a line, in front of a text whose lines are fine. -/
theorem forall_lines_append {P : List Char → Prop} {line s : List Char} {xs : List (List Char)}
    (hnone : ∀ L, mentioned? L = none → P L) (hline : Text.IsLine line)
    (hend : (∃ c, line.getLast? = some c ∧ Text.isBreak c = true) ∨ s = [])
    (hplain : RendersUnbroken disk base strict line) (hfields : FieldsMeet disk base strict P line)
    (hxs : standsForWith disk base strict (Text.Line.ofList line).ending line = .ok xs)
    (hs : ∀ L ∈ Text.lines s, P L) : ∀ L ∈ Text.lines (xs.flatten ++ s), P L := by
  intro L hL
  unfold standsForWith at hxs
  split at hxs
  · rename_i hmentions
    cases hxs
    rw [List.flatten_singleton] at hL
    rcases mem_lines_isLine_append hline hend hL with rfl | ⟨hcr, rfl⟩ | hL
    · exact hnone L hmentions
    · exact hnone _ ((mentioned?_append_lf hcr).trans hmentions)
    · exact hs L hL
  · rename_i t m hm
    obtain ⟨lines, hd, h⟩ := bind_eq_ok.mp hxs
    cases h
    rw [Tag.describe_result] at hd
    obtain ⟨schema, hschema, hd⟩ := bind_eq_ok.mp hd
    obtain ⟨rendered, hrendered, hd⟩ := bind_eq_ok.mp hd
    cases hd
    have hbody : ∀ b ∈ (rendered.map (Tag.grouped m.group)).map (fieldLine t), ∃ r ∈ rendered,
        b = fieldLine t (Tag.grouped m.group r) ∧ Text.Unbroken b := by
      intro b hb
      obtain ⟨_, hg, rfl⟩ := List.mem_map.mp hb
      obtain ⟨r, hr, rfl⟩ := List.mem_map.mp hg
      exact ⟨r, hr, rfl, unbroken_fieldLine_of_mentioned? hline hm
        (hplain t m schema rendered hm hschema hrendered r hr)⟩
    refine (mem_lines_endedBy line s (fun b hb => ?_) hL).elim ?_ (hs L)
    · obtain ⟨r, -, rfl, hunbroken⟩ := hbody b hb
      exact ⟨hunbroken, by simp [fieldLine]⟩
    · rintro ⟨b, hb, y, rfl⟩
      obtain ⟨r, hr, rfl, hunbroken⟩ := hbody b hb
      exact hfields t m schema rendered hm hschema hrendered r hr hunbroken y

/-- A condition on lines that hold no mention, and on the lines of fields with whatever follows
them, holds of all lines of an expanded text: no other lines come about, however they shift. -/
theorem forall_lines_of_expandLines {P : List Char → Prop}
    (hnone : ∀ L, mentioned? L = none → P L) : ∀ {ls : List (List Char)} {out : List Char},
    (∀ line ∈ ls, Text.IsLine line) → ls.IsChain Text.Apart →
    (∀ line ∈ ls, RendersUnbroken disk base strict line) →
    (∀ line ∈ ls, FieldsMeet disk base strict P line) →
    (expandLines disk base strict ls).result = .ok out → ∀ L ∈ Text.lines out, P L
  | [], out, _, _, _, _, h => by
    cases h
    exact fun _ hL => nomatch hL
  | line :: rest, out, hlines, hchain, hplain, hfields, h => by
    obtain ⟨here, others, hhere, hothers, rfl⟩ := expandLines_cons_eq_ok.mp h
    rw [expandLine_result] at hhere
    obtain ⟨xs, hxs, rfl⟩ := map_eq_ok.mp hhere
    obtain ⟨hline, hlines⟩ := List.forall_mem_cons.mp hlines
    obtain ⟨hfirst, hplain⟩ := List.forall_mem_cons.mp hplain
    obtain ⟨hmeet, hfields⟩ := List.forall_mem_cons.mp hfields
    obtain ⟨hapart, hchain⟩ := List.isChain_cons.mp hchain
    refine forall_lines_append hnone hline ?_ hfirst hmeet hxs
      (forall_lines_of_expandLines hnone hlines hchain hplain hfields hothers)
    cases rest with
    | nil =>
      cases hothers
      exact Or.inr rfl
    | cons next rest => exact Or.inl (hapart next rfl).1

/-- The lines of an expanded text mention nothing, or by a path that ends in a brace. -/
theorem mentionsBraceEnded_of_expandLines {ls : List (List Char)} {out : List Char}
    (hlines : ∀ line ∈ ls, Text.IsLine line) (hchain : ls.IsChain Text.Apart)
    (hplain : ∀ line ∈ ls, RendersUnbroken disk base strict line)
    (h : (expandLines disk base strict ls).result = .ok out) :
    ∀ L ∈ Text.lines out, MentionsBraceEnded L := by
  refine forall_lines_of_expandLines (fun L hnone t m hm => ?_) hlines hchain hplain
    (fun line _ t m schema rendered hm _ hrendered r hr hunbroken y t' m' hm' => ?_) h
  · rw [hnone] at hm
    cases hm
  · obtain ⟨hrest, hfirst⟩ := grouped_form hrendered r hr
    obtain ⟨hat, hname⟩ := describing_of_mentioned? hm
    exact braceEnded_of_fieldLine hat hname hrest hfirst hunbroken hm'

/-! ## §3 Drift -/

/-- A text has a line that mentions a schema. -/
def Mentions (text : String) : Prop := ∃ line ∈ Text.lines text.toList, mentioned? line ≠ none

/-- Without a mention nothing becomes of the lines. -/
theorem expandLines_of_not_mentioned : ∀ {ls : List (List Char)},
    (∀ line ∈ ls, mentioned? line = none) →
    (expandLines disk base strict ls).result = .ok ls.flatten
  | [], _ => rfl
  | line :: rest, h => by
    obtain ⟨hline, hrest⟩ := List.forall_mem_cons.mp h
    refine expandLines_cons_eq_ok.mpr ⟨line, _, ?_, expandLines_of_not_mentioned hrest, rfl⟩
    rw [expandLine_result, standsForWith, hline]
    simp [Except.map]

/-- A text without mentions stays as it is. -/
theorem expand_of_not_mentions {text : String} (h : ¬Mentions text) :
    (expand disk base strict text).result = .ok text := by
  have hnone : ∀ line ∈ Text.lines text.toList, mentioned? line = none := by
    intro line hline
    by_contra hm
    exact h ⟨line, hline, hm⟩
  rw [expand_eq_ok, expandLines_of_not_mentioned hnone, Text.flatten_lines]

/-- The mentions of a text that is expanded were all found. -/
theorem describe_of_expandLines {t : TagLine} {m : Mention} : ∀ {ls : List (List Char)}
    {out : List Char} {line : List Char}, (expandLines disk base strict ls).result = .ok out →
    line ∈ ls → mentioned? line = some (t, m) →
    ∃ schema, (Resolve.file disk base strict m.path).result = .ok schema
  | first :: rest, out, line, h, hmem, hm => by
    obtain ⟨here, others, hhere, hothers, -⟩ := expandLines_cons_eq_ok.mp h
    rcases List.mem_cons.mp hmem with rfl | hmem
    · rw [expandLine_result] at hhere
      obtain ⟨xs, hxs, -⟩ := map_eq_ok.mp hhere
      rw [standsForWith, hm] at hxs
      obtain ⟨lines, hd, -⟩ := bind_eq_ok.mp hxs
      rw [Tag.describe_result] at hd
      obtain ⟨schema, hschema, -⟩ := bind_eq_ok.mp hd
      exact ⟨schema, hschema⟩
    · exact describe_of_expandLines hothers hmem hm

theorem ne_iff_mentions {text out : String}
    (h : (expand disk base strict text).result = .ok out)
    (hplain : ∀ line ∈ Text.lines text.toList, RendersUnbroken disk base strict line) :
    out ≠ text ↔ Mentions text := by
  have hchars := expand_eq_ok.mp h
  constructor
  · intro hne
    by_contra hnone
    exact hne (Except.ok.inj (h.symm.trans (expand_of_not_mentions hnone)))
  · rintro ⟨line, hline, hm⟩ rfl
    obtain ⟨⟨t, m⟩, hm⟩ := Option.ne_none_iff_exists'.mp hm
    obtain ⟨schema, hschema⟩ := describe_of_expandLines hchars hline hm
    refine not_braceEnded_of_file hschema ?_
    have hlines := mentionsBraceEnded_of_expandLines (Text.isLine_of_mem_lines _)
      (Text.isChain_lines _) hplain hchars
    exact hlines line hline t m hm

/-- A source file that can be read is there. -/
theorem isFile_of_read {path : Path} {text : String} (h : read disk path = .ok text) :
    disk.isFile path = .ok true := by
  obtain ⟨bytes, hopen, -⟩ := bind_eq_ok.mp (orFail_eq_ok.mp h)
  unfold Disk.openFile at hopen
  simp only at hopen
  split at hopen
  · cases hopen
  · rename_i hfault hentry
    rw [Disk.isFile, Disk.bytes?, hfault, hentry]
    rfl
  · cases hopen
  · cases hopen
  · cases hopen
  · cases hopen

theorem expandFile_result {path : Path} {text out : String} (hread : read disk path = .ok text)
    (h : (expand disk base strict text).result = .ok out) :
    (expandFile disk base strict path).result = .ok ⟨out != text, out⟩ := by
  unfold expandFile
  rw [Logged.bind_result, Logged.lift_result, hread]
  simp only [Except.bind, Logged.bind_result, h]
  rfl

/-- Checking a file notes whether it changes, and nothing else. -/
theorem expandFile_check {c : Context} {course : Command.Course} {file : String} {e : Expanded}
    (hfile : course.disk.isFile (Path.ofString file) = .ok true)
    (h : (expandFile course.disk c.baseDirectory c.strict (Path.ofString file)).result = .ok e) :
    ∃ events, Command.expandFile c .check file course
      = ((course.tell events).note (Path.ofString file) e.changed, none) := by
  unfold Command.expandFile
  simp only [hfile, h]
  exact ⟨_, rfl⟩

/-- **Drift is noticed exactly.** If a source text can be expanded, and no field is rendered with a
line break, then it differs from its expansion exactly if a line of it mentions a schema. A file
with the text is then reported as changed, and counted when files are only checked. -/
theorem expand_drifts_iff {text out : String}
    (h : (expand disk base strict text).result = .ok out)
    (hplain : ∀ line ∈ Text.lines text.toList, RendersUnbroken disk base strict line) :
    (out ≠ text ↔ Mentions text) ∧
    (∀ path, read disk path = .ok text → ∃ e, (expandFile disk base strict path).result = .ok e ∧
      (e.changed = true ↔ Mentions text)) ∧
    ∀ (c : Context) (course : Command.Course) (file : String), c.baseDirectory = base →
      c.strict = strict → course.disk = disk → read disk (Path.ofString file) = .ok text →
      ∃ checked, Command.expandFile c .check file course = (checked, none) ∧
        (Mentions text → checked.drift = course.drift ++ [(Path.ofString file).toString]) ∧
        (¬Mentions text → checked.drift = course.drift) := by
  have hiff := ne_iff_mentions h hplain
  have hchanged : (out != text) = true ↔ Mentions text := by rw [bne_iff_ne, hiff]
  refine ⟨hiff, fun path hread => ⟨_, expandFile_result hread h, hchanged⟩, ?_⟩
  rintro c course file rfl rfl rfl hread
  obtain ⟨events, hcheck⟩ := expandFile_check (isFile_of_read hread) (expandFile_result hread h)
  refine ⟨_, hcheck, fun hm => ?_, fun hm => ?_⟩
  · rw [Command.Course.note, hchanged.mpr hm]
    rfl
  · rw [Command.Course.note, Bool.eq_false_iff.mpr fun hc => hm (hchanged.mp hc)]
    rfl

theorem rendersUnbroken_of_none {line : List Char} (h : mentioned? line = none) :
    RendersUnbroken disk base strict line := by
  intro t m _ _ hm
  rw [h] at hm
  cases hm

theorem rendersUnbroken_of_fieldSchema {line : List Char} {t : TagLine} {description path : String}
    (hm : mentioned? line = some (t, ⟨none, path⟩))
    (h : holdsFieldSchema description (Resolve.file disk base strict path).result = true)
    (hplain : Text.Unbroken ("\x7bstring\x7d [a] " ++ description).toList) :
    RendersUnbroken disk base strict line := by
  intro t' m schema rendered hm' hschema hrendered r hr
  cases Option.some.inj (hm.symm.trans hm')
  cases Except.ok.inj ((eq_of_holdsFieldSchema h).symm.trans hschema)
  cases Except.ok.inj ((linesOf_fieldSchema description).symm.trans hrendered)
  rw [List.mem_singleton.mp hr]
  exact hplain

/-- A text with one mention: the lines stay as many, and drift is noticed. -/
theorem expand_drifts_lf : ∃ out, (expand (schemaDisk "") (.absolute []) false
      " * @apiParam \x7bschema\x7d s.json\n */\n").result = .ok out ∧
    out ≠ " * @apiParam \x7bschema\x7d s.json\n */\n" := by
  have hlines : Text.lines " * @apiParam \x7bschema\x7d s.json\n */\n".toList
      = [" * @apiParam \x7bschema\x7d s.json\n".toList, " */\n".toList] := by decide +kernel
  have hrun : (expand (schemaDisk "") (.absolute []) false
      " * @apiParam \x7bschema\x7d s.json\n */\n").result
      = .ok " * @apiParam \x7bstring\x7d [a] \n */\n" :=
    expand_of_lines hlines (standsForWith_of_fieldSchema mentioned?_lf holdsFieldSchema_empty _)
      (standsForWith_of_none mentioned?_end _) (by decide +kernel)
  have hplain : ∀ line ∈ Text.lines " * @apiParam \x7bschema\x7d s.json\n */\n".toList,
      RendersUnbroken (schemaDisk "") (.absolute []) false line := by
    rw [hlines]
    refine List.forall_mem_cons.mpr ⟨?_, List.forall_mem_singleton.mpr ?_⟩
    · exact rendersUnbroken_of_fieldSchema mentioned?_lf holdsFieldSchema_empty
        (by decide +kernel)
    · exact rendersUnbroken_of_none mentioned?_end
  have hmentions : Mentions " * @apiParam \x7bschema\x7d s.json\n */\n" := by
    refine ⟨" * @apiParam \x7bschema\x7d s.json\n".toList, ?_, ?_⟩
    · rw [hlines]
      exact List.mem_cons_self ..
    · rw [mentioned?_lf]
      nofun
  exact ⟨_, hrun, (expand_drifts_iff hrun hplain).1.mpr hmentions⟩

end SchemaDoc.Source
