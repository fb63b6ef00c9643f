/-
SchemaDoc.Proofs.Source.Again — expanding an expanded text.

A text without mentions stays as it is. An expanded text has none, but for one
case: the group of a mention goes on over the braced word that announces the
schema, and a field of the schema is rendered as a type in braces alone. The
content of such a field announces a schema again (`ofContent?_of_revives`), by a path
that ends in a brace, so that no later disk has it. All other fields, whatever
is glued to their lines, announce none; so expanding twice is expanding once,
exactly if no mention revives in this way (`expand_again_iff`).

§1 groups and fields, §2 contents of fields, §3 mentions that revive, §4 expanding
again, §5 a mention that revives.
-/
import SchemaDoc.Proofs.Mention
import SchemaDoc.Proofs.Source.TagExpansion

namespace SchemaDoc

/-! ## §1 Groups and fields -/

/-- A group goes on over the word that announces a schema, with the braces around it. -/
def Mention.SpansKeyword (group : String) : Prop :=
  ∃ a b, group.toList = a ++ '\x7b' :: (keyword ++ '\x7d' :: b) ∧ '\x7b' ∉ a ∧ '\x7d' ∉ b

/-- A rendered line holds a type in braces, and but gaps behind it: the field is required, and has
neither a name nor a default nor a description. -/
def Descriptor.IsBare (line : String) : Prop :=
  ∃ t gap, line.toList = '\x7b' :: (t ++ '\x7d' :: gap) ∧ '\x7d' ∉ t ∧
    ∀ c ∈ gap, Text.isGap c = true

namespace Mention

/-- What is read from a text and the braces around a type behind it, up to the last but one brace:
the word that announces a schema only if the text holds it in braces, and none closes later. -/
theorem spans_of_braced? {a path : List Char} {t : String} (ht : Descriptor.StartsWithType t)
    (h : braced? (a ++ '\x7b' :: (t.toList ++ ['\x7d'])) = some (keyword, path)) :
    '\x7d' ∉ t.toList ∧
      ∃ b d, a = b ++ '\x7b' :: (keyword ++ '\x7d' :: d) ∧ '\x7b' ∉ b ∧ '\x7d' ∉ d := by
  by_cases hbrace : '\x7b' ∈ a
  · obtain ⟨b, a, rfl, hb⟩ := List.eq_append_cons_of_mem hbrace
    have hsplit : (b ++ '\x7b' :: a) ++ '\x7b' :: (t.toList ++ ['\x7d'])
        = b ++ '\x7b' :: ((a ++ '\x7b' :: t.toList) ++ ['\x7d']) := by simp
    rw [hsplit] at h
    obtain ⟨behind, -, hinner, hbehind⟩ := eq_of_braced?_append hb h
    rcases List.append_eq_append_iff.mp hinner with ⟨u, hkeyword, hrest⟩ | ⟨u, ha, hrest⟩
    · -- The word has no brace, so it does not reach the type.
      cases u with
      | nil => cases hrest
      | cons c u =>
        obtain rfl : '\x7b' = c := (List.cons.inj hrest).1
        have hmem : '\x7b' ∈ keyword := hkeyword ▸ List.mem_append_right a (List.mem_cons_self ..)
        exact absurd hmem (by decide)
    · cases u with
      | nil => cases hrest
      | cons c d =>
        obtain ⟨rfl, hd⟩ := List.cons.inj hrest
        rw [hd, List.append_eq, List.mem_append, List.mem_cons, not_or, not_or] at hbehind
        exact ⟨hbehind.2.2, b, d, by rw [ha], hb, hbehind.1⟩
  · obtain ⟨behind, -, hlabel, -⟩ := eq_of_braced?_append hbrace h
    obtain ⟨l, hl, hprefix⟩ := ht
    have hkeyword : keyword <+: t.toList := hlabel ▸ List.prefix_append ..
    have hnone : ∀ l ∈ Descriptor.leafTypes, ¬l.toList <+: keyword ∧ ¬keyword <+: l.toList := by
      decide
    rcases List.prefix_or_prefix_of_prefix hprefix hkeyword with h | h
    · exact absurd h (hnone l hl).1
    · exact absurd h (hnone l hl).2

/-- What is in front of a line with a group holds the word in braces if the group does. -/
theorem spansKeyword_of_eq {g : String} {b d : List Char} (hb : '\x7b' ∉ b) (hd : '\x7d' ∉ d)
    (h : '(' :: (g.toList ++ [')', ' ']) = b ++ '\x7b' :: (keyword ++ '\x7d' :: d)) :
    SpansKeyword g := by
  cases b with
  | nil => cases h
  | cons c b =>
    have hb' : '\x7b' ∉ b := fun hm => hb (List.mem_cons_of_mem c hm)
    have hrest : g.toList ++ [')', ' '] = (b ++ '\x7b' :: (keyword ++ ['\x7d'])) ++ d := by
      rw [(List.cons.inj h).2]
      simp
    rcases List.append_eq_append_iff.mp hrest with ⟨u, hword, hgap⟩ | ⟨u, hg, rfl⟩
    · -- The word ends within the group: a brace is none of the characters behind it.
      have hu : u = [] := by
        cases u with
        | nil => rfl
        | cons e u =>
          have hclose : (e :: u).getLast? = some '\x7d' := by
            have := congrArg List.getLast? hword
            rw [List.getLast?_append_of_ne_nil _ (List.cons_ne_nil e u)] at this
            rw [← this, List.getLast?_append, List.getLast?_cons, List.getLast?_concat]
            rfl
          have hmem : '\x7d' ∈ [')', ' '] := hgap ▸ List.mem_append_left d
            (List.mem_of_getLast? hclose)
          exact absurd hmem (by decide)
      subst hu
      rw [List.append_nil] at hword
      exact ⟨b, [], by rw [← hword], hb', by simp⟩
    · exact ⟨b, u, by rw [hg]; simp, hb', fun hm => hd (List.mem_append_left _ hm)⟩

end Mention

/-- A mention whose fields may announce a schema again: the group of the mention goes on over the
word, and the field is a type alone. -/
def Mention.Revives (group : Option String) (rendered : String) : Prop :=
  ∃ g, group = some g ∧ Mention.SpansKeyword g ∧ Descriptor.IsBare rendered

namespace Source

/-! ## §2 Contents of fields -/

/-- A line with its group stands behind the group in brackets, or there is no group. -/
theorem grouped_cases (group : Option String) (r : String) :
    (∃ g, group = some g ∧
      (Tag.grouped group r).toList = '(' :: (g.toList ++ [')', ' ']) ++ r.toList) ∨
    (∀ g, group = some g → g = "") ∧ Tag.grouped group r = r := by
  unfold Tag.grouped
  cases hg : Context.filled? group with
  | some g => exact Or.inl ⟨g, (Option.filter_eq_some_iff.mp hg).1, by simp⟩
  | none =>
    refine Or.inr ⟨fun g hgroup => ?_, rfl⟩
    rw [hgroup] at hg
    simpa [Context.filled?] using hg

/-- **The content of a field announces a schema** only in the one case, whatever follows it. -/
theorem revives_of_ofContent? {schema pad : Value} {rendered : List String}
    {group : Option String} {r : String} {m : Mention} {y : List Char}
    (hrendered : Fields.linesOf schema pad = .ok rendered) (hr : r ∈ rendered)
    (hbreak : '\n' ∉ withoutGap ((Tag.grouped group r).toList ++ y))
    (h : Mention.ofContent? (String.ofList (withoutGap ((Tag.grouped group r).toList ++ y)))
      = some m) : Mention.Revives group r := by
  obtain ⟨t, rest, hform, ht⟩ := Fields.exists_of_mem_linesOf hrendered r hr
  have hsplit : ∀ a : List Char, a ++ r.toList ++ y
      = a ++ '\x7b' :: (t.toList ++ '\x7d' :: ' ' :: (rest ++ y)) := by
    intro a
    rw [hform]
    simp
  rcases grouped_cases group r with ⟨g, hgroup, hlist⟩ | ⟨-, halone⟩
  · rw [hlist, hsplit] at h hbreak
    obtain ⟨hgap, path, -, hbraced⟩ := closed_of_ofContent? ht hbreak h
    obtain ⟨htype, b, d, ha, hb, hd⟩ := Mention.spans_of_braced? ht hbraced
    refine ⟨g, hgroup, Mention.spansKeyword_of_eq hb hd ha, t.toList, ' ' :: rest, hform, htype, ?_⟩
    exact fun c hc => isGap_of_withoutGap hgap c (List.mem_append_left y hc)
  · rw [halone, ← List.nil_append r.toList, hsplit] at h hbreak
    obtain ⟨-, path, -, hbraced⟩ := closed_of_ofContent? ht hbreak h
    obtain ⟨-, b, d, ha, -⟩ := Mention.spans_of_braced? ht hbraced
    cases b <;> cases ha

/-- And in that case it does. -/
theorem ofContent?_of_revives {group : Option String} {r : String}
    (h : Mention.Revives group r) (hbreak : '\n' ∉ (Tag.grouped group r).toList) :
    Mention.ofContent? (String.ofList (withoutGap (Tag.grouped group r).toList)) ≠ none := by
  obtain ⟨g, rfl, ⟨b, d, hg, hb, hd⟩, t, gap, hform, ht, hgap⟩ := h
  have hlist : (Tag.grouped (some g) r).toList = '(' :: (g.toList ++ [')', ' ']) ++ r.toList := by
    rcases grouped_cases (some g) r with ⟨_, ⟨⟩, hlist⟩ | ⟨hempty, -⟩
    · exact hlist
    · rw [hempty g rfl] at hg
      cases b <;> cases hg
  -- The gaps behind the type go, so that its closing brace is the last character.
  have hkept : withoutGap (Tag.grouped (some g) r).toList
      = ('(' :: b) ++ '\x7b' :: ((Mention.keyword ++ '\x7d' :: (d ++ ')' :: ' ' :: '\x7b' :: t))
        ++ ['\x7d']) := by
    have hsplit : (Tag.grouped (some g) r).toList
        = (('(' :: b) ++ '\x7b' :: (Mention.keyword ++ '\x7d' :: (d ++ ')' :: ' ' :: '\x7b' :: t))
          ++ ['\x7d']) ++ gap := by
      rw [hlist, hg, hform]
      simp
    rw [hsplit, withoutGap_append, withoutGap_of_isGap hgap]
    simp [withoutGap, Text.isGap]
  have hinner : '\x7d' ∉ d ++ ')' :: ' ' :: '\x7b' :: t := by
    simp [hd, ht]
  have hbrace : '\x7b' ∉ '(' :: b := by
    simp [hb]
  have hline : '\n' ∉ withoutGap (Tag.grouped (some g) r).toList := fun hm =>
    hbreak (mem_of_mem_withoutGap hm)
  unfold Mention.ofContent?
  simp only [String.toList_ofList, Text.cutAt_of_not_mem hline, List.findSome?_singleton]
  rw [hkept, Mention.braced?_append hbrace, Text.cutLast?_append hinner]
  show (if Mention.keyword = Mention.keyword then some _ else none) ≠ none
  rw [if_pos rfl]
  exact Option.some_ne_none _

/-- What is mentioned by a tag of fields that is read from a text. -/
theorem mention?_tidy_withContent {t : TagLine} (before content : String)
    (h : Tag.describing.contains t.tag.spelling = true) :
    (TagLine.tidy ⟨before, t.tag.withContent content⟩).tag.mention?
      = Mention.ofContent? (String.ofList (withoutGap content.toList)) :=
  if_pos h

/-! ## §3 Mentions that revive -/

/-- A line with a mention of which a field announces a schema again. -/
def Revives (disk : Disk) (base : Path) (strict : Bool) (line : List Char) : Prop :=
  ∃ t m schema rendered r, mentioned? line = some (t, m) ∧
    (Resolve.file disk base strict m.path).result = .ok schema ∧
    Fields.linesOf schema Descriptor.defaultPad = .ok rendered ∧ r ∈ rendered ∧
    Mention.Revives m.group r

variable {disk : Disk} {base : Path} {strict : Bool}

/-- If none revives, the lines of an expanded text mention nothing. -/
theorem not_mentions_of_expand {text out : String}
    (h : (expand disk base strict text).result = .ok out)
    (hplain : ∀ line ∈ Text.lines text.toList, RendersUnbroken disk base strict line)
    (hnone : ∀ line ∈ Text.lines text.toList, ¬Revives disk base strict line) : ¬Mentions out := by
  have hfields : ∀ line ∈ Text.lines text.toList,
      FieldsMeet disk base strict (mentioned? · = none) line := by
    intro line hline t m schema rendered hm hschema hrendered r hr hunbroken y
    by_contra hmention
    obtain ⟨⟨t', m'⟩, hm'⟩ := Option.ne_none_iff_exists'.mp hmention
    obtain ⟨hat, hname⟩ := describing_of_mentioned? hm
    obtain ⟨-, hfirst⟩ := grouped_form hrendered r hr
    obtain ⟨y', hbreak, hcontent⟩ := ofContent?_of_fieldLine hat hname hfirst hunbroken hm'
    exact hnone line hline ⟨t, m, schema, rendered, r, hm, hschema, hrendered, hr,
      revives_of_ofContent? hrendered hr hbreak hcontent⟩
  have hlines := forall_lines_of_expandLines (fun _ h => h) (Text.isLine_of_mem_lines _)
    (Text.isChain_lines _) hplain hfields (expand_eq_ok.mp h)
  rintro ⟨line, hline, hm⟩
  exact hm (hlines line hline)

/-- If one revives, and the ends of the lines are known, a line of the expanded text mentions a
schema. -/
theorem mentions_of_revives {text out : String}
    (h : (expand disk base strict text).result = .ok out)
    (hknown : ∀ line ∈ Text.lines text.toList, EndKnown disk base strict line)
    (hplain : ∀ line ∈ Text.lines text.toList, RendersUnbroken disk base strict line)
    {line : List Char} (hline : line ∈ Text.lines text.toList)
    (hrevives : Revives disk base strict line) : Mentions out := by
  obtain ⟨t, m, schema, rendered, r, hm, hschema, hrendered, hr, hfield⟩ := hrevives
  obtain ⟨ts, hts, htags⟩ := tagLines_of_expand h hknown hplain
  obtain ⟨htag, hmention⟩ := mentioned?_eq_some_iff.mp hm
  have hd : (Tag.describe disk base strict m).result
      = .ok (rendered.map (Tag.grouped m.group)) := by
    rw [Tag.describe_result, hschema, ok_bind, hrendered]
    rfl
  have hexpand : (t.tag.expand disk base strict).result = _ := expand_of_mention? hmention
  rw [hd] at hexpand
  have hcontent : t.tag.withContent (Tag.grouped m.group r)
      ∈ (rendered.map (Tag.grouped m.group)).map t.tag.withContent :=
    List.mem_map.mpr ⟨_, List.mem_map.mpr ⟨r, hr, rfl⟩, rfl⟩
  have hmem := mem_expandTagLines hexpand hcontent hts
    (List.mem_filterMap.mpr ⟨line, hline, htag⟩)
  have htidy : TagLine.tidy ⟨t.before, t.tag.withContent (Tag.grouped m.group r)⟩
      ∈ tagLines out.toList := htags ▸ List.mem_map.mpr ⟨_, hmem, rfl⟩
  obtain ⟨L, hL, hread⟩ := List.mem_filterMap.mp htidy
  refine ⟨L, hL, fun hnone => ?_⟩
  have hfieldLine := unbroken_fieldLine_of_mentioned? (Text.isLine_of_mem_lines _ line hline) hm
    (hplain line hline t m schema rendered hm hschema hrendered r hr)
  have hbreak : '\n' ∉ (Tag.grouped m.group r).toList := by
    intro hlf
    have := hfieldLine '\n' (by simp [fieldLine, hlf])
    rw [Text.isBreak_lf] at this
    cases this
  have hnothing := mentioned?_eq_none_iff.mp hnone _ hread
  rw [mention?_tidy_withContent _ _ (describing_of_mentioned? hm).2] at hnothing
  exact ofContent?_of_revives hfield hbreak hnothing

/-! ## §4 Expanding again -/

/-- What an expanded text mentions is on no disk. -/
theorem expand_fails_of_mentions {text out : String}
    (h : (expand disk base strict text).result = .ok out)
    (hplain : ∀ line ∈ Text.lines text.toList, RendersUnbroken disk base strict line)
    (hmentions : Mentions out) (disk' : Disk) (base' : Path) (strict' : Bool) :
    ∃ f, (expand disk' base' strict' out).result = .error f := by
  have hlines := mentionsBraceEnded_of_expandLines (Text.isLine_of_mem_lines _)
    (Text.isChain_lines _) hplain (expand_eq_ok.mp h)
  cases hagain : (expand disk' base' strict' out).result with
  | error f => exact ⟨f, rfl⟩
  | ok again =>
    obtain ⟨line, hline, hm⟩ := hmentions
    obtain ⟨⟨t, m⟩, hm⟩ := Option.ne_none_iff_exists'.mp hm
    obtain ⟨schema, hschema⟩ := describe_of_expandLines (expand_eq_ok.mp hagain) hline hm
    exact absurd (hlines line hline t m hm) (not_braceEnded_of_file hschema)

/-- **Expanding twice is expanding once**, if no mention of the text revives: then no line of the
expanded text mentions a schema, and whatever is on the disk by then, expanding it changes nothing.
If the ends of the lines are known, a mention that revives leaves one; and an expanded text with a
mention can not be expanded at all. -/
theorem expand_again_iff {text out : String}
    (h : (expand disk base strict text).result = .ok out)
    (hplain : ∀ line ∈ Text.lines text.toList, RendersUnbroken disk base strict line) :
    ((∀ line ∈ Text.lines text.toList, ¬Revives disk base strict line) → ¬Mentions out) ∧
    ((∀ line ∈ Text.lines text.toList, EndKnown disk base strict line) → ¬Mentions out →
      ∀ line ∈ Text.lines text.toList, ¬Revives disk base strict line) ∧
    (¬Mentions out → ∀ disk' base' strict', (expand disk' base' strict' out).result = .ok out) ∧
    (Mentions out → ∀ disk' base' strict',
      ∃ f, (expand disk' base' strict' out).result = .error f) :=
  ⟨not_mentions_of_expand h hplain,
    fun hknown hnone _ hline hrevives =>
      hnone (mentions_of_revives h hknown hplain hline hrevives),
    fun hnone _ _ _ => expand_of_not_mentions hnone,
    expand_fails_of_mentions h hplain⟩

/-- A text with one mention, which has no group. -/
theorem expand_again_lf : ∃ out,
    (expand (schemaDisk "") (.absolute []) false " * @apiParam \x7bschema\x7d s.json\n */\n").result
      = .ok out ∧ ¬Mentions out ∧
    ∀ disk base strict, (expand disk base strict out).result = .ok out := by
  have hnone : ∀ line ∈ Text.lines " * @apiParam \x7bschema\x7d s.json\n */\n".toList,
      ¬Revives (schemaDisk "") (.absolute []) false line := by
    rw [lines_lf]
    refine List.forall_mem_cons.mpr ⟨?_, List.forall_mem_singleton.mpr ?_⟩
    · rintro ⟨t, m, schema, rendered, r, hm, -, -, -, g, hgroup, -⟩
      rw [mentioned?_lf] at hm
      cases hm
      cases hgroup
    · rintro ⟨t, m, schema, rendered, r, hm, -⟩
      rw [mentioned?_end] at hm
      cases hm
  obtain ⟨hgone, -, hsame, -⟩ := expand_again_iff expand_lf rendersUnbroken_lf
  exact ⟨_, expand_lf, hgone hnone, hsame (hgone hnone)⟩

/-! ## §5 A mention that revives -/

/-- A schema with one required field, whose name is empty. -/
def namelessSchema : Value :=
  .mapping [(.text "type", .text "object"), (.text "required", .sequence [.text ""]),
    (.text "properties", .mapping [(.text "", .mapping [(.text "type", .text "string")])])]

/-- A disk with that schema, in a file whose name has a bracket and a brace. -/
def namelessDisk : Disk :=
  ⟨⟨[(["y) \x7bs.json"], .file (Text.encode ("\x7b\"type\": \"object\", \"required\": [\"\"], "
    ++ "\"properties\": \x7b\"\": \x7b\"type\": \"string\"\x7d\x7d\x7d")))]⟩, .absolute []⟩

def holdsNameless : Except Failure Value → Bool
  | .ok (.mapping [(.text "type", .text "object"), (.text "required", .sequence [.text name]),
      (.text "properties", .mapping [(.text name', .mapping [(.text "type", .text "string")])])]) =>
    name == "" && name' == ""
  | _ => false

theorem eq_of_holdsNameless {x : Except Failure Value} (h : holdsNameless x = true) :
    x = .ok namelessSchema := by
  unfold holdsNameless at h
  split at h
  · obtain ⟨hname, hname'⟩ := Bool.and_eq_true_iff.mp h
    rw [beq_iff_eq.mp hname, beq_iff_eq.mp hname']
    rfl
  · cases h

theorem resolve_nameless :
    (Resolve.file namelessDisk (.absolute []) false "y) \x7bs.json").result
      = .ok namelessSchema :=
  eq_of_holdsNameless (by decide +kernel)

theorem linesOf_nameless : Fields.linesOf namelessSchema Descriptor.defaultPad
    = .ok ["\x7bstring\x7d  "] := by
  have hwalk : Fields.ofProperties (.integer 0) (.set [.text ""])
      (.mapping [(.text "", .mapping [(.text "type", .text "string")])])
      = .ok [⟨.integer 0, .text "", true, "string", none, ""⟩] := by
    rw [Fields.ofProperties]
    simp only [Value.bare]
    rw [Fields.ofEntries, Fields.ofEntries, Fields.ofProperty_of_leaf rfl]
    rfl
  have hroot : Fields.linesOf namelessSchema Descriptor.defaultPad
      = (orFail (Fields.ofProperties (.integer 0) (.set [.text ""])
        (.mapping [(.text "", .mapping [(.text "type", .text "string")])]))).bind fun fields =>
          orFail (fields.mapM (·.render Descriptor.defaultPad)) := rfl
  rw [hroot, hwalk]
  rfl

theorem mentioned?_nameless : mentioned? " * @apiParam (x) \x7bschema\x7d y) \x7bs.json\n".toList
    = some (⟨" * ", Tag.ofContent "apiParam" "(x) \x7bschema\x7d y) \x7bs.json"⟩,
        ⟨some "x) \x7bschema\x7d y", "y) \x7bs.json"⟩) :=
  rfl

/-- The group goes on over the word, the field is a type alone: the line that is put in the place of
the mention announces a schema again, and the expanded text can not be expanded. -/
theorem expand_again_nameless :
    (expand namelessDisk (.absolute []) false
        " * @apiParam (x) \x7bschema\x7d y) \x7bs.json\n */\n").result
      = .ok " * @apiParam (x) \x7bschema\x7d y) \x7bstring\x7d  \n */\n" ∧
    (∀ line ∈ Text.lines " * @apiParam (x) \x7bschema\x7d y) \x7bs.json\n */\n".toList,
      RendersUnbroken namelessDisk (.absolute []) false line) ∧
    Mentions " * @apiParam (x) \x7bschema\x7d y) \x7bstring\x7d  \n */\n" ∧
    ∀ disk base strict, ∃ f, (expand disk base strict
      " * @apiParam (x) \x7bschema\x7d y) \x7bstring\x7d  \n */\n").result = .error f := by
  have hlines : Text.lines " * @apiParam (x) \x7bschema\x7d y) \x7bs.json\n */\n".toList
      = [" * @apiParam (x) \x7bschema\x7d y) \x7bs.json\n".toList, " */\n".toList] :=
    rfl
  have hfirst : standsForWith namelessDisk (.absolute []) false ['\n']
      " * @apiParam (x) \x7bschema\x7d y) \x7bs.json\n".toList
      = .ok [" * @apiParam (x) \x7bschema\x7d y) \x7bstring\x7d  \n".toList] := by
    rw [standsForWith, mentioned?_nameless]
    simp only [Tag.describe_result, resolve_nameless, ok_bind, linesOf_nameless]
    exact congrArg Except.ok rfl
  have hrun : (expand namelessDisk (.absolute []) false
      " * @apiParam (x) \x7bschema\x7d y) \x7bs.json\n */\n").result
      = .ok " * @apiParam (x) \x7bschema\x7d y) \x7bstring\x7d  \n */\n" :=
    expand_of_lines hlines hfirst (standsForWith_of_none mentioned?_end _) rfl
  have hplain : ∀ line ∈ Text.lines " * @apiParam (x) \x7bschema\x7d y) \x7bs.json\n */\n".toList,
      RendersUnbroken namelessDisk (.absolute []) false line := by
    rw [hlines]
    refine List.forall_mem_cons.mpr
      ⟨?_, List.forall_mem_singleton.mpr (rendersUnbroken_of_none mentioned?_end)⟩
    intro t m schema rendered hm hschema hrendered
    rw [mentioned?_nameless] at hm
    cases hm
    cases Except.ok.inj (resolve_nameless.symm.trans hschema)
    cases Except.ok.inj (linesOf_nameless.symm.trans hrendered)
    decide
  have hmentions : Mentions " * @apiParam (x) \x7bschema\x7d y) \x7bstring\x7d  \n */\n" :=
    ⟨" * @apiParam (x) \x7bschema\x7d y) \x7bstring\x7d  \n".toList, by decide, by decide⟩
  exact ⟨hrun, hplain, hmentions, expand_fails_of_mentions hrun hplain hmentions⟩

end Source

end SchemaDoc
