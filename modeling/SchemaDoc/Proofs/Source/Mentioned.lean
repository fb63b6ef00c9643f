/-
SchemaDoc.Proofs.Source.Mentioned — lines that mention a schema, and lines that cannot.

A line that starts with the rendered line of a field, whatever follows, mentions
no schema at all, or one whose path ends in a closing brace
(`braceEnded_of_fieldLine`): the first braces of such a line stand around the
type of a leaf, and only if nothing follows these the last ones may be read as
another pair. What a line with a mention has in front of the at sign, and the
group of its mention, have no line break (`unbroken_of_mentioned?`).

§1 behind a rendered line, §2 a line with a mention.
-/
import SchemaDoc.Proofs.Files.Suffix
import SchemaDoc.Proofs.Source.Text

namespace SchemaDoc.Source

/-! ## §1 Behind a rendered line -/

/-- A line that starts with the type of a leaf in braces, behind anything, and then a blank. -/
def StartsRendered (s : List Char) : Prop :=
  ∃ a t rest, s = a ++ '\x7b' :: (t.toList ++ '\x7d' :: ' ' :: rest) ∧ Descriptor.StartsWithType t

theorem StartsRendered.append {s : List Char} (h : StartsRendered s) (y : List Char) :
    StartsRendered (s ++ y) := by
  obtain ⟨a, t, rest, rfl, ht⟩ := h
  exact ⟨a, t, rest ++ y, by simp, ht⟩

theorem withoutGap_append (x y : List Char) :
    withoutGap (x ++ y) = if (withoutGap y).isEmpty then withoutGap x else x ++ withoutGap y := by
  unfold withoutGap
  rw [List.reverse_append, List.dropWhile_append, List.isEmpty_reverse]
  split
  · rfl
  · simp

theorem withoutGap_starts (s : List Char) : withoutGap s <+: s := by
  have h := List.reverse_prefix.mpr (List.dropWhile_suffix Text.isGap (l := s.reverse))
  rwa [List.reverse_reverse] at h

/-- The path of a mention goes to the end of its line. -/
theorem getLast?_of_braced? {line word path : List Char}
    (h : Mention.braced? line = some (word, path)) : path.getLast? = line.getLast? := by
  unfold Mention.braced? at h
  split at h
  · rename_i before inner hcut
    split at h
    · rename_i last c word behind hlast hinner
      cases h
      rw [(Text.eq_of_cutOnce hcut).1, List.getLast?_concat, List.getLast?_append,
        List.getLast?_cons, hlast]
      rfl
    · cases h
  · cases h

/-- A content that starts with a rendered line mentions a schema only if nothing but gaps follows
the braces around the type: otherwise these are the ones that are read. -/
theorem closed_of_ofContent? {a rest : List Char} {t : String} {m : Mention}
    (ht : Descriptor.StartsWithType t)
    (hbreak : '\n' ∉ withoutGap (a ++ '\x7b' :: (t.toList ++ '\x7d' :: ' ' :: rest)))
    (h : Mention.ofContent?
      (String.ofList (withoutGap (a ++ '\x7b' :: (t.toList ++ '\x7d' :: ' ' :: rest)))) = some m) :
    withoutGap (' ' :: rest) = [] ∧ ∃ path, m.path = String.ofList (Text.trim path) ∧
      Mention.braced? (a ++ '\x7b' :: (t.toList ++ ['\x7d'])) = some (Mention.keyword, path) := by
  have hsplit : ∀ rest, a ++ '\x7b' :: (t.toList ++ '\x7d' :: ' ' :: rest)
      = (a ++ '\x7b' :: (t.toList ++ ['\x7d'])) ++ ' ' :: rest := by simp
  rw [hsplit, withoutGap_append] at h hbreak
  unfold Mention.ofContent? at h
  simp only [String.toList_ofList, Text.cutAt_of_not_mem hbreak, List.findSome?_singleton] at h
  split at h
  · rename_i word path hbraced
    split at h
    · rename_i hword
      cases h
      split at hbraced
      · rename_i hempty
        have hkept : withoutGap (a ++ '\x7b' :: (t.toList ++ ['\x7d']))
            = a ++ '\x7b' :: (t.toList ++ ['\x7d']) := by simp [withoutGap, Text.isGap]
        rw [hkept, hword] at hbraced
        exact ⟨List.isEmpty_iff.mp hempty, path, rfl, hbraced⟩
      · rename_i hne
        obtain ⟨rest', hrest'⟩ : ∃ rest', withoutGap (' ' :: rest) = ' ' :: rest' := by
          obtain ⟨c, rest', hc⟩ := List.exists_cons_of_ne_nil (List.isEmpty_iff.not.mp hne)
          have hstarts := withoutGap_starts (' ' :: rest)
          rw [hc, List.cons_prefix_cons] at hstarts
          exact ⟨rest', hc.trans (by rw [hstarts.1])⟩
        rw [hrest', ← hsplit] at hbraced
        exact absurd hword (Mention.ne_keyword_of_braced? ht hbraced)
    · cases h
  · cases h

/-- So the path of such a mention ends in a brace. -/
theorem braceEnded_of_ofContent? {s : List Char} {m : Mention} (hs : StartsRendered s)
    (hbreak : '\n' ∉ withoutGap s)
    (h : Mention.ofContent? (String.ofList (withoutGap s)) = some m) : BraceEnded m.path := by
  obtain ⟨a, t, rest, rfl, ht⟩ := hs
  obtain ⟨-, path, hpath, hbraced⟩ := closed_of_ofContent? ht hbreak h
  rw [BraceEnded, hpath, String.toList_ofList]
  refine Text.getLast?_trim ?_ (by decide)
  rw [getLast?_of_braced? hbraced, List.getLast?_append, List.getLast?_cons,
    List.getLast?_concat]
  rfl

/-- What stands behind the name of a tag is its content up to gaps. -/
theorem eq_withoutGap_of_tagContent? {r y content : List Char} {c : Char} (hc : Text.isGap c = false)
    (hbreak : '\n' ∉ c :: r) (h : tagContent? (' ' :: (c :: r ++ y)) = some content) :
    ∃ y', content = withoutGap (c :: r ++ y') := by
  have hdrop : (' ' :: (c :: r ++ y)).dropWhile Text.isGap = c :: r ++ y := by
    rw [List.dropWhile_cons_of_pos (by decide), List.cons_append,
      List.dropWhile_cons_of_neg (by simp [hc])]
  unfold tagContent? at h
  rw [hdrop] at h
  simp only [List.cons_append] at h
  generalize hline : (if (c :: (r ++ y)).getLast? = some '\n' then (c :: (r ++ y)).dropLast
    else c :: (r ++ y)) = line at h
  suffices hform : ∃ y', line = c :: r ++ y' by
    obtain ⟨y', rfl⟩ := hform
    split at h
    · cases h
      exact ⟨y', rfl⟩
    · cases h
  rw [← hline, ← List.cons_append]
  split
  · rename_i hlast
    cases y with
    | nil =>
      rw [List.append_nil] at hlast
      exact absurd (List.mem_of_getLast? hlast) hbreak
    | cons d y =>
      exact ⟨(d :: y).dropLast, List.dropLast_append_of_ne_nil (List.cons_ne_nil d y)⟩
  · exact ⟨y, rfl⟩

/-- A rendered line with its group starts with no gap, and with braces around a type. -/
theorem grouped_form {schema pad : Value} {lines : List String} {group : Option String}
    (h : Fields.linesOf schema pad = .ok lines) : ∀ line ∈ lines,
      StartsRendered (Tag.grouped group line).toList ∧
        ∃ c rest, (Tag.grouped group line).toList = c :: rest ∧ Text.isGap c = false := by
  intro line hline
  obtain ⟨t, rest, hform, ht⟩ := Fields.exists_of_mem_linesOf h line hline
  unfold Tag.grouped
  split
  · rename_i g _
    constructor
    · exact ⟨("(" ++ g ++ ") ").toList, t, rest, by simp [hform], ht⟩
    · exact ⟨'(', g.toList ++ ')' :: ' ' :: line.toList, by simp, by decide⟩
  · constructor
    · exact ⟨[], t, rest, by simp [hform], ht⟩
    · exact ⟨'\x7b', _, hform, by decide⟩

theorem tagName?_of_describing {spelling : String} (h : Tag.describing.contains spelling = true)
    (rest : List Char) :
    tagName? (spelling.toList ++ ' ' :: rest) = some (spelling.toList, ' ' :: rest) := by
  simp only [Tag.describing, List.contains_cons, List.contains_nil, Bool.or_false, Bool.or_eq_true,
    beq_iff_eq] at h
  rcases h with rfl | rfl <;> rfl

theorem isBreak_of_mem_ending {line : List Char} {c : Char}
    (h : c ∈ (Text.Line.ofList line).ending) : Text.isBreak c = true := by
  unfold Text.Line.ofList at h
  split at h
  · simp only [List.mem_cons, List.not_mem_nil, or_false] at h
    rcases h with rfl | rfl <;> rfl
  · rw [List.mem_singleton.mp h]
    rfl
  · rw [List.mem_singleton.mp h]
    rfl
  · cases h

/-- The body of a line starts with what it has in front of its first break. -/
theorem body_append {s : List Char} (h : Text.Unbroken s) (x : List Char) :
    ∃ y, (Text.Line.ofList (s ++ x)).body = s ++ y := by
  have hline := Text.Line.toList_ofList (s ++ x)
  unfold Text.Line.toList at hline
  rcases List.append_eq_append_iff.mp hline with ⟨u, hs, hending⟩ | ⟨y, hbody, -⟩
  · cases u with
    | nil =>
      rw [List.append_nil] at hs
      exact ⟨[], by rw [List.append_nil, ← hs]⟩
    | cons c u =>
      have hc := h c (hs ▸ List.mem_append_right _ (List.mem_cons_self ..))
      rw [isBreak_of_mem_ending (hending ▸ List.mem_append_left _ (List.mem_cons_self ..))] at hc
      cases hc
  · exact ⟨y, hbody⟩

/-- What is read in the line of a field, whatever follows it: the field and what follows up to
gaps. -/
theorem ofContent?_of_fieldLine {t t' : TagLine} {r : String} {m : Mention} {x : List Char}
    (hat : '@' ∉ t.before.toList) (hname : Tag.describing.contains t.tag.spelling = true)
    (hfirst : ∃ c rest, r.toList = c :: rest ∧ Text.isGap c = false)
    (hplain : Text.Unbroken (fieldLine t r))
    (h : mentioned? (fieldLine t r ++ x) = some (t', m)) :
    ∃ y, '\n' ∉ withoutGap (r.toList ++ y) ∧
      Mention.ofContent? (String.ofList (withoutGap (r.toList ++ y))) = some m := by
  obtain ⟨t'', htag, h⟩ := Option.bind_eq_some_iff.mp h
  obtain ⟨m', hm, h⟩ := Option.bind_eq_some_iff.mp h
  cases h
  obtain ⟨y, hbody⟩ := body_append (x := x) hplain
  rw [hbody, fieldLine, List.append_assoc, List.cons_append, List.append_assoc, List.cons_append,
    tagLine?, Text.cutOnce_append hat] at htag
  simp only [tagName?_of_describing hname] at htag
  split at htag
  · cases htag
  obtain ⟨content, hcontent, rfl⟩ := Option.map_eq_some_iff.mp htag
  obtain ⟨c, rest, hrest, hgap⟩ := hfirst
  have hbreak := not_mem_tagContent? hcontent
  have hunbroken : '\n' ∉ c :: rest := by
    intro hm
    have := hplain '\n' (by simp [fieldLine, hrest, hm])
    rw [Text.isBreak_lf] at this
    cases this
  rw [hrest] at hcontent
  obtain ⟨y', rfl⟩ := eq_withoutGap_of_tagContent? hgap hunbroken hcontent
  refine ⟨y', by rwa [hrest], ?_⟩
  rw [hrest]
  unfold Tag.mention? at hm
  split at hm
  · exact hm
  · cases hm

/-- Whatever follows it, the line of a field mentions no schema, or one whose path ends in a
brace. -/
theorem braceEnded_of_fieldLine {t t' : TagLine} {r : String} {m : Mention} {x : List Char}
    (hat : '@' ∉ t.before.toList) (hname : Tag.describing.contains t.tag.spelling = true)
    (hr : StartsRendered r.toList) (hfirst : ∃ c rest, r.toList = c :: rest ∧ Text.isGap c = false)
    (hplain : Text.Unbroken (fieldLine t r))
    (h : mentioned? (fieldLine t r ++ x) = some (t', m)) : BraceEnded m.path := by
  obtain ⟨y, hbreak, hcontent⟩ := ofContent?_of_fieldLine hat hname hfirst hplain h
  exact braceEnded_of_ofContent? (hr.append y) hbreak hcontent

/-! ## §2 A line with a mention -/

theorem infix_of_tagContent? {s content : List Char} (h : tagContent? s = some content) :
    content <:+: s := by
  unfold tagContent? at h
  split at h
  · cases h
  · rename_i c rest hdrop
    simp only at h
    generalize hline : (if (c :: rest).getLast? = some '\n' then (c :: rest).dropLast
      else c :: rest) = line at h
    have hstarts : line <+: s.dropWhile Text.isGap := by
      rw [hdrop, ← hline]
      split
      · exact List.dropLast_prefix _
      · exact List.prefix_rfl
    split at h
    · cases h
      exact ((withoutGap_starts line).trans hstarts).isInfix.trans
        (List.dropWhile_suffix _).isInfix
    · cases h

theorem suffix_of_tagName? {s name rest : List Char} (h : tagName? s = some (name, rest)) :
    rest <:+ s := by
  unfold tagName? at h
  split at h
  · rename_i rest'
    simp only at h
    split at h
    · cases h
    · cases h
      exact (List.dropWhile_suffix _).trans ⟨['a', 'p', 'i'], rfl⟩
  · cases h

/-- A line with a tag: what stands before the at sign, which is the first one, and the content
somewhere behind it. -/
theorem parts_of_tagLine? {body : List Char} {t : TagLine} (h : tagLine? body = some t) :
    '@' ∉ t.before.toList ∧ ∃ behind, body = t.before.toList ++ '@' :: behind ∧
      t.tag.content.toList <:+: behind := by
  unfold tagLine? at h
  split at h
  · rename_i before behind hcut
    obtain ⟨hbody, hat⟩ := Text.eq_of_cutOnce hcut
    split at h
    · cases h
    · split at h
      · rename_i name rest hname
        obtain ⟨content, hcontent, rfl⟩ := Option.map_eq_some_iff.mp h
        simp only [Tag.ofContent, String.toList_ofList]
        exact ⟨hat, behind, hbody,
          (infix_of_tagContent? hcontent).trans (suffix_of_tagName? hname).isInfix⟩
      · cases h
  · cases h

/-- A group in a text is followed by a closing bracket. -/
theorem infix_of_bracketed? {line group : List Char} (h : Mention.bracketed? line = some group) :
    group ++ [')'] <:+: line := by
  unfold Mention.bracketed? at h
  split at h
  · rename_i inner hopen
    split at h
    · rename_i before behind hbrace
      split at h
      · rename_i c group rest hclose
        cases h
        have hinner : before <:+: inner :=
          ⟨[], '\x7b' :: behind, (Text.eq_of_cutLast? hbrace).1.symm⟩
        have hbefore : (c :: group) ++ [')'] <+: before.dropLast :=
          ⟨rest, by rw [(Text.eq_of_cutLast? hclose).1, List.append_assoc]; rfl⟩
        have hline : inner <:+: line := by
          rw [(Text.eq_of_cutOnce hopen).1]
          exact ((List.suffix_cons ..).trans (List.suffix_append ..)).isInfix
        exact (hbefore.trans (List.dropLast_prefix _)).isInfix.trans (hinner.trans hline)
      · cases h
    · cases h
  · cases h

theorem infix_of_mention? {t : Tag} {m : Mention} {g : String} (h : t.mention? = some m)
    (hbreak : '\n' ∉ t.content.toList) (hg : m.group = some g) :
    g.toList ++ [')'] <:+: t.content.toList := by
  unfold Tag.mention? at h
  split at h
  · unfold Mention.ofContent? at h
    simp only [Text.cutAt_of_not_mem hbreak, List.findSome?_singleton] at h
    split at h
    · split at h
      · cases h
        obtain ⟨group, hgroup, rfl⟩ := Option.map_eq_some_iff.mp hg
        rw [String.toList_ofList]
        exact infix_of_bracketed? hgroup
      · cases h
    · cases h
  · cases h

/-- The prefix of a line with a mention, and the group of the mention, have no break: breaks stand
at the end of a line only, and something else follows these. -/
theorem unbroken_of_mentioned? {line : List Char} {t : TagLine} {m : Mention}
    (hline : Text.IsLine line) (h : mentioned? line = some (t, m)) :
    Text.Unbroken t.before.toList ∧ ∀ g, m.group = some g → Text.Unbroken g.toList := by
  obtain ⟨t', htag, h⟩ := Option.bind_eq_some_iff.mp h
  obtain ⟨m', hm, h⟩ := Option.bind_eq_some_iff.mp h
  cases h
  obtain ⟨-, behind, hbody, hcontent⟩ := parts_of_tagLine? htag
  have hlist := Text.Line.toList_ofList line
  unfold Text.Line.toList at hlist
  rw [hbody, List.append_assoc, List.cons_append] at hlist
  constructor
  · rw [← hlist] at hline
    exact hline.unbroken_of_append (by decide)
  · intro g hg
    have hinfix : g.toList ++ [')'] <:+: line := by
      refine ((infix_of_mention? hm (tagLine?_eq_some htag).2.2 hg).trans hcontent).trans ?_
      rw [← hlist]
      exact ⟨t.before.toList ++ ['@'], (Text.Line.ofList line).ending, by simp⟩
    obtain ⟨a, b, hab⟩ := hinfix
    have hab : (a ++ g.toList) ++ ')' :: b = line := by
      rw [← hab]
      simp
    rw [← hab] at hline
    have := hline.unbroken_of_append (by decide)
    exact fun c hc => this c (List.mem_append_right _ hc)

theorem unbroken_grouped {group : Option String} {r : String}
    (hgroup : ∀ g, group = some g → Text.Unbroken g.toList) (hr : Text.Unbroken r.toList) :
    Text.Unbroken (Tag.grouped group r).toList := by
  unfold Tag.grouped
  split
  · rename_i g hg
    obtain ⟨hg, -⟩ := Option.filter_eq_some_iff.mp hg
    have := hgroup g hg
    intro c hc
    simp only [String.toList_append, List.mem_append] at hc
    rcases hc with ((hc | hc) | hc) | hc
    · rw [List.mem_singleton.mp hc]
      rfl
    · exact this c hc
    · simp at hc
      rcases hc with rfl | rfl <;> rfl
    · exact hr c hc
  · exact hr

theorem unbroken_fieldLine_of_mentioned? {line : List Char} {t : TagLine} {m : Mention} {r : String}
    (hline : Text.IsLine line) (h : mentioned? line = some (t, m)) (hr : Text.Unbroken r.toList) :
    Text.Unbroken (fieldLine t (Tag.grouped m.group r)) := by
  obtain ⟨hbefore, hgroup⟩ := unbroken_of_mentioned? hline h
  obtain ⟨t', htag, h⟩ := Option.bind_eq_some_iff.mp h
  obtain ⟨m', -, h⟩ := Option.bind_eq_some_iff.mp h
  cases h
  have hname := (tagLine?_eq_some htag).2.1
  intro c hc
  rw [fieldLine, List.mem_append, List.mem_cons, List.mem_append, List.mem_cons] at hc
  rcases hc with hc | rfl | hc | rfl | hc
  · exact hbefore c hc
  · rfl
  · exact not_isBreak_of_isAlpha (hname c hc)
  · rfl
  · exact unbroken_grouped hgroup hr c hc

theorem describing_of_mentioned? {line : List Char} {t : TagLine} {m : Mention}
    (h : mentioned? line = some (t, m)) :
    '@' ∉ t.before.toList ∧ Tag.describing.contains t.tag.spelling = true := by
  obtain ⟨t', htag, h⟩ := Option.bind_eq_some_iff.mp h
  obtain ⟨m', hm, h⟩ := Option.bind_eq_some_iff.mp h
  cases h
  refine ⟨(parts_of_tagLine? htag).1, ?_⟩
  unfold Tag.mention? at hm
  split at hm
  · assumption
  · cases hm

end SchemaDoc.Source
