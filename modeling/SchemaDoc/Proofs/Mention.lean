/-
SchemaDoc.Proofs.Mention — which contents announce a schema, and for which group.

A content announces a schema exactly if its first brace opens around the
keyword and a path follows in which no brace closes, unless it is the last
character (`isSome_ofContent?_iff`). There is one way to read it so, however
many braces it has.

The group is looked for on its own, in the whole content: from the first
opening bracket to the last closing one that has a brace behind it, but not
right behind it. So it is the text in the brackets before the keyword only if
something stands between these and the brace, or another brace opens later,
and if no bracket of the path reaches further (`group_iff`).

§1 contents that announce a schema, §2 mentions, §3 texts in brackets,
§4 groups.
-/
import Mathlib.Data.List.Basic
import SchemaDoc.Proofs.Text.Cut
import SchemaDoc.Tag

namespace SchemaDoc.Mention

/-! ## §1 Contents that announce a schema -/

/-- The keyword in braces, the first that open, and a path behind it. A brace may close the path, but
none closes inside it. -/
structure Announces (content before path : List Char) : Prop where
  text : content = before ++ '\x7b' :: (keyword ++ '\x7d' :: path)
  first : '\x7b' ∉ before
  given : path ≠ []
  closed : '\x7d' ∉ path.dropLast

/-- What is read from the first brace of a text on. -/
theorem braced?_append {b x : List Char} (hb : '\x7b' ∉ b) (y : Char) :
    braced? (b ++ '\x7b' :: (x ++ [y])) = match Text.cutLast? '\x7d' x with
      | some (c :: word, behind) => some (c :: word, behind ++ [y])
      | _ => none := by
  rw [braced?, Text.cutOnce_append hb]
  simp only [List.getLast?_concat, List.dropLast_concat]
  rcases Text.cutLast? '\x7d' x with _ | ⟨_ | ⟨c, word⟩, behind⟩ <;> rfl

/-- A word in braces, the first that open, and what stands behind it. -/
theorem eq_of_braced?_append {b x word path : List Char} (hb : '\x7b' ∉ b) {y : Char}
    (h : braced? (b ++ '\x7b' :: (x ++ [y])) = some (word, path)) :
    ∃ behind, path = behind ++ [y] ∧ x = word ++ '\x7d' :: behind ∧ '\x7d' ∉ behind := by
  rw [braced?_append hb] at h
  split at h
  · rename_i c rest behind hcut
    obtain ⟨rfl, rfl⟩ := Prod.mk.inj (Option.some.inj h)
    exact ⟨behind, rfl, Text.eq_of_cutLast? hcut⟩
  · cases h

/-- Before and path are what stands around the keyword in its braces. -/
theorem eq_of_text_eq {before before' path path' : List Char} (h : '\x7b' ∉ before)
    (h' : '\x7b' ∉ before') (heq : before ++ '\x7b' :: (keyword ++ '\x7d' :: path)
      = before' ++ '\x7b' :: (keyword ++ '\x7d' :: path')) : before = before' ∧ path = path' := by
  have hcut := congrArg (Text.cutOnce '\x7b') heq
  rw [Text.cutOnce_append h, Text.cutOnce_append h'] at hcut
  obtain ⟨hbefore, hbehind⟩ := Prod.mk.inj hcut
  have hpath := List.append_cancel_left (Option.some.inj hbehind)
  exact ⟨hbefore, (List.cons.inj hpath).2⟩

theorem announces_of_braced? {content path : List Char}
    (h : braced? content = some (keyword, path)) : ∃ before, Announces content before path := by
  by_cases hbrace : '\x7b' ∈ content
  · obtain ⟨before, inner, rfl, hbefore⟩ := List.eq_append_cons_of_mem hbrace
    rcases List.eq_nil_or_concat' inner with rfl | ⟨x, y, rfl⟩
    · rw [braced?, Text.cutOnce_append hbefore] at h
      cases h
    · obtain ⟨behind, rfl, rfl, hclosed⟩ := eq_of_braced?_append hbefore h
      exact ⟨before, by simp, hbefore, by simp, by rwa [List.dropLast_concat]⟩
  · rw [braced?, Text.cutOnce_of_not_mem hbrace] at h
    cases h

theorem Announces.braced? {content before path : List Char} (h : Announces content before path) :
    braced? content = some (keyword, path) := by
  obtain ⟨rfl, hbefore, hgiven, hclosed⟩ := h
  obtain ⟨behind, y, rfl⟩ := (List.eq_nil_or_concat' path).resolve_left hgiven
  rw [List.dropLast_concat] at hclosed
  have hinner : keyword ++ '\x7d' :: (behind ++ [y]) = (keyword ++ '\x7d' :: behind) ++ [y] := by
    simp
  rw [hinner, braced?_append hbefore, Text.cutLast?_append hclosed]
  rfl

/-! ## §2 Mentions -/

variable {content : String} {m : Mention}

theorem ofContent?_eq_some_iff (h : '\n' ∉ content.toList) : ofContent? content = some m ↔
    ∃ before path, Announces content.toList before path ∧
      m = ⟨(bracketed? content.toList).map String.ofList, String.ofList (Text.trim path)⟩ := by
  simp only [ofContent?, Text.cutAt_of_not_mem h, List.findSome?_singleton]
  constructor
  · intro hm
    split at hm
    · rename_i word path hbraced
      split at hm
      · rename_i hword
        obtain ⟨before, hannounces⟩ := announces_of_braced? (hword ▸ hbraced)
        exact ⟨before, path, hannounces, (Option.some.inj hm).symm⟩
      · cases hm
    · cases hm
  · rintro ⟨before, path, hannounces, rfl⟩
    simp [hannounces.braced?]

/-- **A content mentions a schema exactly if it announces one.** There is only one way to read it so,
and the path of the mention is what stands behind the keyword, without the blanks around it. -/
theorem isSome_ofContent?_iff (h : '\n' ∉ content.toList) :
    ((ofContent? content).isSome = true ↔
      ∃ before path, Announces content.toList before path) ∧
    ∀ before path, Announces content.toList before path →
      (∀ before' path', Announces content.toList before' path' →
        before' = before ∧ path' = path) ∧
      (ofContent? content).map Mention.path = some (String.ofList (Text.trim path)) := by
  refine ⟨⟨fun hsome => ?_, fun ⟨before, path, hannounces⟩ => ?_⟩, fun before path hannounces => ?_⟩
  · obtain ⟨m, hm⟩ := Option.isSome_iff_exists.mp hsome
    obtain ⟨before, path, hannounces, -⟩ := (ofContent?_eq_some_iff h).mp hm
    exact ⟨before, path, hannounces⟩
  · exact Option.isSome_iff_exists.mpr
      ⟨_, (ofContent?_eq_some_iff h).mpr ⟨before, path, hannounces, rfl⟩⟩
  · have hm := (ofContent?_eq_some_iff h).mpr ⟨before, path, hannounces, rfl⟩
    refine ⟨fun before' path' hannounces' => ?_, by rw [hm]; rfl⟩
    exact eq_of_text_eq hannounces'.first hannounces.first
      (hannounces'.text.symm.trans hannounces.text)

/-- A path that a brace closes, and that opens braces of its own. -/
theorem isSome_ofContent?_braces : '\n' ∉ "(a) \x7bschema\x7d s\x7b\x7b.json \x7d".toList ∧
    (ofContent? "(a) \x7bschema\x7d s\x7b\x7b.json \x7d").map Mention.path
      = some "s\x7b\x7b.json \x7d" := by
  have hline : '\n' ∉ "(a) \x7bschema\x7d s\x7b\x7b.json \x7d".toList := by decide
  exact ⟨hline, ((isSome_ofContent?_iff hline).2 "(a) ".toList " s\x7b\x7b.json \x7d".toList
    ⟨by decide, by decide, by decide, by decide⟩).2⟩

/-! ## §3 Texts in brackets -/

/-- A text in brackets, and behind it a brace that opens, but not at once. -/
def HasGroup (s : List Char) : Prop :=
  ∃ before group between rest,
    s = before ++ '(' :: (group ++ ')' :: (between ++ '\x7b' :: rest)) ∧
      group ≠ [] ∧ between ≠ []

/-- A bracket that closes, and behind it a brace that opens, but not at once. -/
def Overruns (s : List Char) : Prop :=
  ∃ before between rest, s = before ++ ')' :: (between ++ '\x7b' :: rest) ∧ between ≠ []

theorem bracketed?_cons (inner : List Char) : bracketed? ('(' :: inner)
    = match Text.cutLast? '\x7b' inner with
      | some (before, _) => match Text.cutLast? ')' before.dropLast with
        | some (c :: group, _) => some (c :: group)
        | _ => none
      | none => none := rfl

/-- The brackets are looked for from the first one on. -/
theorem bracketed?_append {a : List Char} (ha : '(' ∉ a) (s : List Char) :
    bracketed? (a ++ s) = bracketed? s := by
  by_cases hs : '(' ∈ s
  · obtain ⟨before, inner, rfl, hbefore⟩ := List.eq_append_cons_of_mem hs
    have hboth : '(' ∉ a ++ before := fun h => (List.mem_append.mp h).elim ha hbefore
    rw [← List.append_assoc, bracketed?, bracketed?, Text.cutOnce_append hboth,
      Text.cutOnce_append hbefore]
  · have hboth : '(' ∉ a ++ s := fun h => (List.mem_append.mp h).elim ha hs
    rw [bracketed?, bracketed?, Text.cutOnce_of_not_mem hboth, Text.cutOnce_of_not_mem hs]

/-- The text in brackets ends at the last bracket that has a brace behind it, but not right behind
it. -/
theorem bracketed?_cons_eq_some_iff {inner group : List Char} :
    bracketed? ('(' :: inner) = some group ↔ group ≠ [] ∧ ∃ between c rest,
      inner = group ++ ')' :: (between ++ c :: '\x7b' :: rest) ∧
        ')' ∉ between ∧ '\x7b' ∉ rest := by
  rw [bracketed?_cons]
  constructor
  · intro h
    split at h
    · rename_i before rest hopen
      split at h
      · rename_i d word between hclose
        cases h
        obtain ⟨rfl, hrest⟩ := Text.eq_of_cutLast? hopen
        obtain ⟨hdrop, hbetween⟩ := Text.eq_of_cutLast? hclose
        obtain ⟨x, c, rfl⟩ := (List.eq_nil_or_concat' before).resolve_left (by rintro rfl; cases hdrop)
        rw [List.dropLast_concat] at hdrop
        exact ⟨List.cons_ne_nil d word, between, c, rest, by simp [hdrop], hbetween, hrest⟩
      · cases h
    · cases h
  · rintro ⟨hgroup, between, c, rest, rfl, hbetween, hrest⟩
    have hinner : group ++ ')' :: (between ++ c :: '\x7b' :: rest)
        = ((group ++ ')' :: between) ++ [c]) ++ '\x7b' :: rest := by simp
    obtain ⟨d, word, rfl⟩ := List.exists_cons_of_ne_nil hgroup
    rw [hinner, Text.cutLast?_append hrest]
    simp only [List.dropLast_concat, Text.cutLast?_append hbetween]

/-- Whatever bracket closes first, there is a last one. -/
theorem isSome_bracketed?_cons {group between : List Char} (hgroup : group ≠ [])
    (hbetween : between ≠ []) (rest : List Char) :
    (bracketed? ('(' :: (group ++ ')' :: (between ++ '\x7b' :: rest)))).isSome = true := by
  have hinner : group ++ ')' :: (between ++ '\x7b' :: rest)
      = (group ++ ')' :: between) ++ '\x7b' :: rest := by simp
  obtain ⟨⟨before, behind⟩, hopen⟩ := Option.isSome_iff_exists.mp
    (Text.isSome_cutLast? (List.mem_append_right (group ++ ')' :: between)
      (List.mem_cons_self (a := '\x7b') (l := rest))))
  obtain ⟨more, rfl⟩ := Text.prefix_of_cutLast? hopen
  have hdrop : ((group ++ ')' :: between) ++ more).dropLast
      = group ++ ')' :: (between ++ more).dropLast := by
    rw [List.append_assoc, List.dropLast_append_of_ne_nil (by simp), List.cons_append,
      List.dropLast_cons_of_ne_nil (by simp [hbetween])]
  obtain ⟨⟨word, behind'⟩, hclose⟩ := Option.isSome_iff_exists.mp
    (Text.isSome_cutLast? (List.mem_append_right group
      (List.mem_cons_self (a := ')') (l := (between ++ more).dropLast))))
  obtain ⟨later, rfl⟩ := Text.prefix_of_cutLast? hclose
  obtain ⟨d, word, rfl⟩ := List.exists_cons_of_ne_nil hgroup
  rw [hinner, bracketed?_cons, hopen]
  simp only [hdrop, hclose]
  rfl

theorem bracketed?_eq_none_iff {s : List Char} : bracketed? s = none ↔ ¬HasGroup s := by
  constructor
  · rintro hnone ⟨before, group, between, rest, rfl, hgroup, hbetween⟩
    have hmem : '(' ∈ before ++ '(' :: (group ++ ')' :: (between ++ '\x7b' :: rest)) := by simp
    obtain ⟨a, inner, heq, ha⟩ := List.eq_append_cons_of_mem hmem
    rw [heq, bracketed?_append ha] at hnone
    -- The first bracket is the one of the group or an earlier one.
    obtain ⟨word, rfl, hword⟩ : ∃ word, inner = word ++ ')' :: (between ++ '\x7b' :: rest) ∧
        word ≠ [] := by
      rcases List.append_eq_append_iff.mp heq with ⟨u, rfl, hu⟩ | ⟨u, rfl, hu⟩
      · cases u with
        | nil => exact ⟨group, (List.cons.inj hu).2.symm, hgroup⟩
        | cons c u => exact absurd (List.mem_append_right before
            ((List.cons.inj hu).1 ▸ List.mem_cons_self ..)) ha
      · cases u with
        | nil => exact ⟨group, (List.cons.inj hu).2, hgroup⟩
        | cons c u => exact ⟨u ++ '(' :: group, by simp [(List.cons.inj hu).2], by simp⟩
    have hsome := isSome_bracketed?_cons hword hbetween rest
    rw [hnone] at hsome
    cases hsome
  · intro hno
    by_contra hsome
    obtain ⟨group, hgroup⟩ := Option.ne_none_iff_exists'.mp hsome
    by_cases hs : '(' ∈ s
    · obtain ⟨before, inner, rfl, hbefore⟩ := List.eq_append_cons_of_mem hs
      rw [bracketed?_append hbefore] at hgroup
      obtain ⟨hne, between, c, rest, rfl, -⟩ := bracketed?_cons_eq_some_iff.mp hgroup
      exact hno ⟨before, group, between ++ [c], rest, by simp, hne, by simp⟩
    · rw [bracketed?, Text.cutOnce_of_not_mem hs] at hgroup
      cases hgroup

/-! ## §4 Groups -/

/-- No bracket closes between the group and the last brace, but perhaps right before this one. -/
theorem exists_between_iff {before rest : List Char} (hrest : '\x7b' ∉ rest) :
    (∃ between c rest', before ++ '\x7b' :: rest = between ++ c :: '\x7b' :: rest' ∧
        ')' ∉ between ∧ '\x7b' ∉ rest') ↔ before ≠ [] ∧ ')' ∉ before.dropLast := by
  constructor
  · rintro ⟨between, c, rest', heq, hbetween, hrest'⟩
    have hcut := congrArg (Text.cutLast? '\x7b') heq
    rw [List.append_cons between, Text.cutLast?_append hrest, Text.cutLast?_append hrest'] at hcut
    obtain ⟨rfl, -⟩ := Prod.mk.inj (Option.some.inj hcut)
    exact ⟨by simp, by rwa [List.dropLast_concat]⟩
  · rintro ⟨hne, hclose⟩
    obtain ⟨between, c, rfl⟩ := (List.eq_nil_or_concat' before).resolve_left hne
    rw [List.dropLast_concat] at hclose
    exact ⟨between, c, rest, by simp, hclose, hrest⟩

theorem overruns_append {before rest : List Char} (hrest : '\x7b' ∉ rest) :
    Overruns (before ++ '\x7b' :: rest) ↔ ')' ∈ before.dropLast := by
  constructor
  · rintro ⟨start, between, rest', heq, hbetween⟩
    have hcut := Text.cutLast?_append hrest before
    rw [heq, List.append_cons, ← List.append_assoc] at hcut
    obtain ⟨more, rfl⟩ := Text.prefix_of_cutLast? hcut
    rw [List.append_assoc, List.dropLast_append_of_ne_nil (by simp [hbetween])]
    simp
  · intro hmem
    obtain ⟨start, between, hdrop⟩ := List.append_of_mem hmem
    obtain ⟨x, c, rfl⟩ := (List.eq_nil_or_concat' before).resolve_left (by rintro rfl; cases hmem)
    rw [List.dropLast_concat] at hdrop
    exact ⟨start, between ++ [c], rest, by simp [hdrop], by simp⟩

/-- What comes behind the group up to the last brace: the braces of the keyword, or those of the
path. -/
theorem exists_between_keyword_iff {blanks path : List Char} (hblanks : ')' ∉ blanks) :
    (∃ between c rest, blanks ++ '\x7b' :: (keyword ++ '\x7d' :: path)
        = between ++ c :: '\x7b' :: rest ∧ ')' ∉ between ∧ '\x7b' ∉ rest) ↔
      (blanks ≠ [] ∨ '\x7b' ∈ path) ∧ ¬Overruns path := by
  by_cases hpath : '\x7b' ∈ path
  · obtain ⟨⟨x, rest⟩, hcut⟩ := Option.isSome_iff_exists.mp (Text.isSome_cutLast? hpath)
    obtain ⟨rfl, hrest⟩ := Text.eq_of_cutLast? hcut
    have hsplit : blanks ++ '\x7b' :: (keyword ++ '\x7d' :: (x ++ '\x7b' :: rest))
        = (blanks ++ '\x7b' :: (keyword ++ '\x7d' :: x)) ++ '\x7b' :: rest := by simp
    have hdrop : (blanks ++ '\x7b' :: (keyword ++ '\x7d' :: x)).dropLast
        = (blanks ++ '\x7b' :: keyword) ++ ('\x7d' :: x).dropLast := by
      rw [← List.dropLast_append_of_ne_nil (List.cons_ne_nil _ _), List.append_assoc,
        List.cons_append]
    have hword : ')' ∉ blanks ++ '\x7b' :: keyword := by
      rw [List.mem_append, not_or]
      exact ⟨hblanks, by decide⟩
    have hlast : ')' ∈ ('\x7d' :: x).dropLast ↔ ')' ∈ x.dropLast := by
      cases x with
      | nil => simp
      | cons c x => simp
    rw [hsplit, exists_between_iff hrest, overruns_append hrest, hdrop, List.mem_append, hlast]
    simp [hword]
  · have hrest : '\x7b' ∉ keyword ++ '\x7d' :: path := by
      simp only [List.mem_append, List.mem_cons, not_or]
      exact ⟨by decide, by decide, hpath⟩
    have hno : ¬Overruns path := by
      rintro ⟨before, between, rest, rfl, -⟩
      simp at hpath
    have hdrop : ')' ∉ blanks.dropLast := fun h => hblanks (List.dropLast_subset _ h)
    rw [exists_between_iff hrest]
    simp [hno, hpath, hdrop]

/-- **When the group is the text in the brackets before the keyword.** Without brackets there, there is
no group exactly if the path has none. With brackets before the keyword and but blanks behind them, the
group is the text in these exactly if there are such blanks or the path opens a brace, and no bracket
that closes in the path has a brace behind it, but right behind it. -/
theorem group_iff {before path : List Char} (hline : '\n' ∉ content.toList)
    (hm : ofContent? content = some m)
    (htext : content.toList = before ++ '\x7b' :: (keyword ++ '\x7d' :: path))
    (hfirst : '\x7b' ∉ before) :
    ('(' ∉ before → (m.group = none ↔ ¬HasGroup path)) ∧
    ∀ group blanks, before = '(' :: (group ++ ')' :: blanks) → group ≠ [] → ')' ∉ group →
      (∀ c ∈ blanks, Text.isBlank c = true) →
      (m.group = some (String.ofList group) ↔
        (blanks ≠ [] ∨ '\x7b' ∈ path) ∧ ¬Overruns path) := by
  obtain ⟨-, -, -, rfl⟩ := (ofContent?_eq_some_iff hline).mp hm
  rw [htext]
  constructor
  · intro hbefore
    have hnone : '(' ∉ before ++ '\x7b' :: (keyword ++ ['\x7d']) := by
      rw [List.mem_append, not_or]
      exact ⟨hbefore, by decide⟩
    have hsplit : before ++ '\x7b' :: (keyword ++ '\x7d' :: path)
        = (before ++ '\x7b' :: (keyword ++ ['\x7d'])) ++ path := by simp
    rw [hsplit, bracketed?_append hnone, Option.map_eq_none_iff, bracketed?_eq_none_iff]
  · rintro group blanks rfl hgroup hclose hblanks
    have hno : ')' ∉ blanks := fun h => absurd (hblanks _ h) (by decide)
    have hsplit : '(' :: (group ++ ')' :: blanks) ++ '\x7b' :: (keyword ++ '\x7d' :: path)
        = '(' :: (group ++ ')' :: (blanks ++ '\x7b' :: (keyword ++ '\x7d' :: path))) := by simp
    rw [hsplit, ← exists_between_keyword_iff hno, Option.map_eq_some_iff]
    constructor
    · rintro ⟨word, hword, heq⟩
      obtain rfl : word = group := String.ofList_injective heq
      obtain ⟨-, between, c, rest, hrest, hbetween⟩ := bracketed?_cons_eq_some_iff.mp hword
      exact ⟨between, c, rest, (List.cons.inj (List.append_cancel_left hrest)).2, hbetween⟩
    · rintro ⟨between, c, rest, hrest, hbetween⟩
      exact ⟨group, bracketed?_cons_eq_some_iff.mpr
        ⟨hgroup, between, c, rest, by rw [hrest], hbetween⟩, rfl⟩

/-- Brackets in the path do not matter as long as it opens no brace. -/
theorem group_before_brackets : ∃ m,
    ofContent? "(body) \x7bschema\x7d s (v2).json" = some m ∧ m.group = some "body" := by
  have hline : '\n' ∉ "(body) \x7bschema\x7d s (v2).json".toList := by decide
  have hm : ofContent? "(body) \x7bschema\x7d s (v2).json" = some ⟨some "body", "s (v2).json"⟩ := by
    decide +kernel
  have hno : ¬Overruns " s (v2).json".toList := by
    rintro ⟨before, between, rest, heq, -⟩
    have hmem : '\x7b' ∈ " s (v2).json".toList := by simp [heq]
    exact absurd hmem (by decide)
  have htext : "(body) \x7bschema\x7d s (v2).json".toList
      = "(body) ".toList ++ '\x7b' :: (keyword ++ '\x7d' :: " s (v2).json".toList) := by decide
  obtain ⟨-, hgroup⟩ := group_iff hline hm htext (by decide)
  have hblank : [' '].all Text.isBlank = true := by decide
  refine ⟨_, hm, (hgroup "body".toList [' '] (by decide) (by decide) (by decide)
    (List.all_eq_true.mp hblank)).mpr ?_⟩
  exact ⟨Or.inl (by decide), hno⟩

/-- **The group is misread.** It is lost where the keyword stands right behind the brackets, and where
there are none before the keyword, the brackets of a path are taken for a group. -/
theorem group_misread :
    ofContent? "(body)\x7bschema\x7d s.json" = some ⟨none, "s.json"⟩ ∧
      ofContent? "\x7bschema\x7d a(b)c\x7bd" = some ⟨some "b", "a(b)c\x7bd"⟩ := by
  decide +kernel

end SchemaDoc.Mention
