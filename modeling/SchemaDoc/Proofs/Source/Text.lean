/-
SchemaDoc.Proofs.Source.Text — the lines of an expanded source text.

Expanding a text gives the lines that its lines stand for, in order, in all
cases but three: a line with a mention ends in a break that is not known as a
terminator, a rendered line has a line break inside, or a dropped line stood
between a CR and an LF (`lines_expand_iff`). In texts whose lines end in LF or
CR LF, and for schemas that are rendered without line breaks, none of them
occurs (`lines_expand_of_plain`).

§1 texts, §2 plain texts, §3 a text of two lines, §4 the lines of an expanded text.
-/
import SchemaDoc.Proofs.Source.Line

namespace SchemaDoc.Source

variable {disk : Disk} {base : Path} {strict : Bool}

/-! ## §1 Texts -/

theorem expandLines_cons_eq_ok {line out : List Char} {rest : List (List Char)} :
    (expandLines disk base strict (line :: rest)).result = .ok out ↔
      ∃ here others, (expandLine disk base strict line).result = .ok here ∧
        (expandLines disk base strict rest).result = .ok others ∧ out = here ++ others := by
  rw [expandLines, Logged.bind_result]
  constructor
  · intro h
    obtain ⟨here, hhere, h⟩ := bind_eq_ok.mp h
    rw [Logged.bind_result] at h
    obtain ⟨others, hothers, h⟩ := bind_eq_ok.mp h
    exact ⟨here, others, hhere, hothers, (Except.ok.inj h).symm⟩
  · rintro ⟨here, others, hhere, hothers, rfl⟩
    refine bind_eq_ok.mpr ⟨here, hhere, ?_⟩
    rw [Logged.bind_result]
    exact bind_eq_ok.mpr ⟨others, hothers, rfl⟩

theorem expand_eq_ok {text out : String} : (expand disk base strict text).result = .ok out ↔
    (expandLines disk base strict (Text.lines text.toList)).result = .ok out.toList := by
  rw [expand, Logged.bind_result]
  constructor
  · intro h
    obtain ⟨chars, hchars, h⟩ := bind_eq_ok.mp h
    cases h
    rwa [String.toList_ofList]
  · intro h
    exact bind_eq_ok.mpr ⟨out.toList, h, congrArg Except.ok String.ofList_toList⟩

/-- What comes of lines is what they stand for, as long as the end of each is known. -/
theorem expandLines_ok : ∀ {ls : List (List Char)} {out : List Char},
    (expandLines disk base strict ls).result = .ok out →
    ∃ xs, ls.mapM (standsFor disk base strict) = .ok xs ∧
      out.length ≤ xs.flatten.flatten.length ∧
      (out = xs.flatten.flatten ↔ ∀ line ∈ ls, EndKnown disk base strict line)
  | [], out, h => by
    cases h
    exact ⟨[], rfl, Nat.le_refl _, by simp⟩
  | line :: rest, out, h => by
    obtain ⟨here, others, hhere, hothers, rfl⟩ := expandLines_cons_eq_ok.mp h
    rw [expandLine_result] at hhere
    obtain ⟨ys, hys, rfl⟩ := map_eq_ok.mp hhere
    obtain ⟨x, hx⟩ := exists_standsFor hys
    obtain ⟨hle, hiff⟩ := flatten_standsForWith hx hys
    obtain ⟨xs, hxs, hles, hiffs⟩ := expandLines_ok hothers
    refine ⟨x :: xs, ?_, ?_, fun heq => ?_, fun hall => ?_⟩
    · rw [List.mapM_cons, hx, ok_bind, hxs]
      rfl
    · simp only [List.flatten_cons, List.flatten_append, List.length_append]
      omega
    · simp only [List.flatten_cons, List.flatten_append] at heq
      have hlength := congrArg List.length heq
      simp only [List.length_append] at hlength
      obtain ⟨hfirst, hsecond⟩ := List.append_inj heq (by omega)
      exact List.forall_mem_cons.mpr ⟨hiff.mp hfirst, hiffs.mp hsecond⟩
    · obtain ⟨hfirst, hsecond⟩ := List.forall_mem_cons.mp hall
      rw [List.flatten_cons, List.flatten_append, hiff.mpr hfirst, ← hiffs.mpr hsecond]

/-- The lines that a text stands for. -/
def expectedLines (disk : Disk) (base : Path) (strict : Bool) (text : String) :
    Except Failure (List (List Char)) :=
  ((Text.lines text.toList).mapM (standsFor disk base strict)).map List.flatten

/-! ## §2 Plain texts -/

/-- Texts end in these only. -/
def isPlainEnd (e : List Char) : Bool := e == [] || e == ['\n'] || e == ['\r', '\n']

/-- A line that nothing can run into. -/
def Closed (x : List Char) : Prop := Text.IsLine x ∧ x.getLast? = some '\n'

theorem Closed.apart {x : List Char} (h : Closed x) (y : List Char) : Text.Apart x y := by
  refine ⟨⟨'\n', h.2, rfl⟩, fun hglue => ?_⟩
  rw [h.2] at hglue
  cases hglue.1

theorem closed_append {body e : List Char} (hb : Text.Unbroken body) (he : isPlainEnd e = true)
    (hne : e ≠ []) : Closed (body ++ e) := by
  simp only [isPlainEnd, Bool.or_eq_true, beq_iff_eq] at he
  rcases he with (rfl | rfl) | rfl
  · exact absurd rfl hne
  · exact ⟨.unbroken_append hb (.ended rfl), by simp⟩
  · exact ⟨.unbroken_append hb .crlf, by simp⟩

/-- Lines of a text that is plain: all but the last are closed. -/
structure PlainLines (xs : List (List Char)) : Prop where
  lines : ∀ x ∈ xs, Text.IsLine x
  closed : ∀ x ∈ xs.dropLast, Closed x

theorem PlainLines.isChain {xs : List (List Char)} (h : PlainLines xs) :
    xs.IsChain Text.Apart := by
  obtain ⟨-, h⟩ := h
  induction xs with
  | nil => exact .nil
  | cons x xs ih =>
    cases xs with
    | nil => exact .singleton x
    | cons y ys =>
      rw [List.dropLast_cons_cons] at h
      obtain ⟨hx, hrest⟩ := List.forall_mem_cons.mp h
      exact .cons_cons (hx.apart y) (ih hrest)

theorem PlainLines.append {xs ys : List (List Char)} (hx : ∀ x ∈ xs, Closed x)
    (hy : PlainLines ys) : PlainLines (xs ++ ys) where
  lines := List.forall_mem_append.mpr ⟨fun x h => (hx x h).1, hy.lines⟩
  closed := by
    intro x h
    cases ys with
    | nil =>
      rw [List.append_nil] at h
      exact hx x ((List.dropLast_sublist xs).subset h)
    | cons y ys =>
      rw [List.dropLast_append_of_ne_nil (List.cons_ne_nil y ys)] at h
      exact (List.mem_append.mp h).elim (hx x) (hy.closed x)

theorem plainLines_endedBy {e : List Char} (he : isPlainEnd e = true) :
    ∀ {bodies : List (List Char)}, (∀ b ∈ bodies, Text.Unbroken b ∧ b ≠ []) →
      PlainLines (endedBy e bodies) ∧ (e ≠ [] → ∀ x ∈ endedBy e bodies, Closed x)
  | [], _ => ⟨⟨by simp [endedBy], by simp [endedBy]⟩, by simp [endedBy]⟩
  | [body], hb => by
    obtain ⟨hbody, hne⟩ := hb body (List.mem_singleton_self body)
    have hclosed : e ≠ [] → ∀ x ∈ [body ++ e], Closed x := fun hne x hx =>
      List.mem_singleton.mp hx ▸ closed_append hbody he hne
    refine ⟨⟨fun x hx => ?_, List.forall_mem_nil _⟩, hclosed⟩
    by_cases hempty : e = []
    · rw [List.mem_singleton.mp hx, hempty, List.append_nil]
      exact .of_unbroken hbody hne
    · exact (hclosed hempty x hx).1
  | body :: next :: rest, hb => by
    obtain ⟨⟨hbody, -⟩, hrest⟩ := List.forall_mem_cons.mp hb
    obtain ⟨hlines, hclosed⟩ := plainLines_endedBy he hrest
    have hfirst : Closed (body ++ if e.isEmpty then ['\n'] else e) := by
      cases e with
      | nil => exact closed_append hbody (by decide) (by simp)
      | cons c e => exact closed_append hbody he (by simp)
    rw [endedBy_cons_cons, ← List.singleton_append]
    refine ⟨.append (fun x hx => List.mem_singleton.mp hx ▸ hfirst) hlines, fun hne x hx => ?_⟩
    rcases List.mem_append.mp hx with hx | hx
    · exact List.mem_singleton.mp hx ▸ hfirst
    · exact hclosed hne x hx

/-- The fields of the schema that a line mentions are rendered without line breaks. -/
def RendersPlain (disk : Disk) (base : Path) (strict : Bool) (line : List Char) : Prop :=
  ∀ t m rendered, mentioned? line = some (t, m) →
    (Tag.describe disk base strict m).result = .ok rendered →
    ∀ r ∈ rendered, Text.Unbroken r.toList

theorem ending_of_isPlainEnd {line : List Char} (h : isPlainEnd (Text.terminator line) = true) :
    (Text.Line.ofList line).ending = Text.terminator line := by
  rcases Text.ending_eq_terminator line with he | ⟨-, c, hc, hlf⟩
  · exact he
  · rw [hc] at h
    simp [isPlainEnd, hlf] at h

theorem not_isBreak_of_isAlpha {c : Char} (h : c.isAlpha = true) : Text.isBreak c = false := by
  have hrange : 65 ≤ c.toNat ∧ c.toNat ≤ 122 := by
    have hcase : (decide (65 ≤ c.toNat ∧ c.toNat ≤ 90)
        || (decide (97 ≤ c.toNat) && decide (c.toNat ≤ 122))) = true := h
    simp only [Bool.or_eq_true, Bool.and_eq_true, decide_eq_true_eq] at hcase
    omega
  simp only [Text.isBreak, Bool.or_eq_false_iff, Bool.and_eq_false_imp, decide_eq_true_eq,
    decide_eq_false_iff_not, beq_eq_false_iff_ne]
  omega

theorem unbroken_fieldLine {line : List Char} {t : TagLine} {m : Mention} {r : String}
    (hline : Text.IsLine line) (he : isPlainEnd (Text.terminator line) = true)
    (ht : mentioned? line = some (t, m)) (hr : Text.Unbroken r.toList) :
    Text.Unbroken (fieldLine t r) ∧ fieldLine t r ≠ [] := by
  obtain ⟨t', htag, hm⟩ := Option.bind_eq_some_iff.mp ht
  obtain ⟨m', -, hm⟩ := Option.bind_eq_some_iff.mp hm
  cases hm
  obtain ⟨hbefore, hname, -⟩ := tagLine?_eq_some htag
  have hbody := hline.unbroken_body (ending_of_isPlainEnd he)
  refine ⟨fun c hc => ?_, by simp [fieldLine]⟩
  rw [fieldLine, List.mem_append, List.mem_cons, List.mem_append, List.mem_cons] at hc
  rcases hc with hc | rfl | hc | rfl | hc
  · exact hbody c (hbefore c hc)
  · rfl
  · exact not_isBreak_of_isAlpha (hname c hc)
  · rfl
  · exact hr c hc

theorem plainLines_standsFor {line : List Char} {xs : List (List Char)}
    (hline : Text.IsLine line) (he : isPlainEnd (Text.terminator line) = true)
    (hr : RendersPlain disk base strict line) (h : standsFor disk base strict line = .ok xs) :
    PlainLines xs ∧ (Text.terminator line ≠ [] → ∀ x ∈ xs, Closed x) := by
  unfold standsFor standsForWith at h
  split at h
  · cases h
    refine ⟨⟨fun x hx => List.mem_singleton.mp hx ▸ hline, by simp⟩, fun hne x hx => ?_⟩
    obtain ⟨s, hs, hunbroken⟩ := hline.exists_unbroken
    rw [List.mem_singleton.mp hx, hs]
    exact closed_append hunbroken he hne
  · rename_i t m hm
    obtain ⟨rendered, hd, h⟩ := bind_eq_ok.mp h
    cases h
    refine plainLines_endedBy he fun b hb => ?_
    obtain ⟨r, hmem, rfl⟩ := List.mem_map.mp hb
    exact unbroken_fieldLine hline he hm (hr t m rendered hm hd r hmem)

theorem terminator_ne_nil {a b : List Char} (ha : Text.IsLine a) (h : Text.Apart a b) :
    Text.terminator a ≠ [] := by
  intro he
  obtain ⟨⟨c, hc, hbreak⟩, -⟩ := h
  obtain ⟨s, hs, hunbroken⟩ := ha.exists_unbroken
  rw [he, List.append_nil] at hs
  rw [hs] at hc
  rw [hunbroken c (List.mem_of_getLast? hc)] at hbreak
  cases hbreak

theorem plainLines_mapM : ∀ {ls : List (List Char)} {xss : List (List (List Char))},
    (∀ line ∈ ls, Text.IsLine line) → ls.IsChain Text.Apart →
    (∀ line ∈ ls, isPlainEnd (Text.terminator line) = true ∧ RendersPlain disk base strict line) →
    ls.mapM (standsFor disk base strict) = .ok xss → PlainLines xss.flatten
  | [], _, _, _, _, h => by
    cases h
    exact ⟨by simp, by simp⟩
  | line :: rest, xss, hlines, hchain, hplain, h => by
    rw [List.mapM_cons] at h
    obtain ⟨xs, hxs, h⟩ := bind_eq_ok.mp h
    obtain ⟨others, hothers, h⟩ := bind_eq_ok.mp h
    cases h
    obtain ⟨hline, hlines⟩ := List.forall_mem_cons.mp hlines
    obtain ⟨hapart, hchain⟩ := List.isChain_cons.mp hchain
    obtain ⟨⟨he, hr⟩, hplain⟩ := List.forall_mem_cons.mp hplain
    obtain ⟨hfirst, hclosed⟩ := plainLines_standsFor hline he hr hxs
    rw [List.flatten_cons]
    cases rest with
    | nil =>
      cases hothers
      simpa using hfirst
    | cons next rest =>
      exact .append (hclosed (terminator_ne_nil hline (hapart next rfl)))
        (plainLines_mapM hlines hchain hplain hothers)

/-! ## §3 A text of two lines -/

/-- A node that is a field. -/
def fieldNode (description : String) : Value :=
  .mapping [(.text "type", .text "string"), (.text "description", .text description)]

/-- A schema with one field. -/
def fieldSchema (description : String) : Value :=
  .mapping [(.text "type", .text "object"),
    (.text "properties", .mapping [(.text "a", fieldNode description)])]

/-- A disk with a schema of this kind in one file; the description is written as in a text between
quotes. -/
def schemaDisk (description : String) : Disk :=
  ⟨⟨[(["s.json"], .file (Text.encode ("\x7b\"type\": \"object\", \"properties\": \x7b\"a\": \x7b"
    ++ "\"type\": \"string\", \"description\": \"" ++ description ++ "\"\x7d\x7d\x7d")))]⟩,
    .absolute []⟩

def holdsFieldSchema (description : String) : Except Failure Value → Bool
  | .ok (.mapping [(.text "type", .text "object"), (.text "properties", .mapping [(.text "a",
      .mapping [(.text "type", .text "string"), (.text "description", .text d)])])]) =>
    d == description
  | _ => false

theorem eq_of_holdsFieldSchema {description : String} {x : Except Failure Value}
    (h : holdsFieldSchema description x = true) : x = .ok (fieldSchema description) := by
  unfold holdsFieldSchema at h
  split at h
  · rw [beq_iff_eq.mp h]
    rfl
  · cases h

theorem descriptionOf_fieldNode (description : String) :
    Descriptor.descriptionOf (fieldNode description) = .ok description := by
  by_cases h : description = ""
  · subst h
    rfl
  · have hgiven : (Value.text description).isGiven = true := by simp [Value.isGiven, h]
    have htitle : Descriptor.fact (fieldNode description) "title" = .null := rfl
    have hnull : Value.null.isGiven = false := rfl
    have hfact : Descriptor.fact (fieldNode description) "description" = .text description := rfl
    rw [Descriptor.descriptionOf, htitle, hfact, hnull, hgiven]
    rfl

theorem ofSchema_fieldSchema (description : String) : Fields.ofSchema (fieldSchema description)
    = .ok [⟨.integer 0, .text "a", false, "string", none, description⟩] := by
  have hleaf : (fieldNode description).shape = .leaf := rfl
  have hrequired : (Value.set []).contains (.text "a") = .ok false := rfl
  have htype : Descriptor.leafType (fieldNode description) = .ok "string" := rfl
  have hmapping : (fieldNode description).isMapping = true := rfl
  have hwalk : Fields.ofProperties (.integer 0) (.set [])
      (.mapping [(.text "a", fieldNode description)])
      = .ok [⟨.integer 0, .text "a", false, "string", none, description⟩] := by
    rw [Fields.ofProperties]
    simp only [Value.bare]
    rw [Fields.ofEntries, Fields.ofEntries, Fields.ofProperty_of_leaf hleaf, hrequired, ok_bind,
      Descriptor.ofLeaf, if_pos hmapping, htype, ok_bind, descriptionOf_fieldNode]
    rfl
  have hroot : Fields.ofSchema (fieldSchema description)
      = orFail (Fields.ofProperties (.integer 0) (.set [])
        (.mapping [(.text "a", fieldNode description)])) := rfl
  rw [hroot, hwalk]
  rfl

theorem linesOf_fieldSchema (description : String) :
    Fields.linesOf (fieldSchema description) Descriptor.defaultPad
      = .ok ["\x7bstring\x7d [a] " ++ description] := by
  rw [Fields.linesOf, ofSchema_fieldSchema]
  rfl

theorem describe_fieldSchema {description path : String}
    (h : holdsFieldSchema description (Resolve.file disk base strict path).result = true) :
    (Tag.describe disk base strict ⟨none, path⟩).result
      = .ok ["\x7bstring\x7d [a] " ++ description] := by
  rw [Tag.describe_result, eq_of_holdsFieldSchema h, ok_bind, linesOf_fieldSchema]
  rfl

theorem standsForWith_of_none {line : List Char} (h : mentioned? line = none)
    (terminator : List Char) : standsForWith disk base strict terminator line = .ok [line] := by
  rw [standsForWith, h]

theorem standsForWith_of_fieldSchema {line : List Char} {t : TagLine} {description path : String}
    (hm : mentioned? line = some (t, ⟨none, path⟩))
    (h : holdsFieldSchema description (Resolve.file disk base strict path).result = true)
    (terminator : List Char) : standsForWith disk base strict terminator line
      = .ok [fieldLine t ("\x7bstring\x7d [a] " ++ description) ++ terminator] := by
  rw [standsForWith, hm]
  simp only [describe_fieldSchema h]
  rfl

variable {text : String} {first second : List Char} {xs ys : List (List Char)}

theorem expand_of_lines {out : String} (h : Text.lines text.toList = [first, second])
    (hxs : standsForWith disk base strict (Text.Line.ofList first).ending first = .ok xs)
    (hys : standsForWith disk base strict (Text.Line.ofList second).ending second = .ok ys)
    (hout : xs.flatten ++ ys.flatten = out.toList) :
    (expand disk base strict text).result = .ok out := by
  have hresult : (expand disk base strict text).result
      = .ok (String.ofList (xs.flatten ++ ys.flatten)) := by
    rw [expand, h]
    simp only [expandLines, Logged.bind_result, expandLine_result, hxs, hys]
    simp [Except.map, Except.bind]
  rw [hresult, hout, String.ofList_toList]

theorem expectedLines_of_lines (h : Text.lines text.toList = [first, second])
    (hxs : standsFor disk base strict first = .ok xs)
    (hys : standsFor disk base strict second = .ok ys) :
    expectedLines disk base strict text = .ok (xs ++ ys) := by
  rw [expectedLines, h]
  simp [hxs, hys, Except.map]

theorem holdsFieldSchema_empty : holdsFieldSchema ""
    (Resolve.file (schemaDisk "") (.absolute []) false "s.json").result = true := by
  decide +kernel

theorem mentioned?_lf : mentioned? " * @apiParam \x7bschema\x7d s.json\n".toList
    = some (⟨" * ", Tag.ofContent "apiParam" "\x7bschema\x7d s.json"⟩, ⟨none, "s.json"⟩) := rfl

theorem mentioned?_end : mentioned? " */\n".toList = none := rfl

/-! ## §4 The lines of an expanded text -/

/-- An expanded text is what its lines stand for, if the end of each is known. -/
theorem expand_ok {text out : String} (h : (expand disk base strict text).result = .ok out) :
    ∃ xss, (Text.lines text.toList).mapM (standsFor disk base strict) = .ok xss ∧
      (out.toList = xss.flatten.flatten ↔
        ∀ line ∈ Text.lines text.toList, EndKnown disk base strict line) := by
  obtain ⟨xss, hxss, -, hiff⟩ := expandLines_ok (expand_eq_ok.mp h)
  exact ⟨xss, hxss, hiff⟩

/-- **An expanded text consists of the lines that its lines stand for**, in order, exactly if the
end of every line with a mention is known, and these lines are lines that stay apart. -/
theorem lines_expand_iff {text out : String}
    (h : (expand disk base strict text).result = .ok out) :
    ∃ xs, expectedLines disk base strict text = .ok xs ∧
      (Text.lines out.toList = xs ↔
        (∀ line ∈ Text.lines text.toList, EndKnown disk base strict line) ∧
        (∀ x ∈ xs, Text.IsLine x) ∧ xs.IsChain Text.Apart) := by
  obtain ⟨xss, hxss, hiff⟩ := expand_ok h
  refine ⟨xss.flatten, by rw [expectedLines, hxss]; rfl, ?_⟩
  rw [← hiff, ← Text.lines_flatten_iff]
  constructor
  · intro heq
    have hout : out.toList = xss.flatten.flatten := by
      rw [← heq, Text.flatten_lines]
    rw [hout] at heq
    exact ⟨hout, heq⟩
  · rintro ⟨hout, heq⟩
    rw [hout]
    exact heq

/-- A mention whose line ends in a line feed. -/
theorem lines_expand_lf : ∃ out xs,
    (expand (schemaDisk "") (.absolute []) false " * @apiParam \x7bschema\x7d s.json\n */\n").result
      = .ok out ∧
    expectedLines (schemaDisk "") (.absolute []) false " * @apiParam \x7bschema\x7d s.json\n */\n"
      = .ok xs ∧
    Text.lines out.toList = xs ∧ (∀ x ∈ xs, Text.IsLine x) ∧ xs.IsChain Text.Apart := by
  have hlines : Text.lines " * @apiParam \x7bschema\x7d s.json\n */\n".toList
      = [" * @apiParam \x7bschema\x7d s.json\n".toList, " */\n".toList] := by decide +kernel
  have hrun : (expand (schemaDisk "") (.absolute []) false
      " * @apiParam \x7bschema\x7d s.json\n */\n").result
      = .ok " * @apiParam \x7bstring\x7d [a] \n */\n" :=
    expand_of_lines hlines (standsForWith_of_fieldSchema mentioned?_lf holdsFieldSchema_empty _)
      (standsForWith_of_none mentioned?_end _) (by decide +kernel)
  have hexpected := expectedLines_of_lines hlines
    (standsForWith_of_fieldSchema mentioned?_lf holdsFieldSchema_empty _)
    (standsForWith_of_none mentioned?_end _)
  obtain ⟨xs, hxs, hiff⟩ := lines_expand_iff hrun
  have hsame := Except.ok.inj (hxs.symm.trans hexpected)
  have hkept : Text.lines " * @apiParam \x7bstring\x7d [a] \n */\n".toList = xs := by
    rw [hsame]
    decide +kernel
  exact ⟨_, xs, hrun, hxs, hkept, (hiff.mp hkept).2⟩

/-- A mention whose line ends in a form feed: the next line is glued to what it stands for. -/
theorem lines_expand_formFeed :
    (expand (schemaDisk "") (.absolute []) false
        " * @apiParam \x7bschema\x7d s.json\x0c */\n").result
      = .ok " * @apiParam \x7bstring\x7d [a]  */\n" ∧
    expectedLines (schemaDisk "") (.absolute []) false
        " * @apiParam \x7bschema\x7d s.json\x0c */\n"
      = .ok [" * @apiParam \x7bstring\x7d [a] \x0c".toList, " */\n".toList] ∧
    Text.lines " * @apiParam \x7bstring\x7d [a]  */\n".toList
      ≠ [" * @apiParam \x7bstring\x7d [a] \x0c".toList, " */\n".toList] := by
  have hmention : mentioned? " * @apiParam \x7bschema\x7d s.json\x0c".toList
      = some (⟨" * ", Tag.ofContent "apiParam" "\x7bschema\x7d s.json\x0c"⟩, ⟨none, "s.json"⟩) := by
    decide +kernel
  have hlines : Text.lines " * @apiParam \x7bschema\x7d s.json\x0c */\n".toList
      = [" * @apiParam \x7bschema\x7d s.json\x0c".toList, " */\n".toList] := by decide +kernel
  refine ⟨?_, ?_, by decide +kernel⟩
  · exact expand_of_lines hlines (standsForWith_of_fieldSchema hmention holdsFieldSchema_empty _)
      (standsForWith_of_none mentioned?_end _) (by decide +kernel)
  · rw [expectedLines_of_lines hlines
      (standsForWith_of_fieldSchema hmention holdsFieldSchema_empty _)
      (standsForWith_of_none mentioned?_end _)]
    exact congrArg Except.ok (by decide +kernel)

/-- A description with a line break: what stands behind it becomes a line without prefix. -/
example :
    (expand (schemaDisk "one\\ntwo") (.absolute []) false
        " * @apiParam \x7bschema\x7d s.json\n */\n").result
      = .ok " * @apiParam \x7bstring\x7d [a] one\ntwo\n */\n" ∧
    expectedLines (schemaDisk "one\\ntwo") (.absolute []) false
        " * @apiParam \x7bschema\x7d s.json\n */\n"
      = .ok [" * @apiParam \x7bstring\x7d [a] one\ntwo\n".toList, " */\n".toList] ∧
    Text.lines " * @apiParam \x7bstring\x7d [a] one\ntwo\n */\n".toList
      = [" * @apiParam \x7bstring\x7d [a] one\n".toList, "two\n".toList, " */\n".toList] := by
  have hfile : holdsFieldSchema "one\ntwo"
      (Resolve.file (schemaDisk "one\\ntwo") (.absolute []) false "s.json").result = true := by
    decide +kernel
  have hlines : Text.lines " * @apiParam \x7bschema\x7d s.json\n */\n".toList
      = [" * @apiParam \x7bschema\x7d s.json\n".toList, " */\n".toList] := by decide +kernel
  refine ⟨?_, ?_, by decide +kernel⟩
  · exact expand_of_lines hlines (standsForWith_of_fieldSchema mentioned?_lf hfile _)
      (standsForWith_of_none mentioned?_end _) (by decide +kernel)
  · rw [expectedLines_of_lines hlines (standsForWith_of_fieldSchema mentioned?_lf hfile _)
      (standsForWith_of_none mentioned?_end _)]
    exact congrArg Except.ok (by decide +kernel)

/-- So it does if the lines of the text end in LF or CR LF and the schemas are rendered without
line breaks. -/
theorem lines_expand_of_plain {text out : String}
    (h : (expand disk base strict text).result = .ok out)
    (hplain : ∀ line ∈ Text.lines text.toList,
      isPlainEnd (Text.terminator line) = true ∧ RendersPlain disk base strict line) :
    expectedLines disk base strict text = .ok (Text.lines out.toList) := by
  obtain ⟨xss, hxss, hiff⟩ := expand_ok h
  have hlines := plainLines_mapM (Text.isLine_of_mem_lines _) (Text.isChain_lines _) hplain hxss
  have hout : out.toList = xss.flatten.flatten := hiff.mpr fun line hline _ _ =>
    ending_of_isPlainEnd (hplain line hline).1
  rw [expectedLines, hxss, hout, Text.lines_flatten_iff.mpr ⟨hlines.lines, hlines.isChain⟩]
  rfl

end SchemaDoc.Source
