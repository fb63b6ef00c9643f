/-
SchemaDoc.Proofs.Descriptor — a rendered line can be read in one way only.

Nothing in a line is escaped: braces may stand in the type expression, brackets,
blanks and braces in the strings of a default, and the description is any text.
Still, each part ends where the next one begins. The type expression ends at the
first brace with a blank behind it, a bracket behind that says that the field is
optional, the pads end at the first letter of the name and the name at the first
character that is none of a name. The default ends where compact JSON stops, and
all that is left is the description (`render_injective`).

§1 where a part ends, §2 lines, §3 reading a line.
-/
import SchemaDoc.Descriptor.Basic
import SchemaDoc.Proofs.Failing
import SchemaDoc.Proofs.Json.Extent
import SchemaDoc.Proofs.Text.Cut

namespace SchemaDoc

/-! ## §1 Where a part ends -/

namespace Text

/-- A text ends at the first occurrence of two different characters behind it, one after the other. -/
theorem eq_of_append_pair_eq {a b : Char} (hab : a ≠ b) {s t x y : List Char}
    (hs : ¬[a, b] <:+: s) (ht : ¬[a, b] <:+: t) (h : s ++ a :: b :: x = t ++ a :: b :: y) :
    s = t ∧ x = y := by
  -- The longer one would hold both characters, or the first one be the second.
  have hlonger : ∀ {s u x y : List Char}, ¬[a, b] <:+: s ++ u →
      a :: b :: x = u ++ a :: b :: y → u = [] := by
    rintro s (_ | ⟨c, _ | ⟨d, u⟩⟩) x y hno hu
    · rfl
    · simp only [List.cons_append, List.nil_append, List.cons.injEq] at hu
      exact absurd hu.2.1.symm hab
    · simp only [List.cons_append, List.cons.injEq] at hu
      obtain ⟨rfl, rfl, -⟩ := hu
      exact absurd ⟨s, u, by simp⟩ hno
  rcases List.append_eq_append_iff.mp h with ⟨u, rfl, hu⟩ | ⟨u, rfl, hu⟩
  · obtain rfl := hlonger ht hu
    exact ⟨(List.append_nil s).symm, by simpa using hu⟩
  · obtain rfl := hlonger hs hu
    exact ⟨List.append_nil t, by simpa using hu.symm⟩

end Text

/-! ## §2 Lines -/

/-- A character of a plain name: a letter, a digit or an underscore. -/
def isPlainChar (c : Char) : Bool := c.isAlphanum || c == '_'

namespace Descriptor

/-- A descriptor whose line can be read back: its depth is a count, its name is plain, and no blank
follows a brace in its type expression. -/
structure IsPlain (d : Descriptor) (depth : Nat) (name : String) : Prop where
  depth_eq : d.depth = .integer depth
  name_eq : d.name = .text name
  name_ne : name ≠ ""
  plain : ∀ c ∈ name.toList, isPlainChar c = true
  unclosed : ¬['\x7d', ' '] <:+: d.typeExpression.toList

/-- The text of the default, if one is given. -/
def defaultText (d : Descriptor) : Except Fault (Option String) :=
  (d.default.filter Value.isGiven).mapM Value.compactJson

/-- A default behind its equals sign. -/
def marked : Option String → List Char
  | some json => '=' :: json.toList
  | none => []

/-- What stands behind name and default. -/
def ending (required : Bool) (description : String) : List Char :=
  (if required then [] else [']']) ++ ' ' :: description.toList

/-- What stands behind the type expression. -/
def shown (required : Bool) (depth : Nat) (name : String) (default : Option String)
    (description : String) : List Char :=
  (if required then [] else ['[']) ++
    (List.replicate depth ' ' ++ (name.toList ++ (marked default ++ ending required description)))

variable {d e : Descriptor} {depth depth' : Nat} {name name' line : String}

theorem eq_of_mul {v : Value} (h : defaultPad.mul (.integer depth) = .ok v) :
    v = .text (String.ofList (List.replicate depth ' ')) := by
  have hletters : Text.letters " ".toList = [[' ']] := rfl
  have hmul : defaultPad.mul (.integer depth) = defaultPad.repeated depth := rfl
  rw [hmul, Value.repeated] at h
  split at h
  · cases h
  · simp only [defaultPad, Value.text, Value.bare, hletters] at h
    obtain ⟨letters, hrepeated, hv⟩ := bind_eq_ok.mp h
    unfold Value.repeatedList at hrepeated
    simp only [List.isEmpty_cons, Bool.false_eq_true, if_false] at hrepeated
    split at hrepeated
    · cases hrepeated
    · split at hrepeated
      · cases hrepeated
      · cases hrepeated
        cases hv
        simp

theorem paddedName_eq (hd : IsPlain d depth name) {v : Value}
    (h : d.paddedName defaultPad = .ok v) :
    v = .text (String.ofList (List.replicate depth ' ') ++ name) := by
  obtain ⟨space, hspace, hadd⟩ := bind_eq_ok.mp h
  rw [hd.depth_eq] at hspace
  obtain rfl := eq_of_mul hspace
  rw [hd.name_eq, Value.add_text] at hadd
  exact (Except.ok.inj hadd).symm

theorem withDefault_eq {s : String} {v : Value}
    (h : Expression.withDefault (.text s) d.default = .ok v) : ∃ default,
      d.defaultText = .ok default ∧ v = .text (s ++ String.ofList (marked default)) := by
  unfold Expression.withDefault at h
  unfold defaultText
  cases hdefault : d.default.filter Value.isGiven with
  | none =>
    rw [hdefault] at h
    refine ⟨none, rfl, ?_⟩
    rw [← Except.ok.inj h]
    simp [marked]
  | some value =>
    rw [hdefault] at h
    obtain ⟨json, hjson, hextend⟩ := bind_eq_ok.mp h
    refine ⟨some json, by simp [hjson], ?_⟩
    rw [← Except.ok.inj hextend]
    simp [marked]

/-- **The line of a plain descriptor**, part by part. -/
theorem toList_render (hd : IsPlain d depth name) (h : d.render defaultPad = .ok line) :
    ∃ default, d.defaultText = .ok default ∧
      line.toList = '\x7b' :: (d.typeExpression.toList ++
        '\x7d' :: ' ' :: shown d.required depth name default d.description) := by
  obtain ⟨padded, hpadded, h⟩ := bind_eq_ok.mp h
  obtain rfl := paddedName_eq hd hpadded
  obtain ⟨full, hfull, h⟩ := bind_eq_ok.mp h
  obtain ⟨named, hnamed, hfull⟩ := bind_eq_ok.mp hfull
  obtain ⟨default, hdefault, rfl⟩ := withDefault_eq hnamed
  refine ⟨default, hdefault, ?_⟩
  cases hrequired : d.required with
  | true =>
    rw [hrequired] at hfull
    cases hfull
    cases h
    simp [Expression.lineOf, shown, ending]
  | false =>
    rw [hrequired] at hfull
    cases hfull
    cases h
    simp [Expression.lineOf, shown, ending]

/-- The text of a default is passed over by a scan. -/
theorem passes_of_defaultText {json : String} (h : d.defaultText = .ok (some json)) :
    Json.Passes json.toList := by
  unfold defaultText at h
  cases hdefault : d.default.filter Value.isGiven with
  | none =>
    rw [hdefault] at h
    cases h
  | some value =>
    rw [hdefault, Option.mapM_some] at h
    obtain ⟨text, hwritten, hjson⟩ := bind_eq_ok.mp h
    obtain rfl := Option.some.inj (Except.ok.inj hjson)
    obtain ⟨written, hrender, rfl⟩ := map_eq_ok.mp hwritten
    unfold Json.render at hrender
    split at hrender
    · cases hrender
    · cases hrender
      rw [String.toList_ofList]
      exact Json.passes_write _

/-! ## §3 Reading a line -/

theorem head?_ending (required : Bool) (description : String) :
    ∀ c ∈ (ending required description).head?, c = ' ' ∨ c = ']' := by
  cases required <;> simp [ending]

/-- A default ends where compact JSON stops, and if there is none, no equals sign follows the name. -/
theorem marked_eq {default default' : Option String} {required : Bool}
    {description description' : String} (hdefault : d.defaultText = .ok default)
    (hdefault' : e.defaultText = .ok default')
    (h : marked default ++ ending required description
      = marked default' ++ ending required description') :
    default = default' ∧ description = description' := by
  have hending : ending required description = ending required description' →
      description = description' := fun h => by
    simpa [ending, String.toList_inj] using h
  have hequals : ∀ {json : String} {x y : String},
      marked (some json) ++ ending required x ≠ ending required y := by
    intro json x y h
    have := head?_ending required y '=' (h ▸ rfl)
    simp at this
  cases default with
  | none => cases default' with
    | none => exact ⟨rfl, hending h⟩
    | some json' => exact absurd h.symm hequals
  | some json => cases default' with
    | none => exact absurd h hequals
    | some json' =>
      have htexts := (List.cons.inj h).2
      have hstop : ∀ description, ∃ c rest, ending required description = c :: rest ∧
          (c = ' ' ∨ c = ']') := fun description => by
        cases required <;> simp [ending]
      obtain ⟨c, rest, hrest, hc⟩ := hstop description
      obtain ⟨c', rest', hrest', hc'⟩ := hstop description'
      rw [hrest, hrest'] at htexts
      obtain ⟨hjson, hbehind⟩ := (passes_of_defaultText hdefault).eq_of_append_eq
        (passes_of_defaultText hdefault') hc hc' htexts
      rw [← hrest, ← hrest'] at hbehind
      exact ⟨congrArg some (String.toList_inj.mp hjson), hending hbehind⟩

/-- No plain character stands behind the name. -/
theorem head?_marked (default : Option String) (required : Bool) (description : String) :
    ∀ c ∈ (marked default ++ ending required description).head?, isPlainChar c = false := by
  cases default with
  | none =>
    intro c hc
    rcases head?_ending required description c hc with rfl | rfl <;> rfl
  | some json =>
    intro c hc
    obtain rfl := Option.some.inj hc
    rfl

/-- A plain name begins with no blank and no bracket. -/
theorem IsPlain.head_name (hd : IsPlain d depth name) (rest : List Char) :
    ∃ c, (name.toList ++ rest).head? = some c ∧ c ≠ ' ' ∧ c ≠ '[' := by
  cases hname : name.toList with
  | nil => exact absurd (String.toList_eq_nil_iff.mp hname) hd.name_ne
  | cons c cs =>
    have hc := hd.plain c (hname ▸ List.mem_cons_self ..)
    refine ⟨c, rfl, ?_, ?_⟩
    · rintro rfl
      cases hc
    · rintro rfl
      cases hc

/-- So the pads end where the name begins. -/
theorem IsPlain.head?_name (hd : IsPlain d depth name) (rest : List Char) :
    ∀ c ∈ (name.toList ++ rest).head?, (c == ' ') = false := by
  intro c hc
  obtain ⟨c', hc', hne, -⟩ := hd.head_name rest
  obtain rfl := Option.some.inj (hc'.symm.trans hc)
  simpa using hne

/-- And neither the pads nor the name are taken for a bracket. -/
theorem IsPlain.head?_pads_ne (hd : IsPlain d depth name) (rest : List Char) :
    (List.replicate depth ' ' ++ (name.toList ++ rest)).head? ≠ some '[' := by
  obtain ⟨c, hc, -, hne⟩ := hd.head_name rest
  cases depth with
  | zero => simpa [hc] using hne
  | succ n => simp [List.replicate_succ]

/-- A bracket behind the type expression says that the field is optional. -/
theorem required_eq (hd : IsPlain d depth name) (he : IsPlain e depth' name')
    {required required' : Bool} {default default' : Option String}
    {description description' : String} (h : shown required depth name default description
      = shown required' depth' name' default' description') : required = required' := by
  cases required with
  | true => cases required' with
    | true => rfl
    | false => exact absurd (congrArg List.head? h) (hd.head?_pads_ne _)
  | false => cases required' with
    | true => exact absurd (congrArg List.head? h).symm (he.head?_pads_ne _)
    | false => rfl

/-- **A rendered line can be read in one way only.** Whatever stands in the defaults and in the
descriptions, plain descriptors with the same line have the same parts. -/
theorem render_injective (hd : IsPlain d depth name) (he : IsPlain e depth' name')
    (h : d.render defaultPad = .ok line) (h' : e.render defaultPad = .ok line) :
    d.typeExpression = e.typeExpression ∧ depth = depth' ∧ name = name' ∧
      d.required = e.required ∧ d.description = e.description ∧
      ∃ text, d.defaultText = .ok text ∧ e.defaultText = .ok text := by
  obtain ⟨default, hdefault, hline⟩ := toList_render hd h
  obtain ⟨default', hdefault', hline'⟩ := toList_render he h'
  rw [hline] at hline'
  obtain ⟨htype, hshown⟩ := Text.eq_of_append_pair_eq (by decide) hd.unclosed he.unclosed
    (List.cons.inj hline').2
  have hrequired := required_eq hd he hshown
  rw [← hrequired] at hshown
  have hnamed := List.append_cancel_left hshown
  -- The pads end at the first character of the name, and the name in front of the next part.
  have hblank : ∀ n, ∀ c ∈ List.replicate n ' ', (c == ' ') = true := fun n c hc => by
    simp [List.eq_of_mem_replicate hc]
  obtain ⟨hpads, hnamed⟩ := Text.eq_of_append_eq_of_all (hblank _) (hblank _) (hd.head?_name _)
    (he.head?_name _) hnamed
  obtain ⟨hname, hmarked⟩ := Text.eq_of_append_eq_of_all hd.plain he.plain
    (head?_marked default _ _) (head?_marked default' _ _) hnamed
  obtain ⟨htext, hdescription⟩ := marked_eq hdefault hdefault' hmarked
  have hdepth : depth = depth' := by simpa using congrArg List.length hpads
  exact ⟨String.toList_inj.mp htype, hdepth, String.toList_inj.mp hname, hrequired, hdescription,
    default, hdefault, htext ▸ hdefault'⟩

/-- A field with a description that looks like more of its line. -/
def crowded (default : Value) : Descriptor where
  depth := .integer 2
  name := .text "a_1"
  required := false
  typeExpression := "string\x7b1..5\x7d"
  default := some default
  description := "] \x7b\x7d [b=2] "

/-- Two defaults with the same text, a whole double and an integer behind a key with a bracket and a
blank. -/
theorem render_injective_crowded :
    ∃ line text,
      (crowded (.mapping [(.text "] ", .number (Binary64.ofInt 2))])).render defaultPad = .ok line ∧
      (crowded (.mapping [(.text "] ", .integer 2)])).render defaultPad = .ok line ∧
      (crowded (.mapping [(.text "] ", .number (Binary64.ofInt 2))])).defaultText = .ok text ∧
      (crowded (.mapping [(.text "] ", .integer 2)])).defaultText = .ok text := by
  have hopen : ¬['\x7d', ' '] <:+: "string\x7b1..5\x7d".toList := fun h =>
    absurd (h.subset (by simp)) (show ' ' ∉ "string\x7b1..5\x7d".toList by decide)
  have hname : "a_1".toList.all isPlainChar = true := by decide
  have hplain : ∀ v, IsPlain (crowded v) 2 "a_1" := fun v =>
    ⟨rfl, rfl, by decide, List.all_eq_true.mp hname, hopen⟩
  have hline : (crowded (.mapping [(.text "] ", .number (Binary64.ofInt 2))])).render defaultPad
      = .ok "\x7bstring\x7b1..5\x7d\x7d [  a_1=\x7b\"] \":2\x7d] ] \x7b\x7d [b=2] " :=
    toOption_eq_some.mp (by decide +kernel)
  have hline' : (crowded (.mapping [(.text "] ", .integer 2)])).render defaultPad
      = .ok "\x7bstring\x7b1..5\x7d\x7d [  a_1=\x7b\"] \":2\x7d] ] \x7b\x7d [b=2] " :=
    toOption_eq_some.mp (by decide +kernel)
  obtain ⟨-, -, -, -, -, text, htext, htext'⟩ :=
    render_injective (hplain _) (hplain _) hline hline'
  exact ⟨_, text, hline, hline', htext, htext'⟩

end Descriptor

end SchemaDoc
