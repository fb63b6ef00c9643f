/-
SchemaDoc.Proofs.Source.Line — what becomes of a line of a source text.

A line stands for itself, or for one line per field of the schema that it
mentions, each behind the same prefix and with the same terminator
(`standsFor`). What is put in its place is that, except that the terminator is
lost where it is a line break that is not known as one (`EndKnown`).

§1 tag lines, §2 what a line stands for, §3 what becomes of a line.
-/
import SchemaDoc.Proofs.Tag
import SchemaDoc.Proofs.Text.Lines
import SchemaDoc.Source

namespace SchemaDoc.Source

variable {disk : Disk} {base : Path} {strict : Bool}

/-! ## §1 Tag lines -/

theorem mem_of_mem_withoutGap {c : Char} {s : List Char} (h : c ∈ withoutGap s) : c ∈ s :=
  List.mem_reverse.mp (List.dropWhile_subset _ (List.mem_reverse.mp h))

/-- The content of a tag stays within its line. -/
theorem not_mem_tagContent? {s content : List Char} (h : tagContent? s = some content) :
    '\n' ∉ content := by
  unfold tagContent? at h
  split at h
  · cases h
  · rename_i c rest _
    simp only at h
    generalize (if (c :: rest).getLast? = some '\n' then (c :: rest).dropLast else c :: rest)
      = line at h
    split at h
    · rename_i hcond
      cases h
      simp only [Bool.and_eq_true, Bool.not_eq_true', List.contains_eq_mem,
        decide_eq_false_iff_not] at hcond
      exact fun hm => hcond.2 (mem_of_mem_withoutGap hm)
    · cases h

/-- The name of a tag has letters only. -/
theorem isAlpha_of_tagName? {s name rest : List Char} (h : tagName? s = some (name, rest)) :
    ∀ c ∈ name, c.isAlpha = true := by
  unfold tagName? at h
  split at h
  · simp only at h
    split at h
    · cases h
    · cases h
      intro c hc
      rcases List.mem_cons.mp hc with rfl | hc
      · rfl
      rcases List.mem_cons.mp hc with rfl | hc
      · rfl
      rcases List.mem_cons.mp hc with rfl | hc
      · rfl
      exact List.all_eq_true.mp List.all_takeWhile c hc
  · cases h

/-- What is known of the tag in a line. -/
theorem tagLine?_eq_some {body : List Char} {t : TagLine} (h : tagLine? body = some t) :
    (∀ c ∈ t.before.toList, c ∈ body) ∧ (∀ c ∈ t.tag.spelling.toList, c.isAlpha = true) ∧
      '\n' ∉ t.tag.content.toList := by
  unfold tagLine? at h
  split at h
  · rename_i before behind hcut
    split at h
    · cases h
    · split at h
      · rename_i name rest hname
        obtain ⟨content, hcontent, rfl⟩ := Option.map_eq_some_iff.mp h
        refine ⟨fun c hc => ?_, fun c hc => ?_, ?_⟩
        · exact Text.cutOnce_subset hcut (by simpa using hc)
        · exact isAlpha_of_tagName? hname c (by simpa [Tag.ofContent] using hc)
        · simpa [Tag.ofContent] using not_mem_tagContent? hcontent
      · cases h
  · cases h

/-! ## §2 What a line stands for -/

/-- The tag in a line that mentions a schema, and the mention. -/
def mentioned? (line : List Char) : Option (TagLine × Mention) := do
  let t ← tagLine? (Text.Line.ofList line).body
  let m ← t.tag.mention?
  return (t, m)

/-- The line of a field in the place of a tag: prefix, tag and rendered line. -/
def fieldLine (t : TagLine) (rendered : String) : List Char :=
  t.before.toList ++ '@' :: (t.tag.spelling.toList ++ ' ' :: rendered.toList)

/-- Lines with the same terminator. Where there is none, a line feed stands between them. -/
def endedBy (terminator : List Char) : List (List Char) → List (List Char)
  | [] => []
  | [body] => [body ++ terminator]
  | body :: rest =>
    (body ++ if terminator.isEmpty then ['\n'] else terminator) :: endedBy terminator rest

/-- The lines that a line stands for, with a terminator. -/
def standsForWith (disk : Disk) (base : Path) (strict : Bool) (terminator line : List Char) :
    Except Failure (List (List Char)) :=
  match mentioned? line with
  | none => .ok [line]
  | some (t, m) => do
    let rendered ← (Tag.describe disk base strict m).result
    return endedBy terminator (rendered.map (fieldLine t))

/-- The lines that a line stands for: itself, or one line per field of the schema that it mentions,
with its own terminator. -/
def standsFor (disk : Disk) (base : Path) (strict : Bool) (line : List Char) :
    Except Failure (List (List Char)) :=
  standsForWith disk base strict (Text.terminator line) line

/-! ## §3 What becomes of a line -/

theorem endedBy_cons_cons (e body next : List Char) (rest : List (List Char)) :
    endedBy e (body :: next :: rest)
      = (body ++ if e.isEmpty then ['\n'] else e) :: endedBy e (next :: rest) := rfl

/-- Joined lines are the lines, each with its end. -/
theorem flatten_endedBy (ending : List Char) : ∀ {bodies : List (List Char)}, bodies ≠ [] →
    (endedBy ending bodies).flatten
      = (if ending.isEmpty then ['\n'] else ending).intercalate bodies ++ ending
  | [], h => absurd rfl h
  | [body], _ => by simp [endedBy]
  | body :: next :: rest, _ => by
    rw [endedBy_cons_cons, List.flatten_cons, flatten_endedBy ending (List.cons_ne_nil next rest)]
    simp

theorem text_withContent (t : TagLine) (rendered : String) :
    t.before.toList ++ (t.tag.withContent rendered).text.toList = fieldLine t rendered := by
  simp [fieldLine, Tag.withContent, Tag.textOf]

theorem replacement_eq (t : TagLine) (ending : List Char) (rendered : List String) :
    replacement t.before ending (rendered.map t.tag.withContent)
      = (endedBy ending (rendered.map (fieldLine t))).flatten := by
  have hmap : (rendered.map t.tag.withContent).map (fun tag => t.before.toList ++ tag.text.toList)
      = rendered.map (fieldLine t) := by
    rw [List.map_map]
    exact List.map_congr_left fun c _ => text_withContent t c
  unfold replacement
  rw [hmap]
  cases rendered with
  | nil => rfl
  | cons c rest =>
    rw [flatten_endedBy ending (by simp)]
    rfl

/-- What becomes of a line is what it stands for, with the terminator it is taken to have. -/
theorem expandLine_result (line : List Char) :
    (expandLine disk base strict line).result
      = (standsForWith disk base strict (Text.Line.ofList line).ending line).map List.flatten := by
  unfold expandLine standsForWith mentioned?
  cases ht : tagLine? (Text.Line.ofList line).body with
  | none =>
    simp only [ht]
    simp [Except.map]
  | some t =>
    cases hm : t.tag.mention? with
    | none =>
      simp only [ht, Tag.expand, hm]
      simp [hm, Except.map, Except.bind]
    | some m =>
      simp only [ht, Tag.expand, hm, Logged.bind_result]
      cases hd : (Tag.describe disk base strict m).result with
      | error f => simp [hm, hd, Except.map, Except.bind]
      | ok rendered =>
        have hne := Tag.map_withContent_ne hm hd (tagLine?_eq_some ht).2.2
        simp [hm, hd, Except.map, Except.bind, hne, replacement_eq]

/-- A line whose mention stands for lines at all is taken to have the terminator that it has. -/
def EndKnown (disk : Disk) (base : Path) (strict : Bool) (line : List Char) : Prop :=
  mentioned? line ≠ none → standsFor disk base strict line ≠ .ok [] →
    (Text.Line.ofList line).ending = Text.terminator line

/-- How long lines are, with their ends. The last one has none if the others got an LF for want of
an end. -/
theorem length_flatten_endedBy {e s : List Char} (hs : s = if e.isEmpty then ['\n'] else e) :
    ∀ bodies : List (List Char), bodies ≠ [] → (endedBy e bodies).flatten.length + s.length
      = bodies.flatten.length + bodies.length * s.length + e.length
  | [], h => absurd rfl h
  | [body], _ => by
    simp [endedBy]
    omega
  | body :: next :: rest, _ => by
    have ih := length_flatten_endedBy hs (next :: rest) (List.cons_ne_nil next rest)
    rw [endedBy_cons_cons, ← hs]
    simp only [List.flatten_cons, List.length_append, List.length_cons, Nat.add_mul] at ih ⊢
    omega

theorem endedBy_eq_nil {terminator : List Char} {bodies : List (List Char)} :
    endedBy terminator bodies = [] ↔ bodies = [] := by
  cases bodies with
  | nil => simp [endedBy]
  | cons b rest => cases rest <;> simp [endedBy]

/-- No more comes of a line than it stands for, and all of it unless its end is not known. -/
theorem flatten_standsForWith {line : List Char} {xs ys : List (List Char)}
    (hxs : standsFor disk base strict line = .ok xs)
    (hys : standsForWith disk base strict (Text.Line.ofList line).ending line = .ok ys) :
    ys.flatten.length ≤ xs.flatten.length ∧
      (ys.flatten = xs.flatten ↔ EndKnown disk base strict line) := by
  rcases Text.ending_eq_terminator line with he | ⟨he, c, hc, -⟩
  · rw [he] at hys
    have : ys = xs := Except.ok.inj (hys.symm.trans hxs)
    subst this
    exact ⟨Nat.le_refl _, fun _ _ _ => he, fun _ => rfl⟩
  · have hunknown : (Text.Line.ofList line).ending ≠ Text.terminator line := by simp [he, hc]
    unfold EndKnown
    rw [hxs]
    unfold standsFor standsForWith at hxs
    unfold standsForWith at hys
    cases hm : mentioned? line with
    | none =>
      rw [hm] at hxs hys
      cases hxs
      cases hys
      simp
    | some tm =>
      rw [hm] at hxs hys
      obtain ⟨rendered, hd, hxs⟩ := bind_eq_ok.mp hxs
      simp only [hd, ok_bind] at hys
      rw [he] at hys
      rw [hc] at hxs
      cases hxs
      cases hys
      cases rendered with
      | nil => simp [endedBy]
      | cons r rest =>
        have hempty := length_flatten_endedBy (e := []) (s := ['\n']) rfl
          ((r :: rest).map (fieldLine tm.1)) (by simp)
        have hone := length_flatten_endedBy (e := [c]) (s := [c]) rfl
          ((r :: rest).map (fieldLine tm.1)) (by simp)
        have hlt : (endedBy [] ((r :: rest).map (fieldLine tm.1))).flatten.length
            < (endedBy [c] ((r :: rest).map (fieldLine tm.1))).flatten.length := by
          simp only [List.length_nil, List.length_singleton] at hempty hone
          omega
        refine ⟨Nat.le_of_lt hlt, fun heq => ?_, fun hknown => ?_⟩
        · rw [heq] at hlt
          exact absurd hlt (Nat.lt_irrefl _)
        · refine absurd (hknown (by simp) ?_) hunknown
          simp [endedBy_eq_nil]

theorem exists_standsFor {terminator line : List Char} {ys : List (List Char)}
    (h : standsForWith disk base strict terminator line = .ok ys) :
    ∃ xs, standsFor disk base strict line = .ok xs := by
  unfold standsFor
  unfold standsForWith at h ⊢
  split at h
  · exact ⟨_, rfl⟩
  · obtain ⟨rendered, hd, -⟩ := bind_eq_ok.mp h
    simp only [hd]
    exact ⟨_, rfl⟩

end SchemaDoc.Source
