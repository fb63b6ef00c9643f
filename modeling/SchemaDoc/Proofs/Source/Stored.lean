/-
SchemaDoc.Proofs.Source.Stored — what expanding a source file leaves in it.

A file is read with its line ends unified, and what is written is the expansion
of that text. So the lines that mention nothing keep all but their terminator:
CR LF and CR become LF. The file gets the expansion of the very text that it
holds exactly if no line with a CR is left (`store_expandFile_iff`); a file
without mentions is not written at all.

§1 lines with unified ends, §2 texts with unified ends, §3 files.
-/
import Mathlib.Data.List.Forall2
import SchemaDoc.Proofs.Files.Tree
import SchemaDoc.Proofs.Source.Drift
import SchemaDoc.Proofs.Text.Utf8

namespace SchemaDoc.Source

/-! ## §1 Lines with unified ends -/

theorem flatten_endedBy_cons {e : List Char} (he : e ≠ []) (body : List Char)
    (bodies : List (List Char)) :
    ∃ rest, (endedBy e (body :: bodies)).flatten = body ++ (e ++ rest) := by
  cases bodies with
  | nil => exact ⟨[], by simp [endedBy]⟩
  | cons next bodies => exact ⟨(endedBy e (next :: bodies)).flatten, by simp [endedBy, he]⟩

/-- Lines that end in LF are no longer than those that end in CR or CR LF, and not the same. -/
theorem flatten_endedBy_lf {e : List Char} (he : e = ['\r'] ∨ e = ['\r', '\n'])
    (bodies : List (List Char)) :
    (endedBy ['\n'] bodies).flatten.length ≤ (endedBy e bodies).flatten.length ∧
      ((endedBy ['\n'] bodies).flatten = (endedBy e bodies).flatten ↔
        (endedBy e bodies).flatten = []) := by
  cases bodies with
  | nil => simp [endedBy]
  | cons body bodies =>
    have hne : e ≠ [] := by rcases he with rfl | rfl <;> simp
    refine ⟨?_, ?_⟩
    · have hlf := length_flatten_endedBy (e := ['\n']) (s := ['\n']) rfl (body :: bodies)
        (List.cons_ne_nil _ _)
      have hcr := length_flatten_endedBy (e := e) (s := e) (if_neg (by simpa using hne)).symm
        (body :: bodies) (List.cons_ne_nil _ _)
      rcases he with rfl | rfl <;> simp only [List.length_cons, List.length_nil] at hlf hcr <;>
        omega
    · obtain ⟨rest, hrest⟩ := flatten_endedBy_cons hne body bodies
      obtain ⟨rest', hrest'⟩ := flatten_endedBy_cons (List.cons_ne_nil '\n' []) body bodies
      rw [hrest, hrest']
      constructor
      · intro h
        rcases he with rfl | rfl <;> cases List.append_cancel_left h
      · intro h
        rcases he with rfl | rfl <;> simp at h

variable {disk : Disk} {base : Path} {strict : Bool}

/-- A line with a CR, with its end unified: the same is mentioned, and the end is an LF. -/
theorem ofList_unifyNewlines {s e : List Char} (hs : Text.Unbroken s)
    (he : e = ['\r'] ∨ e = ['\r', '\n']) :
    Text.unifyNewlines (s ++ e) = s ++ ['\n'] ∧ Text.Line.ofList (s ++ e) = ⟨s, e⟩ ∧
      Text.Line.ofList (s ++ ['\n']) = ⟨s, ['\n']⟩ ∧
      mentioned? (s ++ ['\n']) = mentioned? (s ++ e) := by
  have hold : Text.Line.ofList (s ++ e) = ⟨s, e⟩ :=
    Text.Line.ofList_append hs (by rcases he with rfl | rfl <;> simp [Text.knownEnds])
  have hnew : Text.Line.ofList (s ++ ['\n']) = ⟨s, ['\n']⟩ :=
    Text.Line.ofList_append hs (by simp [Text.knownEnds])
  refine ⟨?_, hold, hnew, by rw [mentioned?, mentioned?, hold, hnew]⟩
  rw [Text.unifyNewlines_append hs]
  rcases he with rfl | rfl <;> rfl

theorem mentioned?_unifyNewlines {line : List Char} (hline : Text.IsLine line) :
    mentioned? (Text.unifyNewlines line) = mentioned? line := by
  by_cases hcr : '\r' ∈ line
  · obtain ⟨s, e, hs, rfl, he⟩ := hline.exists_of_cr hcr
    obtain ⟨hunified, -, -, hsame⟩ := ofList_unifyNewlines hs he
    rw [hunified, hsame]
  · rw [Text.unifyNewlines_of_not_mem hcr]

/-- What becomes of a line with its end unified is what becomes of the line, unless it has a CR and
something is left of it. -/
theorem expandLine_unifyNewlines {line y : List Char} (hline : Text.IsLine line)
    (h : (expandLine disk base strict (Text.unifyNewlines line)).result = .ok y) :
    ∃ x, (expandLine disk base strict line).result = .ok x ∧ y.length ≤ x.length ∧
      (y = x ↔ ('\r' ∈ line → x = [])) := by
  by_cases hcr : '\r' ∈ line
  · obtain ⟨s, e, hs, rfl, he⟩ := hline.exists_of_cr hcr
    obtain ⟨hunified, hold, hnew, hsame⟩ := ofList_unifyNewlines hs he
    rw [hunified, expandLine_result, hnew] at h
    obtain ⟨ys, hys, rfl⟩ := map_eq_ok.mp h
    rw [expandLine_result, hold]
    unfold standsForWith at hys ⊢
    rw [hsame] at hys
    cases hm : mentioned? (s ++ e) with
    | none =>
      rw [hm] at hys
      cases hys
      refine ⟨s ++ e, by simp [Except.map], ?_, ?_⟩
      · rcases he with rfl | rfl <;> simp
      · simp only [List.flatten_singleton, List.append_cancel_left_eq, hcr, forall_const]
        rcases he with rfl | rfl <;> simp
    | some tm =>
      rw [hm] at hys
      obtain ⟨contents, hd, h⟩ := bind_eq_ok.mp hys
      cases h
      obtain ⟨hle, hiff⟩ := flatten_endedBy_lf he (contents.map (fieldLine tm.1))
      refine ⟨_, by simp only [hd, ok_bind, pure_eq_ok, Except.map], hle, ?_⟩
      rw [hiff]
      exact ⟨fun h _ => h, fun h => h hcr⟩
  · rw [Text.unifyNewlines_of_not_mem hcr] at h
    exact ⟨y, h, Nat.le_refl _, fun _ hm => absurd hm hcr, fun _ => rfl⟩

/-! ## §2 Texts with unified ends -/

/-- What is written for a line: what becomes of it with its end unified. A line that mentions
nothing stays. -/
structure Rewritten (disk : Disk) (base : Path) (strict : Bool) (line block : List Char) :
    Prop where
  expanded : (expandLine disk base strict (Text.unifyNewlines line)).result = .ok block
  kept : mentioned? line = none → block = Text.unifyNewlines line

theorem rewritten_of_expandLine {line block : List Char} (hline : Text.IsLine line)
    (h : (expandLine disk base strict (Text.unifyNewlines line)).result = .ok block) :
    Rewritten disk base strict line block := by
  refine ⟨h, fun hnone => ?_⟩
  rw [← mentioned?_unifyNewlines hline] at hnone
  rw [expandLine_result, standsForWith, hnone] at h
  simpa [Except.map] using h.symm

theorem expandLines_unifyNewlines : ∀ {ls : List (List Char)} {y : List Char},
    (∀ line ∈ ls, Text.IsLine line) →
    (expandLines disk base strict (ls.map Text.unifyNewlines)).result = .ok y →
    ∃ x blocks, (expandLines disk base strict ls).result = .ok x ∧ y = blocks.flatten ∧
      List.Forall₂ (Rewritten disk base strict) ls blocks ∧ y.length ≤ x.length ∧
      (y = x ↔ ∀ line ∈ ls, '\r' ∈ line → (expandLine disk base strict line).result = .ok [])
  | [], y, _, h => by
    cases h
    exact ⟨[], [], rfl, rfl, .nil, Nat.le_refl _, by simp⟩
  | line :: rest, y, hlines, h => by
    rw [List.map_cons] at h
    obtain ⟨here, others, hhere, hothers, rfl⟩ := expandLines_cons_eq_ok.mp h
    obtain ⟨hline, hlines⟩ := List.forall_mem_cons.mp hlines
    obtain ⟨first, hfirst, hle, hiff⟩ := expandLine_unifyNewlines hline hhere
    obtain ⟨x, blocks, hx, rfl, hblocks, hles, hiffs⟩ := expandLines_unifyNewlines hlines hothers
    refine ⟨first ++ x, here :: blocks, expandLines_cons_eq_ok.mpr ⟨first, x, hfirst, hx, rfl⟩,
      by rw [List.flatten_cons],
      .cons (rewritten_of_expandLine hline hhere) hblocks, ?_, ?_⟩
    · simp only [List.length_append]
      omega
    · rw [List.forall_mem_cons, hfirst, ← hiffs]
      have hempty : ('\r' ∈ line → (Except.ok first : Except Failure _) = .ok []) ↔ here = first := by
        rw [hiff]
        exact forall_congr' fun _ => ⟨Except.ok.inj, congrArg Except.ok⟩
      rw [hempty]
      constructor
      · intro heq
        have hlength := congrArg List.length heq
        simp only [List.length_append] at hlength
        exact List.append_inj heq (by omega)
      · rintro ⟨rfl, rfl⟩
        rfl

/-- Expanding a text with unified line ends, and expanding the text. -/
theorem expand_unifyNewlines {text t : String}
    (h : (expand disk base strict (String.ofList (Text.unifyNewlines text.toList))).result
      = .ok t) :
    ∃ out blocks, (expand disk base strict text).result = .ok out ∧ t.toList = blocks.flatten ∧
      List.Forall₂ (Rewritten disk base strict) (Text.lines text.toList) blocks ∧
      (t = out ↔ ∀ line ∈ Text.lines text.toList, '\r' ∈ line →
        (expandLine disk base strict line).result = .ok []) := by
  rw [expand_eq_ok, String.toList_ofList, Text.lines_unifyNewlines] at h
  obtain ⟨x, blocks, hx, hflatten, hblocks, -, hiff⟩ :=
    expandLines_unifyNewlines (Text.isLine_of_mem_lines _) h
  refine ⟨String.ofList x, blocks, ?_, hflatten, hblocks, ?_⟩
  · rw [expand_eq_ok, hx, String.toList_ofList]
  · rw [← hiff, ← String.toList_inj, String.toList_ofList]

theorem mentions_unifyNewlines {text : String} :
    Mentions (String.ofList (Text.unifyNewlines text.toList)) ↔ Mentions text := by
  unfold Mentions
  rw [String.toList_ofList, Text.lines_unifyNewlines]
  have hsame := fun line hline =>
    mentioned?_unifyNewlines (Text.isLine_of_mem_lines text.toList line hline)
  constructor
  · rintro ⟨_, hmem, hm⟩
    obtain ⟨line, hline, rfl⟩ := List.mem_map.mp hmem
    exact ⟨line, hline, hsame line hline ▸ hm⟩
  · rintro ⟨line, hline, hm⟩
    exact ⟨_, List.mem_map.mpr ⟨line, hline, rfl⟩, (hsame line hline).symm ▸ hm⟩

/-! ## §3 Files -/

variable {path : Path} {bytes : List UInt8}

theorem read_eq_ok {text : String} (hopen : disk.openFile path = .ok bytes)
    (hdecode : Text.decode bytes = .ok text) :
    read disk path = .ok (String.ofList (Text.unifyNewlines text.toList)) := by
  rw [read, hopen, ok_bind, Load.text, hdecode]
  rfl

/-- Expanding a file is expanding the text that is read from it. -/
theorem exists_of_expandFile {text : String} {e : Expanded} (hread : read disk path = .ok text)
    (h : (expandFile disk base strict path).result = .ok e) :
    ∃ t, (expand disk base strict text).result = .ok t ∧ e = ⟨t != text, t⟩ := by
  cases ht : (expand disk base strict text).result with
  | ok t => exact ⟨t, rfl, Except.ok.inj (h.symm.trans (expandFile_result hread ht))⟩
  | error f =>
    unfold expandFile at h
    rw [Logged.bind_result, Logged.lift_result, hread] at h
    simp only [Except.bind, Logged.bind_result, ht] at h
    cases h

/-- What a file holds when its expansion is stored: what it held, or the new text. -/
theorem openFile_store {e : Expanded} (hopen : disk.openFile path = .ok bytes)
    (hstored : (store disk path e).fault = none) :
    (store disk path e).disk.openFile path
      = .ok (match (store disk path e).text with
        | none => bytes
        | some t => Text.encode t) ∧
      (store disk path e).text = if e.changed then some e.text else none := by
  unfold store at hstored ⊢
  split at hstored
  · rename_i hsame
    rw [if_pos hsame]
    exact ⟨hopen, by simp_all⟩
  · rename_i hchanged
    rw [if_neg hchanged]
    split at hstored
    · exact ⟨Disk.openFile_write hopen _, by simp_all⟩
    · cases hstored

/-- A text with a mention and another line, which end alike. -/
def mentionText (ending : String) : String :=
  " * @apiParam \x7bschema\x7d s.json" ++ ending ++ " */" ++ ending

/-- What becomes of it if the schema has one field. -/
def fieldText (ending : String) : String :=
  " * @apiParam \x7bstring\x7d [a] " ++ ending ++ " */" ++ ending

/-- A disk with such texts in two files, beside such a schema. -/
def sourceDisk : Disk :=
  ⟨⟨(["lf.js"], .file (Text.encode (mentionText "\n")))
    :: (["crlf.js"], .file (Text.encode (mentionText "\r\n"))) :: (schemaDisk "").tree.entries⟩,
    .absolute []⟩

theorem expand_mentionText {ending : String} (hending : ending = "\n" ∨ ending = "\r\n") :
    (expand sourceDisk (.absolute []) false (mentionText ending)).result
      = .ok (fieldText ending) := by
  have hfile : holdsFieldSchema ""
      (Resolve.file sourceDisk (.absolute []) false "s.json").result = true := by decide +kernel
  rcases hending with rfl | rfl
  · have hlines : Text.lines (mentionText "\n").toList
        = [" * @apiParam \x7bschema\x7d s.json\n".toList, " */\n".toList] := rfl
    exact expand_of_lines hlines (standsForWith_of_fieldSchema mentioned?_lf hfile _)
      (standsForWith_of_none mentioned?_end _) rfl
  · have hlines : Text.lines (mentionText "\r\n").toList
        = [" * @apiParam \x7bschema\x7d s.json\r\n".toList, " */\r\n".toList] := rfl
    have hmention : mentioned? " * @apiParam \x7bschema\x7d s.json\r\n".toList
        = some (⟨" * ", Tag.ofContent "apiParam" "\x7bschema\x7d s.json"⟩, ⟨none, "s.json"⟩) := rfl
    have hend : mentioned? " */\r\n".toList = none := rfl
    exact expand_of_lines hlines (standsForWith_of_fieldSchema hmention hfile _)
      (standsForWith_of_none hend _) rfl

/-- **A file keeps the lines that mention nothing**, up to a CR in their ends. A file that is
written holds, in order, what becomes of its lines with their ends unified; one without mentions is
not written. What is written is the expansion of the text that the file holds exactly if nothing is
left of any line with a CR. -/
theorem store_expandFile_iff {s : String} {e : Expanded}
    (hopen : disk.openFile path = .ok bytes) (hdecode : Text.decode bytes = .ok s)
    (hrun : (expandFile disk base strict path).result = .ok e)
    (hstored : (store disk path e).fault = none) :
    ∃ out after, Text.encode s = bytes ∧ (expand disk base strict s).result = .ok out ∧
      (store disk path e).disk.openFile path = .ok after ∧
      (¬Mentions s → after = bytes) ∧ ((store disk path e).text = none → after = bytes) ∧
      ∀ t, (store disk path e).text = some t → after = Text.encode t ∧
        (∃ blocks, t.toList = blocks.flatten ∧
          List.Forall₂ (Rewritten disk base strict) (Text.lines s.toList) blocks) ∧
        (t = out ↔ ∀ line ∈ Text.lines s.toList, '\r' ∈ line →
          (expandLine disk base strict line).result = .ok []) := by
  obtain ⟨t, ht, rfl⟩ := exists_of_expandFile (read_eq_ok hopen hdecode) hrun
  obtain ⟨out, blocks, hout, hflatten, hblocks, hiff⟩ := expand_unifyNewlines ht
  obtain ⟨hafter, htext⟩ := openFile_store hopen hstored
  refine ⟨out, _, Text.encode_of_decode hdecode, hout, hafter, fun hnone => ?_, fun hnone => ?_,
    fun t' ht' => ?_⟩
  · have hsame : (expand disk base strict _).result = .ok _ :=
      expand_of_not_mentions (mentions_unifyNewlines.not.mpr hnone)
    rw [htext, ← Except.ok.inj (ht.symm.trans hsame)]
    simp
  · rw [hnone]
  · rw [ht'] at htext
    split at htext
    · cases htext
      rw [ht']
      exact ⟨rfl, ⟨blocks, hflatten, hblocks⟩, hiff⟩
    · cases htext

/-- A file whose lines end in LF. -/
theorem store_expandFile_lf : ∃ e out,
    (expandFile sourceDisk (.absolute []) false (Path.ofString "lf.js")).result = .ok e ∧
    (expand sourceDisk (.absolute []) false (mentionText "\n")).result = .ok out ∧
    (store sourceDisk (Path.ofString "lf.js") e).disk.openFile (Path.ofString "lf.js")
      = .ok (Text.encode out) := by
  have hopen : sourceDisk.openFile (Path.ofString "lf.js")
      = .ok (Text.encode (mentionText "\n")) := by decide +kernel
  have hdecode : Text.decode (Text.encode (mentionText "\n")) = .ok (mentionText "\n") := by
    decide +kernel
  have hread : read sourceDisk (Path.ofString "lf.js") = .ok (mentionText "\n") := by decide +kernel
  have hrun := expandFile_result hread (expand_mentionText (Or.inl rfl))
  obtain ⟨out, after, -, hout, hafter, -, -, hwritten⟩ :=
    store_expandFile_iff hopen hdecode hrun (by decide +kernel)
  have htext : (store sourceDisk (Path.ofString "lf.js")
      ⟨fieldText "\n" != mentionText "\n", fieldText "\n"⟩).text = some (fieldText "\n") := by
    decide +kernel
  obtain ⟨hbytes, -, hsame⟩ := hwritten _ htext
  have hkept : fieldText "\n" = out := by
    refine hsame.mpr fun line hline hcr => ?_
    have hfree : ∀ line ∈ Text.lines (mentionText "\n").toList, '\r' ∉ line := by decide
    exact absurd hcr (hfree line hline)
  exact ⟨_, out, hrun, hout, by rw [hafter, hbytes, hkept]⟩

/-- A file whose lines end in CR LF: the line without a mention ends in LF then. -/
theorem store_expandFile_crlf :
    sourceDisk.openFile (Path.ofString "crlf.js") = .ok (Text.encode (mentionText "\r\n")) ∧
    Text.decode (Text.encode (mentionText "\r\n")) = .ok (mentionText "\r\n") ∧
    (expandFile sourceDisk (.absolute []) false (Path.ofString "crlf.js")).result
      = .ok ⟨true, fieldText "\n"⟩ ∧
    (store sourceDisk (Path.ofString "crlf.js") ⟨true, fieldText "\n"⟩).fault = none ∧
    (store sourceDisk (Path.ofString "crlf.js") ⟨true, fieldText "\n"⟩).disk.openFile
      (Path.ofString "crlf.js") = .ok (Text.encode (fieldText "\n")) ∧
    mentioned? " */\r\n".toList = none ∧
    (expand sourceDisk (.absolute []) false (mentionText "\r\n")).result
      = .ok (fieldText "\r\n") ∧
    Text.encode (fieldText "\n") ≠ Text.encode (fieldText "\r\n") := by
  have hopen : sourceDisk.openFile (Path.ofString "crlf.js")
      = .ok (Text.encode (mentionText "\r\n")) := by decide +kernel
  have hdecode : Text.decode (Text.encode (mentionText "\r\n")) = .ok (mentionText "\r\n") := by
    decide +kernel
  have hread : read sourceDisk (Path.ofString "crlf.js") = .ok (mentionText "\n") := by
    decide +kernel
  have hchanged : (fieldText "\n" != mentionText "\n") = true := by decide +kernel
  have hrun := expandFile_result hread (expand_mentionText (Or.inl rfl))
  rw [hchanged] at hrun
  exact ⟨hopen, hdecode, hrun, by decide +kernel, by decide +kernel, rfl,
    expand_mentionText (Or.inr rfl), by decide +kernel⟩

end SchemaDoc.Source
