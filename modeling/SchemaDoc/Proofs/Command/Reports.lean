/-
SchemaDoc.Proofs.Command.Reports — what a run that logs JSON writes beside its output.

With JSON asked for, the lines of the log and the report of a failure are JSON
objects, one on each line, whatever paths, identifiers and messages are in
them. Two things are written without a look at what was asked for: the notes
about source files that are out of date, and the report of a run whose setting
cannot be made. So all that is written is JSON exactly if there is a setting,
and no check finds a file that is out of date (`isJsonLines_errorText_iff`).

§1 lines, §2 the log, §3 reports, §4 checks, §5 runs.
-/
import SchemaDoc.Proofs.Command.Silent
import SchemaDoc.Proofs.Json.Grammar
import SchemaDoc.Proofs.Source.Stored

namespace SchemaDoc.Command

/-! ## §1 Lines -/

/-- A text that consists of complete lines, of which each is such and such. -/
def IsLines (p : List Char → Prop) (s : List Char) : Prop :=
  ∃ lines : List (List Char), (∀ l ∈ lines, '\n' ∉ l ∧ p l) ∧ s = lines.flatMap (· ++ ['\n'])

/-- A text that consists of complete lines, of which each is one JSON object. It is asked of what
the program itself writes beside its output. -/
def IsJsonLines (s : String) : Prop := IsLines Json.IsObjectText s.toList

section Lines

variable {p : List Char → Prop}

theorem isLines_nil : IsLines p [] := ⟨[], nofun, rfl⟩

/-- The first line is such, and so are those behind it. -/
theorem isLines_line_append {l s : List Char} (hl : '\n' ∉ l) :
    IsLines p (l ++ '\n' :: s) ↔ p l ∧ IsLines p s := by
  constructor
  · rintro ⟨lines, hall, heq⟩
    cases lines with
    | nil => simp at heq
    | cons first rest =>
      obtain ⟨⟨hfirst, hp⟩, hrest⟩ := List.forall_mem_cons.mp hall
      rw [List.flatMap_cons, List.append_assoc, List.singleton_append] at heq
      have hcut := congrArg (Text.cutOnce '\n') heq
      rw [Text.cutOnce_append hl, Text.cutOnce_append hfirst] at hcut
      cases hcut
      exact ⟨hp, rest, hrest, rfl⟩
  · rintro ⟨hp, lines, hall, rfl⟩
    exact ⟨l :: lines, List.forall_mem_cons.mpr ⟨⟨hl, hp⟩, hall⟩, by simp⟩

/-- Behind lines that are such, the others decide. -/
theorem isLines_flatMap_append {s : List Char} : ∀ {lines : List (List Char)},
    (∀ l ∈ lines, '\n' ∉ l ∧ p l) →
      (IsLines p (lines.flatMap (· ++ ['\n']) ++ s) ↔ IsLines p s)
  | [], _ => Iff.rfl
  | l :: rest, h => by
    obtain ⟨⟨hl, hp⟩, hrest⟩ := List.forall_mem_cons.mp h
    have heq : (l :: rest).flatMap (· ++ ['\n']) ++ s
        = l ++ '\n' :: (rest.flatMap (· ++ ['\n']) ++ s) := by simp
    rw [heq, isLines_line_append hl, and_iff_right hp, isLines_flatMap_append hrest]

/-- Lines whose text starts with no line feed start with the start of the first. -/
theorem IsLines.head {c : Char} {s : List Char} (h : IsLines p (c :: s)) (hc : c ≠ '\n') :
    ∃ l, p (c :: l) := by
  obtain ⟨lines, hall, heq⟩ := h
  cases lines with
  | nil => cases heq
  | cons first rest =>
    obtain ⟨⟨-, hp⟩, -⟩ := List.forall_mem_cons.mp hall
    cases first with
    | nil => exact absurd (List.cons.inj heq).1 hc
    | cons d first =>
      obtain ⟨rfl, -⟩ := List.cons.inj heq
      exact ⟨first, hp⟩

end Lines

/-- A text that starts with a letter is no JSON object, and no line with it is. -/
theorem not_isLines_of_isAlpha {c : Char} (hc : c.isAlpha = true) (s : List Char) :
    ¬IsLines Json.IsObjectText (c :: s) := by
  intro h
  obtain ⟨l, hl⟩ := h.head (by rintro rfl; revert hc; decide)
  rcases hl.head with rfl | rfl | rfl | rfl | rfl <;> revert hc <;> decide

/-! ## §2 The log -/

/-- A name and a fact of a log line: a scalar that is no double. -/
def IsFact (e : Scalar × Value) : Prop :=
  Json.isExact e.1 = true ∧ ∃ s, e.2 = .scalar s ∧ Json.isExact s = true

theorem isFact_insert {k : Scalar} {v : Value} (h : IsFact (k, v)) :
    ∀ {entries : List (Scalar × Value)}, (∀ e ∈ entries, IsFact e) →
      ∀ e ∈ Entries.insert entries k v, IsFact e
  | [], _ => List.forall_mem_singleton.mpr h
  | (k', v') :: rest, hall => by
    obtain ⟨hfirst, hrest⟩ := List.forall_mem_cons.mp hall
    rw [Entries.insert]
    split
    · exact List.forall_mem_cons.mpr ⟨⟨hfirst.1, h.2⟩, hrest⟩
    · exact List.forall_mem_cons.mpr ⟨hfirst, isFact_insert h hrest⟩

theorem isFact_ofList {entries : List (Scalar × Value)} (h : ∀ e ∈ entries, IsFact e) :
    ∀ e ∈ Entries.ofList entries, IsFact e := by
  suffices hfold : ∀ (es acc : List (Scalar × Value)), (∀ e ∈ es, IsFact e) →
      (∀ e ∈ acc, IsFact e) →
      ∀ e ∈ es.foldl (fun acc e => Entries.insert acc e.1 e.2) acc, IsFact e by
    unfold Entries.ofList
    exact hfold entries [] h (List.forall_mem_nil _)
  intro es
  induction es with
  | nil => exact fun _ _ hacc => hacc
  | cons e es ih =>
    intro acc hes hacc
    obtain ⟨he, hes⟩ := List.forall_mem_cons.mp hes
    exact ih _ hes (isFact_insert he hacc)

/-- Facts stay as they are when their keys are put in order. -/
theorem sortEntries_of_isFact : ∀ {entries : List (Scalar × Value)}, (∀ e ∈ entries, IsFact e) →
    Json.sortEntries entries = entries
  | [], _ => rfl
  | (k, v) :: rest, h => by
    obtain ⟨⟨-, s, hs, -⟩, hrest⟩ := List.forall_mem_cons.mp h
    cases hs
    rw [Json.sortEntries, Json.sortKeys, sortEntries_of_isFact hrest]

theorem every_of_isFact {entries : List (Scalar × Value)} (h : ∀ e ∈ entries, IsFact e) :
    (Value.mapping entries).every Json.noDouble = true := by
  have hentries : ∀ {es : List (Scalar × Value)}, (∀ e ∈ es, IsFact e) →
      Value.everyEntry Json.noDouble es = true := by
    intro es hes
    induction es with
    | nil => rfl
    | cons e es ih =>
      obtain ⟨⟨-, s, hs, hexact⟩, hes⟩ := List.forall_mem_cons.mp hes
      rw [Value.everyEntry, ih hes, hs, Bool.and_true]
      exact hexact
  rw [Value.every, hentries h, Bool.and_true]
  exact List.all_eq_true.mpr fun e he => (h e he).1

/-- A line of the log is one JSON object, and takes one line. -/
theorem isObjectText_line (c : Context) (time : String) {l : Log.Line}
    (h : ∀ f ∈ l.fields, IsFact (.text f.1, f.2)) (place : Option Log.CodePlace) :
    '\n' ∉ (l.json c time place).toList ∧ Json.IsObjectText (l.json c time place).toList := by
  have htext : ∀ name text : String, IsFact (.text name, .text text) :=
    fun _ text => ⟨rfl, .text text, rfl, rfl⟩
  have hfacts : ∀ e ∈ l.entries c time place, IsFact e := by
    refine isFact_ofList
      (List.forall_mem_append.mpr ⟨List.forall_mem_append.mpr ⟨?_, ?_⟩, ?_⟩)
    · simp only [List.forall_mem_cons, htext, true_and, List.not_mem_nil, false_imp_iff,
        implies_true]
    · cases place with
      | none => exact List.forall_mem_nil _
      | some place =>
        exact List.forall_mem_cons.mpr ⟨htext .., List.forall_mem_singleton.mpr
          ⟨rfl, .integer place.line, rfl, rfl⟩⟩
    · rintro _ he
      obtain ⟨f, hf, rfl⟩ := List.mem_map.mp he
      exact h f hf
  have hsorted : ∀ e ∈ (l.entries c time place).mergeSort Json.keyLe, IsFact e :=
    fun e he => hfacts e (List.mem_mergeSort.mp he)
  have hwritten := Json.isObjectText_write (every_of_isFact hsorted)
  rw [Log.Line.json, Json.sortKeys, sortEntries_of_isFact hfacts, String.toList_ofList]
  exact ⟨hwritten.2.not_mem_lf, hwritten.1⟩

theorem isFact_event (e : Event) : ∀ f ∈ e.line.fields, IsFact (.text f.1, f.2) := by
  have htext : ∀ name text : String, IsFact (.text name, .text text) :=
    fun _ text => ⟨rfl, .text text, rfl, rfl⟩
  cases e with
  | started => exact List.forall_mem_cons.mpr ⟨htext .., List.forall_mem_singleton.mpr (htext ..)⟩
  | loaded => exact List.forall_mem_singleton.mpr (htext ..)
  | retried => exact List.forall_mem_cons.mpr ⟨htext .., List.forall_mem_singleton.mpr (htext ..)⟩
  | expanded _ _ fields =>
    exact List.forall_mem_cons.mpr ⟨htext .., List.forall_mem_cons.mpr ⟨htext ..,
      List.forall_mem_singleton.mpr ⟨rfl, .integer fields, rfl, rfl⟩⟩⟩
  | processed _ changed =>
    exact List.forall_mem_cons.mpr ⟨htext ..,
      List.forall_mem_singleton.mpr ⟨rfl, .bool changed, rfl, rfl⟩⟩

/-- The log of a run is lines of JSON, so what stands behind it decides. -/
theorem isLines_render_append {c : Context} (hjson : c.json = true) (time : String)
    (events : List Event) (place : Log.Line → Option Log.CodePlace) (s : List Char) :
    IsLines Json.IsObjectText ((Log.render c time (events.map Event.line) place).toList ++ s)
      ↔ IsLines Json.IsObjectText s := by
  have hrender : (Log.render c time (events.map Event.line) place).toList
      = (((events.map Event.line).filter (Log.Line.isShown c)).map
          fun l => (l.json c time (place l)).toList).flatMap (· ++ ['\n']) := by
    simp only [Log.render, String.toList_join, List.flatMap_map, Log.Line.render, hjson, if_true,
      String.toList_append]
    rfl
  rw [hrender]
  refine isLines_flatMap_append fun _ hmem => ?_
  obtain ⟨l, hl, rfl⟩ := List.mem_map.mp hmem
  obtain ⟨e, -, rfl⟩ := List.mem_map.mp (List.mem_filter.mp hl).1
  exact isObjectText_line c time (isFact_event e) _

/-! ## §3 Reports -/

/-- In JSON, the report of a failure is one line with one object. -/
theorem isLines_report {c : Context} (hjson : c.json = true) (wording : Failure → String)
    (f : Failure) : IsLines Json.IsObjectText (report (some c) wording f).toList := by
  have hwritten : Json.IsObjectText (Json.write Json.spaced
      (reportJson f (reportText wording f))) ∧ Json.Printable _ := Json.isObjectText_write rfl
  rw [report, Option.any_some, hjson, if_pos rfl, String.toList_append, String.toList_ofList]
  exact (isLines_line_append hwritten.2.not_mem_lf).mpr ⟨hwritten.1, isLines_nil⟩

/-- Without a setting the report of a fault is plain text. -/
theorem not_isLines_report_none (wording : Failure → String) (f : Fault) :
    ¬IsLines Json.IsObjectText (report none wording (.fault f)).toList := by
  have htext : report none wording (.fault f) = "internal error: " ++ f.message ++ "\n" := rfl
  rw [htext, String.toList_append, String.toList_append]
  exact not_isLines_of_isAlpha (c := 'i') rfl _

/-- Notes about files that are out of date are plain text. -/
theorem not_isLines_drifted (c : Option Context) (wording : Failure → String) {paths : List String}
    (h : paths ≠ []) :
    ¬IsLines Json.IsObjectText (Ending.text c wording (.drifted paths)).toList := by
  obtain ⟨path, rest, rfl⟩ := List.exists_cons_of_ne_nil h
  have htext : (Ending.text c wording (.drifted (path :: rest))).toList
      = 'u' :: ("nexpanded schema tags: ".toList ++ path.toList ++ "\n".toList
          ++ (withEnds (rest.map ("unexpanded schema tags: " ++ ·))).toList) := by
    simp only [Ending.text, withEnds, List.map_cons, String.join_cons, String.toList_append]
    rfl
  rw [htext]
  exact not_isLines_of_isAlpha rfl _

/-! ## §4 Checks -/

/-- All source files can be gone through, and one of them is out of date. -/
def Drifts (c : Context) (disk : Disk) (files : List String) : Prop :=
  (∀ file ∈ files, ∃ e, attempt c disk file = .ok e) ∧
    ∃ file ∈ files, ∃ e, attempt c disk file = .ok e ∧ e.changed = true

section Checks

variable {c : Context} {file : String} {files : List String} {course : Course}

theorem attempt_of_isFile {disk : Disk} (h : disk.isFile (Path.ofString file) = .ok true) :
    attempt c disk file
      = (Source.expandFile disk c.baseDirectory c.strict (Path.ofString file)).result := by
  unfold attempt
  rw [h]

/-- Checking a file leaves the disk as it is, and notes the file if it is out of date. -/
theorem expandFile_check_of_attempt {e : Source.Expanded}
    (h : attempt c course.disk file = .ok e) :
    ∃ after, expandFile c .check file course = (after, none) ∧ after.disk = course.disk ∧
      (after.drift = [] ↔ course.drift = [] ∧ e.changed = false) := by
  unfold attempt at h
  split at h
  · cases h
  · cases h
  · rename_i hfile
    obtain ⟨events, hcheck⟩ := Source.expandFile_check hfile h
    refine ⟨_, hcheck, rfl, ?_⟩
    cases hchanged : e.changed with
    | false => exact (and_iff_left rfl).symm
    | true => exact iff_of_false (by simp [Course.note]) (by simp)

/-- Files that can all be gone through are checked to the end. -/
theorem expandFiles_check_of_attempts
    (h : ∀ file ∈ files, ∃ e, attempt c course.disk file = .ok e) :
    ∃ after, expandFiles c .check files course = (after, none) ∧
      (after.drift = [] ↔ course.drift = [] ∧
        ∀ file ∈ files, ∀ e, attempt c course.disk file = .ok e → e.changed = false) := by
  induction files generalizing course with
  | nil => exact ⟨course, rfl, (and_iff_left (List.forall_mem_nil _)).symm⟩
  | cons file rest ih =>
    obtain ⟨⟨e, he⟩, hrest⟩ := List.forall_mem_cons.mp h
    obtain ⟨middle, hstep, hdisk, hdrift⟩ := expandFile_check_of_attempt he
    rw [← hdisk] at hrest
    obtain ⟨after, hrun, hafter⟩ := ih hrest
    refine ⟨after, ?_, ?_⟩
    · rw [expandFiles_cons, hstep]
      exact hrun
    · have hfirst : (∀ e', attempt c course.disk file = .ok e' → e'.changed = false)
          ↔ e.changed = false :=
        ⟨fun hall => hall e he, fun hchanged e' he' => Except.ok.inj (he.symm.trans he') ▸ hchanged⟩
      rw [hafter, hdrift, hdisk, List.forall_mem_cons, hfirst, and_assoc]

/-- Files of which one cannot be gone through fail when they are checked. -/
theorem expandFiles_check_of_error {f : Failure} (hmem : file ∈ files)
    (h : attempt c course.disk file = .error f) :
    ∃ after g, expandFiles c .check files course = (after, some g) := by
  induction files generalizing course with
  | nil => cases hmem
  | cons first rest ih =>
    rw [expandFiles_cons]
    cases hfirst : attempt c course.disk first with
    | error g =>
      obtain ⟨after, hstep, -⟩ := expandFile_of_error hfirst .check
      exact ⟨after, g, by rw [hstep]⟩
    | ok e =>
      obtain ⟨middle, hstep, hdisk, -⟩ := expandFile_check_of_attempt hfirst
      rw [hstep]
      rcases List.mem_cons.mp hmem with rfl | hmem
      · rw [hfirst] at h
        cases h
      · rw [← hdisk] at h
        exact ih hmem h

variable (c files) in
/-- A check ends with drift exactly if all files can be gone through and one of them is out of date;
otherwise it is done or fails. -/
theorem expand_check_drifted_iff (hstart : course.drift = []) :
    (∃ path rest, (expand c files .check course).2 = .drifted (path :: rest)) ∧
        Drifts c course.disk files ∨
      ((expand c files .check course).2 = .done ∨
          ∃ f, (expand c files .check course).2 = .failed f) ∧
        ¬Drifts c course.disk files := by
  unfold expand
  by_cases hall : ∀ file ∈ files, ∃ e, attempt c course.disk file = .ok e
  · obtain ⟨after, hrun, hdrift⟩ := expandFiles_check_of_attempts hall
    rw [hstart, eq_self_iff_true, true_and] at hdrift
    have hiff : Drifts c course.disk files ↔ after.drift ≠ [] := by
      rw [ne_eq, hdrift, Drifts, and_iff_right hall]
      push Not
      simp only [ne_eq, Bool.not_eq_false]
    rw [hrun, hiff]
    dsimp only
    cases after.drift with
    | nil => exact Or.inr ⟨Or.inl rfl, not_not_intro rfl⟩
    | cons path rest => exact Or.inl ⟨⟨path, rest, rfl⟩, List.cons_ne_nil path rest⟩
  · have hno : ¬Drifts c course.disk files := fun h => hall h.1
    push Not at hall
    obtain ⟨file, hfile, herror⟩ := hall
    cases hattempt : attempt c course.disk file with
    | ok e => exact absurd hattempt (herror e)
    | error f =>
      obtain ⟨after, g, hrun⟩ := expandFiles_check_of_error hfile hattempt
      rw [hrun]
      exact Or.inr ⟨Or.inr ⟨g, rfl⟩, hno⟩

theorem ofStop_cases (stopped : Option Failure) :
    Ending.ofStop stopped = .done ∨ ∃ f, Ending.ofStop stopped = .failed f := by
  cases stopped with
  | none => exact Or.inl rfl
  | some f => exact Or.inr ⟨f, rfl⟩

/-- A command ends with drift, in at least one file, exactly if it checks files that can all be gone
through and one of which is out of date; otherwise it is done or fails. -/
theorem perform_drifted_iff (a : Action) (hstart : course.drift = []) :
    (∃ path rest, (perform c a course).2 = .drifted (path :: rest)) ∧
        (∃ files, a = .expand files .check ∧ Drifts c course.disk files) ∨
      ((perform c a course).2 = .done ∨ ∃ f, (perform c a course).2 = .failed f) ∧
        ∀ files, a = .expand files .check → ¬Drifts c course.disk files := by
  cases a with
  | version =>
    rw [perform_version]
    exact Or.inr ⟨Or.inl rfl, nofun⟩
  | describe schema group =>
    rw [perform_describe]
    obtain ⟨told, -, heq⟩ := describe_eq c schema group course
    rw [heq]
    refine Or.inr ⟨?_, nofun⟩
    cases (Tag.describe course.disk c.baseDirectory c.strict ⟨group, schema⟩).result with
    | error f => exact Or.inr ⟨f, rfl⟩
    | ok lines => exact ofStop_cases _
  | expand files mode =>
    rw [perform_expand]
    by_cases hmode : mode = .check
    · subst hmode
      rcases expand_check_drifted_iff c files hstart with h | ⟨h, hno⟩
      · exact Or.inl ⟨h.1, files, rfl, h.2⟩
      · refine Or.inr ⟨h, ?_⟩
        rintro _ ⟨⟩
        exact hno
    · refine Or.inr ⟨?_, ?_⟩
      · unfold expand
        rcases expandFiles c mode files course with ⟨after, _ | f⟩
        · simp only [hmode, decide_false, Bool.false_and, Bool.false_eq_true, if_false]
          exact Or.inl trivial
        · exact Or.inr ⟨f, rfl⟩
      · rintro _ ⟨⟩
        exact absurd rfl hmode

end Checks

/-! ## §5 Runs -/

section Runs

variable {i : Invocation} {disk : Disk} {e : Environment}

/-- What is written beside the output in a setting that logs JSON is JSON unless the run ends with
drift. -/
theorem isJsonLines_errorText_of_ok {c : Context} {freshId : String}
    (hc : Context.ofSettings i.settings e disk.workingDirectory freshId = .ok c)
    (hjson : c.json = true) (time : String) (wording : Failure → String)
    (place : Log.Line → Option Log.CodePlace) :
    IsJsonLines ((i.run disk e freshId).errorText time wording place) ↔
      ∀ files, i.action = .expand files .check → ¬Drifts c disk files := by
  obtain ⟨start, -, -, hdisk, hdrift, hrun⟩ :
      ∃ start : Course, start.output = "" ∧ start.written = [] ∧ start.disk = disk ∧
        start.drift = [] ∧ i.run disk e freshId
          = ⟨(perform c i.action start).1, (perform c i.action start).2, some c⟩ := by
    refine ⟨Course.tell { disk := disk } [.started i.action.name c.baseDirectory.toString], rfl,
      rfl, rfl, rfl, ?_⟩
    unfold Invocation.run
    simp only [hc]
  rw [hrun, Outcome.errorText, IsJsonLines, String.toList_append, isLines_render_append hjson,
    ← hdisk]
  rcases perform_drifted_iff (c := c) i.action hdrift with
    ⟨⟨path, rest, hending⟩, files, haction, hdrifts⟩ | ⟨hending, hno⟩
  · rw [hending]
    exact iff_of_false (not_isLines_drifted _ wording (List.cons_ne_nil path rest))
      fun hall => hall files haction hdrifts
  · refine iff_of_true ?_ hno
    rcases hending with hending | ⟨f, hending⟩
    · rw [hending]
      exact isLines_nil
    · rw [hending]
      exact isLines_report hjson wording f

/-- A setting is for JSON if that is asked for, or else if the environment has it so. -/
theorem json_of_ofSettings {s : Settings} {c : Context} {workingDirectory : Path}
    {freshId : String} (hc : Context.ofSettings s e workingDirectory freshId = .ok c) :
    c.json = (((Context.filled? s.logFormat).or e.logFormat) == some "json") := by
  unfold Context.ofSettings at hc
  dsimp only at hc
  obtain ⟨directory, -, hc⟩ := bind_eq_ok.mp hc
  cases hc
  rfl

/-- **With JSON asked for, everything that a run writes beside its output is lines of one JSON
object each**, on every disk and however the run ends, exactly if the setting of the run can be
made and the run is no check that finds a file out of date. What the program itself writes is meant,
not what an interpreter adds to it unasked: with `--strict` a pattern such as `^[[:alpha:]]+$` in a
schema may draw a warning in plain text. -/
theorem isJsonLines_errorText_iff {words : List String} (hread : Invocation.read words = .ok i)
    (hjson : (Context.filled? i.settings.logFormat).or e.logFormat = some "json")
    (freshId time : String) (wording : Failure → String)
    (place : Log.Line → Option Log.CodePlace) :
    IsJsonLines ((run words disk e freshId).errorText time wording place) ↔
      ∃ c, Context.ofSettings i.settings e disk.workingDirectory freshId = .ok c ∧
        ∀ files, i.action = .expand files .check → ¬Drifts c disk files := by
  have hrun : run words disk e freshId = i.run disk e freshId := by
    unfold run
    rw [hread]
  rw [hrun]
  cases hc : Context.ofSettings i.settings e disk.workingDirectory freshId with
  | ok c =>
    have hcjson : c.json = true := by rw [json_of_ofSettings hc, hjson, beq_self_eq_true]
    rw [isJsonLines_errorText_of_ok hc hcjson]
    constructor
    · exact fun hall => ⟨c, rfl, hall⟩
    · rintro ⟨_, ⟨⟩, hall⟩
      exact hall
  | error f =>
    have hfailed : (i.run disk e freshId).errorText time wording place
        = report none wording (.fault f) := by
      unfold Invocation.run
      rw [hc]
      exact String.empty_append
    rw [hfailed]
    exact iff_of_false (not_isLines_report_none wording f) nofun

end Runs

/-- A file without mentions is checked: its log is JSON. -/
theorem isJsonLines_errorText_unchanged :
    IsJsonLines ((run ["--log-format", "json", "expand", "--check", "a.js"] lineDisk {}
      "").errorText "" Failure.message) := by
  have hread : Invocation.read ["--log-format", "json", "expand", "--check", "a.js"]
      = .ok ⟨⟨none, none, some "json", false, false, false⟩, .expand ["a.js"] .check⟩ := rfl
  refine (isJsonLines_errorText_iff hread rfl "" "" Failure.message _).mpr
    ⟨⟨"", .absolute [], true, false, false, false⟩, rfl, ?_⟩
  rintro files ⟨⟩ ⟨-, file, hfile, e, he, hchanged⟩
  cases List.mem_singleton.mp hfile
  have hattempt : attempt ⟨"", .absolute [], true, false, false, false⟩ lineDisk "a.js"
      = .ok ⟨false, "x\n"⟩ := by decide +kernel
  cases Except.ok.inj (hattempt.symm.trans he)
  cases hchanged

/-- A file that mentions a schema is checked: what is written ends with a note in plain text. -/
theorem isJsonLines_errorText_drifted : ¬IsJsonLines
    ((run ["--log-format", "json", "expand", "--check", "lf.js"] Source.sourceDisk {} "").errorText
      "" Failure.message) := by
  have hread : Source.read Source.sourceDisk (Path.ofString "lf.js")
      = .ok (Source.mentionText "\n") := by decide +kernel
  have hattempt : attempt ⟨"", .absolute [], true, false, false, false⟩ Source.sourceDisk "lf.js"
      = .ok ⟨Source.fieldText "\n" != Source.mentionText "\n", Source.fieldText "\n"⟩ := by
    rw [attempt_of_isFile (by decide +kernel)]
    exact Source.expandFile_result hread (Source.expand_mentionText (Or.inl rfl))
  have hdrifts : Drifts ⟨"", .absolute [], true, false, false, false⟩ Source.sourceDisk ["lf.js"] :=
    ⟨List.forall_mem_singleton.mpr ⟨_, hattempt⟩,
      "lf.js", List.mem_singleton_self _, _, hattempt, by decide⟩
  have hrun : run ["--log-format", "json", "expand", "--check", "lf.js"] Source.sourceDisk {} ""
      = Invocation.run ⟨⟨none, none, some "json", false, false, false⟩, .expand ["lf.js"] .check⟩
          Source.sourceDisk {} "" := rfl
  rw [hrun, isJsonLines_errorText_of_ok rfl rfl]
  exact fun hall => hall _ rfl hdrifts

end SchemaDoc.Command
