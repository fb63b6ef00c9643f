/-
SchemaDoc.Proofs.Command.Silent — what a failed run leaves behind.

Source files are gone through one by one, and each is printed or changed before
the next is looked at. So a run that fails has printed and changed nothing
exactly if the files before the one that it fails at left nothing to print or
to change (`run_leaves_nothing_iff`). The lines of a description are all made
before the first is printed; yet they are printed one by one, and one that
cannot be printed comes behind those that are.

§1 printing, §2 one file, §3 files in order, §4 runs.
-/
import Mathlib.Control.Monad.Basic
import SchemaDoc.Command.Run
import SchemaDoc.Proofs.Failing

namespace SchemaDoc.Command

namespace Course

/-- Something was printed, or a file was changed. -/
def Touched (course : Course) : Prop := course.output ≠ "" ∨ course.written ≠ []

/-- Two courses have printed and changed the same. -/
structure Agrees (a b : Course) : Prop where
  output : a.output = b.output
  written : a.written = b.written
  disk : a.disk = b.disk

theorem Agrees.trans {a b c : Course} (hab : Agrees a b) (hbc : Agrees b c) : Agrees a c :=
  ⟨hab.output.trans hbc.output, hab.written.trans hbc.written, hab.disk.trans hbc.disk⟩

theorem Agrees.touched_iff {a b : Course} (h : Agrees a b) : a.Touched ↔ b.Touched := by
  rw [Touched, Touched, h.output, h.written]

/-! ## §1 Printing -/

theorem print_of_none {text : String} (h : unprintable? text = none) (course : Course) :
    course.print text = ({ course with output := course.output ++ text }, none) := by
  rw [print, h]

theorem print_of_some {text : String} {f : Failure} (h : unprintable? text = some f)
    (course : Course) : course.print text = (course, some f) := by
  rw [print, h]

/-- Of lines those are printed that stand before the first which cannot be, and that one is why
printing stops. -/
theorem printLines_eq (lines : List String) (course : Course) :
    course.printLines lines
      = ({ course with
            output := course.output ++ withEnds (lines.takeWhile (unprintable? · |>.isNone)) },
          lines.findSome? unprintable?) := by
  induction lines generalizing course with
  | nil => rw [printLines, List.takeWhile_nil, withEnds, List.map_nil, String.join_nil,
      String.append_empty, List.findSome?_nil]
  | cons line rest ih =>
    rw [printLines, printLine, List.takeWhile_cons, List.findSome?_cons]
    cases h : unprintable? line with
    | some f =>
      rw [print_of_some h]
      simp [withEnds]
    | none =>
      have hend : unprintable? "\n" = none := rfl
      rw [print_of_none h]
      simp only [print_of_none hend, ih, Option.isNone_none, if_true]
      simp [withEnds, String.append_assoc]

end Course

/-! ## §2 One file -/

/-- What going through a source file comes to, before anything is printed or changed. -/
def attempt (c : Context) (disk : Disk) (file : String) : Except Failure Source.Expanded :=
  match disk.isFile (Path.ofString file) with
  | .error f => .error (.fault f)
  | .ok false => .error (.missingSource file)
  | .ok true =>
    (Source.expandFile disk c.baseDirectory c.strict (Path.ofString file)).result

/-- There is nothing to print or to change when a file has been gone through. -/
def LeavesNothing (e : Source.Expanded) : Mode → Prop
  | .print => e.text = ""
  | .inPlace => e.changed = false
  | .check => True

/-- A file is to be printed and cannot be, when it has been gone through. -/
def IsRefused (e : Source.Expanded) (mode : Mode) : Prop :=
  mode = .print ∧ unprintable? e.text ≠ none

/-- A file cannot be gone through, or not be printed as it is asked for. -/
def FailsAt (c : Context) (disk : Disk) (mode : Mode) (file : String) : Prop :=
  ∀ e, attempt c disk file = .ok e → IsRefused e mode

variable {c : Context} {mode : Mode} {file : String} {files : List String} {course : Course}

/-- A file is gone through, and then printed or changed. -/
theorem expandFile_eq (c : Context) (mode : Mode) (file : String) (course : Course) :
    ∃ told : Course, told.Agrees course ∧
      expandFile c mode file course = match attempt c course.disk file with
        | .error f => (told, some f)
        | .ok e => told.settle mode (Path.ofString file) e := by
  unfold attempt expandFile
  cases hfile : course.disk.isFile (Path.ofString file) with
  | error f => exact ⟨course, ⟨rfl, rfl, rfl⟩, by simp only [hfile]⟩
  | ok there =>
    cases there with
    | false => exact ⟨course, ⟨rfl, rfl, rfl⟩, by simp only [hfile]⟩
    | true =>
      generalize hrun :
        Source.expandFile course.disk c.baseDirectory c.strict (Path.ofString file) = run
      refine ⟨course.tell run.events, ⟨rfl, rfl, rfl⟩, ?_⟩
      cases hresult : run.result with
      | error f => simp only [hfile, hrun, hresult]
      | ok e => simp only [hfile, hrun, hresult]

namespace Course

theorem settle_inPlace (course : Course) (path : Path) (e : Source.Expanded) :
    course.settle .inPlace path e = match course.store path e with
      | (stored, some f) => (stored, some f)
      | (stored, none) => (stored.note path e.changed, none) := by
  unfold settle
  rw [if_pos rfl]
  rcases course.store path e with ⟨stored, _ | f⟩ <;> rfl

theorem settle_print (course : Course) (path : Path) (e : Source.Expanded) :
    course.settle .print path e = (course.note path e.changed).print e.text := rfl

theorem store_of_unchanged {path : Path} {e : Source.Expanded} (h : e.changed = false)
    (course : Course) : course.store path e = (course, none) := by
  unfold Course.store Source.store
  simp [h]

/-- A file that changes is noted, also if it is left empty. -/
theorem written_store {e : Source.Expanded} (h : e.changed = true) (path : Path)
    (course : Course) : (course.store path e).1.written ≠ [] := by
  unfold Course.store Source.store
  rw [h]
  simp only [Bool.not_true, Bool.false_eq_true, if_false]
  split <;> simp

/-- A file that cannot be printed stops the run, and leaves the course as it is. -/
theorem settle_of_isRefused {e : Source.Expanded} (h : IsRefused e mode) (path : Path)
    (course : Course) :
    ∃ after f, course.settle mode path e = (after, some f) ∧ after.Agrees course := by
  obtain ⟨rfl, hsome⟩ := h
  obtain ⟨f, hf⟩ := Option.ne_none_iff_exists'.mp hsome
  exact ⟨_, f, (settle_print ..).trans (print_of_some hf _), rfl, rfl, rfl⟩

/-- A file that leaves nothing does not stop the run, and leaves the course as it is. -/
theorem settle_of_leavesNothing {e : Source.Expanded} (h : LeavesNothing e mode) (path : Path)
    (course : Course) :
    ∃ after, course.settle mode path e = (after, none) ∧ after.Agrees course := by
  cases mode with
  | check => exact ⟨_, rfl, rfl, rfl, rfl⟩
  | print =>
    have htext : e.text = "" := h
    have hnone : unprintable? e.text = none := by
      rw [htext]
      rfl
    refine ⟨_, (settle_print ..).trans (print_of_none hnone _), ?_, rfl, rfl⟩
    show course.output ++ e.text = course.output
    rw [htext, String.append_empty]
  | inPlace =>
    rw [settle_inPlace, store_of_unchanged h]
    exact ⟨_, rfl, rfl, rfl, rfl⟩

/-- A file that leaves something touches the course; the disk stays, or the file is noted. -/
theorem settle_of_not_leavesNothing {e : Source.Expanded} (h : ¬LeavesNothing e mode)
    (hprint : ¬IsRefused e mode) (path : Path) (course : Course) :
    (course.settle mode path e).1.Touched ∧ ((course.settle mode path e).1.written = [] →
      course.written = [] ∧ (course.settle mode path e).1.disk = course.disk) := by
  cases mode with
  | check => exact absurd trivial h
  | print =>
    have hnone : unprintable? e.text = none := by
      by_contra hsome
      exact hprint ⟨rfl, hsome⟩
    rw [settle_print, print_of_none hnone]
    refine ⟨Or.inl fun hempty => h ?_, fun hnone => ⟨hnone, rfl⟩⟩
    have happend : course.output ++ e.text = "" := hempty
    exact (String.append_eq_empty_iff.mp happend).2
  | inPlace =>
    have hwritten : (course.settle .inPlace path e).1.written ≠ [] := by
      have hstored := written_store (eq_true_of_ne_false h) path course
      rw [settle_inPlace]
      split <;> rename_i heq <;> rw [heq] at hstored <;> exact hstored
    exact ⟨Or.inr hwritten, fun hnone => absurd hnone hwritten⟩

end Course

/-- What can come of a source file: the run fails at it, or it leaves nothing, or something. -/
theorem file_cases (c : Context) (disk : Disk) (mode : Mode) (file : String) :
    FailsAt c disk mode file ∨
    (∃ e, attempt c disk file = .ok e ∧ ¬IsRefused e mode ∧ LeavesNothing e mode) ∨
    (∃ e, attempt c disk file = .ok e ∧ ¬IsRefused e mode ∧ ¬LeavesNothing e mode) := by
  by_cases hfails : FailsAt c disk mode file
  · exact Or.inl hfails
  · obtain ⟨e, hfails⟩ := not_forall.mp hfails
    obtain ⟨he, hprint⟩ := Classical.not_imp.mp hfails
    exact Or.inr ((em (LeavesNothing e mode)).imp (⟨e, he, hprint, ·⟩) (⟨e, he, hprint, ·⟩))

theorem expandFile_of_error {f : Failure} (h : attempt c course.disk file = .error f)
    (mode : Mode) :
    ∃ after, expandFile c mode file course = (after, some f) ∧ after.Agrees course := by
  obtain ⟨told, hagrees, heq⟩ := expandFile_eq c mode file course
  rw [h] at heq
  exact ⟨told, heq, hagrees⟩

/-- A run that fails at a file leaves nothing of it. -/
theorem expandFile_of_failsAt (h : FailsAt c course.disk mode file) :
    ∃ after f, expandFile c mode file course = (after, some f) ∧ after.Agrees course := by
  cases hattempt : attempt c course.disk file with
  | error f =>
    obtain ⟨after, heq, hagrees⟩ := expandFile_of_error hattempt mode
    exact ⟨after, f, heq, hagrees⟩
  | ok e =>
    obtain ⟨told, hagrees, heq⟩ := expandFile_eq c mode file course
    obtain ⟨after, f, hsettle, hafter⟩ :=
      Course.settle_of_isRefused (h e hattempt) (Path.ofString file) told
    rw [hattempt] at heq
    exact ⟨after, f, heq.trans hsettle, hafter.trans hagrees⟩

theorem expandFile_of_leavesNothing {e : Source.Expanded}
    (h : attempt c course.disk file = .ok e) (hleaves : LeavesNothing e mode) :
    ∃ after, expandFile c mode file course = (after, none) ∧ after.Agrees course := by
  obtain ⟨told, hagrees, heq⟩ := expandFile_eq c mode file course
  obtain ⟨after, hsettle, hafter⟩ :=
    Course.settle_of_leavesNothing hleaves (Path.ofString file) told
  rw [h] at heq
  exact ⟨after, heq.trans hsettle, hafter.trans hagrees⟩

theorem expandFile_of_not_leavesNothing {e : Source.Expanded}
    (h : attempt c course.disk file = .ok e) (hprint : ¬IsRefused e mode)
    (hleaves : ¬LeavesNothing e mode) :
    (expandFile c mode file course).1.Touched ∧
      ((expandFile c mode file course).1.written = [] →
        course.written = [] ∧ (expandFile c mode file course).1.disk = course.disk) := by
  obtain ⟨told, hagrees, heq⟩ := expandFile_eq c mode file course
  rw [h] at heq
  rw [heq, ← hagrees.written, ← hagrees.disk]
  exact Course.settle_of_not_leavesNothing hleaves hprint _ told

/-- What was printed stays printed, and what was changed stays noted. -/
theorem touched_expandFile (h : course.Touched) (c : Context) (mode : Mode) (file : String) :
    (expandFile c mode file course).1.Touched := by
  rcases file_cases c course.disk mode file with
    hfails | ⟨e, hattempt, -, hleaves⟩ | ⟨e, hattempt, hprint, hleaves⟩
  · obtain ⟨after, f, heq, hagrees⟩ := expandFile_of_failsAt hfails
    rw [heq]
    exact hagrees.touched_iff.mpr h
  · obtain ⟨after, heq, hagrees⟩ := expandFile_of_leavesNothing hattempt hleaves
    rw [heq]
    exact hagrees.touched_iff.mpr h
  · exact (expandFile_of_not_leavesNothing hattempt hprint hleaves).1

/-- Where no change is noted, the disk is what it was. -/
theorem disk_expandFile (c : Context) (mode : Mode) (file : String) (course : Course)
    (h : (expandFile c mode file course).1.written = []) :
    course.written = [] ∧ (expandFile c mode file course).1.disk = course.disk := by
  rcases file_cases c course.disk mode file with
    hfails | ⟨e, hattempt, -, hleaves⟩ | ⟨e, hattempt, hprint, hleaves⟩
  · obtain ⟨after, f, heq, hagrees⟩ := expandFile_of_failsAt hfails
    rw [heq] at h ⊢
    exact ⟨hagrees.written ▸ h, hagrees.disk⟩
  · obtain ⟨after, heq, hagrees⟩ := expandFile_of_leavesNothing hattempt hleaves
    rw [heq] at h ⊢
    exact ⟨hagrees.written ▸ h, hagrees.disk⟩
  · exact (expandFile_of_not_leavesNothing hattempt hprint hleaves).2 h

/-! ## §3 Files in order -/

/-- The run fails at a file, and the files before it leave nothing behind. -/
def StopsSilently (c : Context) (disk : Disk) (mode : Mode) (files : List String) : Prop :=
  ∃ before file after, files = before ++ file :: after ∧
    (∀ g ∈ before, ∃ e, attempt c disk g = .ok e ∧ LeavesNothing e mode) ∧
    FailsAt c disk mode file

theorem stopsSilently_cons_of_failsAt {disk : Disk} (h : FailsAt c disk mode file)
    (rest : List String) : StopsSilently c disk mode (file :: rest) :=
  ⟨[], file, rest, rfl, nofun, h⟩

theorem stopsSilently_cons_of_ok {disk : Disk} {e : Source.Expanded}
    (h : attempt c disk file = .ok e) (hprint : ¬IsRefused e mode) (rest : List String) :
    StopsSilently c disk mode (file :: rest) ↔
      LeavesNothing e mode ∧ StopsSilently c disk mode rest := by
  constructor
  · rintro ⟨before, g, after, hfiles, hbefore, hg⟩
    cases before with
    | nil =>
      obtain ⟨rfl, -⟩ := List.cons.inj hfiles
      exact absurd (hg e h) hprint
    | cons first before =>
      obtain ⟨rfl, hrest⟩ := List.cons.inj hfiles
      obtain ⟨⟨e', he', hleaves⟩, hbefore⟩ := List.forall_mem_cons.mp hbefore
      cases Except.ok.inj (h.symm.trans he')
      exact ⟨hleaves, before, g, after, hrest, hbefore, hg⟩
  · rintro ⟨hleaves, before, g, after, rfl, hbefore, hg⟩
    exact ⟨file :: before, g, after, rfl,
      List.forall_mem_cons.mpr ⟨⟨e, h, hleaves⟩, hbefore⟩, hg⟩

theorem expandFiles_cons (c : Context) (mode : Mode) (file : String) (rest : List String)
    (course : Course) : expandFiles c mode (file :: rest) course
      = match expandFile c mode file course with
        | (after, some f) => (after, some f)
        | (after, none) => expandFiles c mode rest after := by
  -- Unfolding by rewriting would look into the step, so the step is taken for any.
  delta expandFiles expandFiles._f
  generalize expandFile = step
  rfl

theorem touched_expandFiles : ∀ {files : List String} {course : Course}, course.Touched →
    (expandFiles c mode files course).1.Touched
  | [], course, h => h
  | file :: rest, course, h => by
    have hfirst := touched_expandFile h c mode file
    rw [expandFiles_cons]
    split <;> rename_i heq <;> rw [heq] at hfirst
    · exact hfirst
    · exact touched_expandFiles hfirst

theorem disk_expandFiles : ∀ {files : List String} {course : Course},
    (expandFiles c mode files course).1.written = [] →
      course.written = [] ∧ (expandFiles c mode files course).1.disk = course.disk
  | [], course, h => ⟨h, rfl⟩
  | file :: rest, course, h => by
    have hstep := disk_expandFile c mode file course
    rw [expandFiles_cons] at h ⊢
    split at h <;> rename_i heq <;> rw [heq] at hstep
    · exact hstep h
    · obtain ⟨hmiddle, hdisk⟩ := disk_expandFiles h
      obtain ⟨hstart, hfirst⟩ := hstep hmiddle
      exact ⟨hstart, hdisk.trans hfirst⟩

/-- A run through files that fails leaves nothing behind exactly if the files before the one that
it fails at leave nothing. -/
theorem not_touched_expandFiles_iff {f : Failure} : ∀ {files : List String} {course : Course},
    ¬course.Touched → (expandFiles c mode files course).2 = some f →
      (¬(expandFiles c mode files course).1.Touched ↔ StopsSilently c course.disk mode files)
  | [], course, _, h => nomatch h
  | file :: rest, course, hstart, h => by
    rw [expandFiles_cons] at h ⊢
    rcases file_cases c course.disk mode file with
      hfails | ⟨e, hattempt, hprint, hleaves⟩ | ⟨e, hattempt, hprint, hleaves⟩
    · obtain ⟨after, f', heq, hagrees⟩ := expandFile_of_failsAt hfails
      rw [heq]
      exact iff_of_true (mt hagrees.touched_iff.mp hstart)
        (stopsSilently_cons_of_failsAt hfails rest)
    · obtain ⟨after, heq, hagrees⟩ := expandFile_of_leavesNothing hattempt hleaves
      rw [heq] at h ⊢
      rw [stopsSilently_cons_of_ok hattempt hprint, and_iff_right hleaves, ← hagrees.disk]
      exact not_touched_expandFiles_iff (mt hagrees.touched_iff.mp hstart) h
    · have htouched := (expandFile_of_not_leavesNothing hattempt hprint hleaves).1
      rw [stopsSilently_cons_of_ok hattempt hprint]
      refine iff_of_false (not_not_intro ?_) fun hsilent => hleaves hsilent.1
      split <;> rename_i heq <;> rw [heq] at htouched
      · exact htouched
      · exact touched_expandFiles htouched

/-! ## §4 Runs -/

/-- An ending that is neither success nor drift. -/
def Ending.IsError (ending : Ending) : Prop := ending.exitCode ≠ 0 ∧ ending.exitCode ≠ 14

/-- What fails at describing does so before the first line is printed: there are no lines, or the
first of them cannot be printed. -/
def DescribesNothing (c : Context) (disk : Disk) (schema : String) (group : Option String) : Prop :=
  ∀ lines, (Tag.describe disk c.baseDirectory c.strict ⟨group, schema⟩).result = .ok lines →
    ∃ line ∈ lines.head?, unprintable? line ≠ none

/-- A command stops before it prints or changes anything. -/
def Action.StopsSilently (c : Context) (disk : Disk) : Action → Prop
  | .version => True
  | .describe schema group => DescribesNothing c disk schema group
  | .expand files mode => Command.StopsSilently c disk mode files

/-- A description makes its lines, and prints them up to the first that cannot be printed. -/
theorem describe_eq (c : Context) (schema : String) (group : Option String) (course : Course) :
    ∃ told : Course, told.Agrees course ∧ describe c schema group course
      = match (Tag.describe course.disk c.baseDirectory c.strict ⟨group, schema⟩).result with
        | .error f => (told, .failed f)
        | .ok lines => ((told.printLines lines).1, .ofStop (told.printLines lines).2) := by
  unfold describe
  generalize Tag.describe course.disk c.baseDirectory c.strict ⟨group, schema⟩ = run
  refine ⟨course.tell run.events, ⟨rfl, rfl, rfl⟩, ?_⟩
  rcases run with ⟨events, f | lines⟩ <;> rfl

/-- Of lines that cannot all be printed, nothing is printed exactly if that is so of the first. -/
theorem not_touched_printLines_iff {lines : List String} {f : Failure} (hstart : ¬course.Touched)
    (h : (course.printLines lines).2 = some f) : ¬(course.printLines lines).1.Touched ↔
      ∃ line ∈ lines.head?, unprintable? line ≠ none := by
  obtain ⟨houtput, hwritten⟩ := not_or.mp hstart
  rw [Course.printLines_eq] at h ⊢
  cases lines with
  | nil => cases h
  | cons line rest =>
    simp only [Course.Touched, not_not.mp houtput, not_not.mp hwritten, String.empty_append,
      List.takeWhile_cons, List.head?_cons, Option.mem_some_iff, exists_eq_left']
    cases unprintable? line with
    | none => simp [withEnds]
    | some f => simp [withEnds]

/-- A description that fails leaves nothing behind exactly if not even its first line is printed;
files are never changed. -/
theorem not_touched_describe_iff {schema : String} {group : Option String}
    (hstart : ¬course.Touched) (h : (describe c schema group course).2.IsError) :
    (¬(describe c schema group course).1.Touched ↔
      DescribesNothing c course.disk schema group) ∧
    (describe c schema group course).1.disk = course.disk := by
  obtain ⟨told, hagrees, heq⟩ := describe_eq c schema group course
  have htold : ¬told.Touched := mt hagrees.touched_iff.mp hstart
  unfold DescribesNothing
  rw [heq] at h ⊢
  generalize (Tag.describe course.disk c.baseDirectory c.strict ⟨group, schema⟩).result = result
    at h ⊢
  rcases result with f | lines
  · exact ⟨iff_of_true htold nofun, hagrees.disk⟩
  · obtain ⟨f, hf⟩ : ∃ f, (told.printLines lines).2 = some f := by
      refine Option.ne_none_iff_exists'.mp fun hdone => h.1 ?_
      show (Ending.ofStop (told.printLines lines).2).exitCode = 0
      rw [hdone]
      rfl
    have hdisk : (told.printLines lines).1.disk = course.disk := by
      rw [Course.printLines_eq]
      exact hagrees.disk
    refine ⟨(not_touched_printLines_iff htold hf).trans ⟨?_, fun hall => hall lines rfl⟩, hdisk⟩
    rintro hfirst _ ⟨⟩
    exact hfirst

/-- An expansion that fails failed at a file. -/
theorem exists_of_expand (h : (expand c files mode course).2.IsError) :
    (expand c files mode course).1 = (expandFiles c mode files course).1 ∧
      ∃ f, (expandFiles c mode files course).2 = some f := by
  unfold expand at h ⊢
  generalize expandFiles c mode files course = run at h ⊢
  rcases run with ⟨after, _ | f⟩
  · simp only at h
    split at h
    · exact absurd rfl h.2
    · exact absurd rfl h.1
  · exact ⟨rfl, f, rfl⟩

/-- The version is printed as it is asked for. -/
theorem perform_version (c : Context) (course : Course) : perform c .version course
    = ({ course with output := course.output ++ (versionText ++ "\n") }, .done) := by
  have hnone : unprintable? (versionText ++ "\n") = none := by decide +kernel
  rw [perform, answer, Course.print_of_none hnone]
  rfl

theorem perform_describe (c : Context) (schema : String) (group : Option String)
    (course : Course) : perform c (.describe schema group) course
      = describe c schema group course := by
  rw [perform]

theorem perform_expand (c : Context) (files : List String) (mode : Mode) (course : Course) :
    perform c (.expand files mode) course = expand c files mode course := by
  rw [perform]

/-- A command that fails leaves nothing behind exactly if it stops before that. -/
theorem not_touched_perform_iff {a : Action} (hstart : ¬course.Touched)
    (h : (perform c a course).2.IsError) :
    (¬(perform c a course).1.Touched ↔ a.StopsSilently c course.disk) ∧
    ((perform c a course).1.written = [] → (perform c a course).1.disk = course.disk) := by
  cases a with
  | version =>
    rw [perform_version] at h
    exact absurd rfl h.1
  | describe schema group =>
    rw [perform_describe] at h ⊢
    obtain ⟨hiff, hdisk⟩ := not_touched_describe_iff hstart h
    exact ⟨hiff, fun _ => hdisk⟩
  | expand files mode =>
    rw [perform_expand] at h ⊢
    obtain ⟨hcourse, f, hf⟩ := exists_of_expand h
    rw [hcourse]
    exact ⟨not_touched_expandFiles_iff hstart hf, fun hnone => (disk_expandFiles hnone).2⟩

/-- A run whose setting is known performs its command. -/
theorem run_of_ofSettings {i : Invocation} {disk : Disk} {environment : Environment}
    {freshId : String}
    (h : Context.ofSettings i.settings environment disk.workingDirectory freshId = .ok c) :
    ∃ start : Course, start.output = "" ∧ start.written = [] ∧ start.disk = disk ∧
      i.run disk environment freshId
        = ⟨(perform c i.action start).1, (perform c i.action start).2, some c⟩ := by
  refine ⟨Course.tell { disk := disk } [.started i.action.name c.baseDirectory.toString], rfl, rfl,
    rfl, ?_⟩
  unfold Invocation.run
  simp only [h]

/-- **A failed run has printed and changed nothing** exactly if its command stops before that: a
description before its first line is printed, an expansion at a file behind which no other left
anything to print or to change. So an expansion of one file leaves nothing behind when it fails,
unless it is its changed text that cannot be stored, and neither does a check. -/
theorem run_leaves_nothing_iff {words : List String} {i : Invocation} {disk : Disk}
    {environment : Environment} {freshId : String} (hread : Invocation.read words = .ok i)
    (herror : (run words disk environment freshId).ending.IsError) :
    ((run words disk environment freshId).course.output = "" ∧
        (run words disk environment freshId).course.written = [] ↔
      ∀ c, Context.ofSettings i.settings environment disk.workingDirectory freshId = .ok c →
        i.action.StopsSilently c disk) ∧
    ((run words disk environment freshId).course.written = [] →
      (run words disk environment freshId).course.disk = disk) := by
  have hrun : run words disk environment freshId = i.run disk environment freshId := by
    unfold run
    rw [hread]
  rw [hrun] at herror ⊢
  cases hc : Context.ofSettings i.settings environment disk.workingDirectory freshId with
  | error f =>
    have hfailed : i.run disk environment freshId
        = ⟨{ disk := disk }, .failed (.fault f), none⟩ := by
      unfold Invocation.run
      rw [hc]
    rw [hfailed]
    exact ⟨iff_of_true ⟨rfl, rfl⟩ nofun, fun _ => rfl⟩
  | ok c =>
    obtain ⟨start, houtput, hwritten, hstart, hperform⟩ := run_of_ofSettings hc
    rw [hperform] at herror ⊢
    have huntouched : ¬start.Touched := not_or.mpr ⟨not_not_intro houtput, not_not_intro hwritten⟩
    obtain ⟨hiff, hdisk⟩ := not_touched_perform_iff huntouched herror
    rw [hstart] at hiff hdisk
    refine ⟨Iff.trans ?_ (hiff.trans ?_), hdisk⟩
    · rw [Course.Touched, not_or, not_not, not_not]
    · constructor
      · rintro hstops _ ⟨⟩
        exact hstops
      · exact fun hall => hall c rfl

/-- A disk with a file of one line, which mentions nothing. -/
def lineDisk : Disk := ⟨⟨[(["a.js"], .file (Text.encode "x\n"))]⟩, .absolute []⟩

/-- The first file needs no change, the second is not there. -/
theorem run_leaves_nothing_unchanged :
    (run ["expand", "--in-place", "a.js", "b.js"] lineDisk {} "").ending.IsError ∧
    (run ["expand", "--in-place", "a.js", "b.js"] lineDisk {} "").course.output = "" ∧
    (run ["expand", "--in-place", "a.js", "b.js"] lineDisk {} "").course.written = [] ∧
    (run ["expand", "--in-place", "a.js", "b.js"] lineDisk {} "").course.disk = lineDisk := by
  have hread : Invocation.read ["expand", "--in-place", "a.js", "b.js"]
      = .ok ⟨{}, .expand ["a.js", "b.js"] .inPlace⟩ := rfl
  have herror : (run ["expand", "--in-place", "a.js", "b.js"] lineDisk {} "").ending.IsError :=
    ⟨by decide +kernel, by decide +kernel⟩
  have hcontext : Context.ofSettings {} {} lineDisk.workingDirectory ""
      = .ok ⟨"", .absolute [], false, false, false, false⟩ := rfl
  obtain ⟨hiff, hdisk⟩ := run_leaves_nothing_iff hread herror
  obtain ⟨houtput, hwritten⟩ := hiff.mpr <| by
    intro c hc
    cases Except.ok.inj (hcontext.symm.trans hc)
    have hmissing : attempt ⟨"", .absolute [], false, false, false, false⟩ lineDisk "b.js"
        = .error (.missingSource "b.js") := by decide +kernel
    refine ⟨["a.js"], "b.js", [], rfl, ?_, ?_⟩
    · exact List.forall_mem_singleton.mpr ⟨⟨false, "x\n"⟩, by decide +kernel, rfl⟩
    · intro e he
      cases hmissing.symm.trans he
  exact ⟨herror, houtput, hwritten, hdisk hwritten⟩

/-- The first file is printed, the second is not there. -/
theorem run_leaves_output :
    Invocation.read ["expand", "a.js", "b.js"] = .ok ⟨{}, .expand ["a.js", "b.js"] .print⟩ ∧
    (run ["expand", "a.js", "b.js"] lineDisk {} "").ending.exitCode = 10 ∧
    (run ["expand", "a.js", "b.js"] lineDisk {} "").course.output = "x\n" :=
  ⟨rfl, by decide +kernel, by decide +kernel⟩

end SchemaDoc.Command
