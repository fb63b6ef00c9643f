/-
SchemaDoc.Proofs.Command.Logging — the log has no say in what a run does.

What is asked for about the log is the identifier of the run, the form and the
measure of its lines. Two command lines that ask for the same apart from that
take the same course, event by event, and end the same way, so that they leave
the same files, the same output and the same exit code; their logs alone
differ (`run_eq_of_sameButLog`). The same holds of a source text that is
expanded in a setting, or in none.

§1 settings, §2 commands, §3 command lines, §4 source texts, §5 the log has no
say.
-/
import SchemaDoc.Proofs.Command.Silent

namespace SchemaDoc.Command

/-! ## §1 Settings -/

/-- Two settings are for the same work: they differ in what they say about the log at most. -/
structure SameWork (c c' : Context) : Prop where
  baseDirectory : c.baseDirectory = c'.baseDirectory
  strict : c.strict = c'.strict

/-- Two settings ask for the same, apart from the log. -/
structure SameButLog (s s' : Settings) : Prop where
  baseDirectory : s.baseDirectory = s'.baseDirectory
  strict : s.strict = s'.strict

/-- The base directory is found or not found whatever is asked for about the log, and nothing else
can be wrong with a setting. -/
theorem ofSettings_sameButLog {s s' : Settings} {e e' : Environment} (h : SameButLog s s')
    (he : e.baseDirectory = e'.baseDirectory) (workingDirectory : Path)
    (freshId freshId' : String) :
    (∃ f, Context.ofSettings s e workingDirectory freshId = .error f ∧
      Context.ofSettings s' e' workingDirectory freshId' = .error f) ∨
    (∃ c c', Context.ofSettings s e workingDirectory freshId = .ok c ∧
      Context.ofSettings s' e' workingDirectory freshId' = .ok c' ∧ SameWork c c') := by
  unfold Context.ofSettings
  dsimp only
  rw [← h.baseDirectory, ← he]
  cases ((((Context.filled? s.baseDirectory).or (Context.filled? e.baseDirectory)).map
    Path.ofString).getD workingDirectory).resolve workingDirectory with
  | error f => exact Or.inl ⟨f, rfl, rfl⟩
  | ok directory => exact Or.inr ⟨_, _, rfl, rfl, rfl, h.strict⟩

/-! ## §2 Commands -/

section Commands

variable {c c' : Context}

theorem describe_sameWork (h : SameWork c c') (schema : String) (group : Option String)
    (course : Course) : describe c schema group course = describe c' schema group course := by
  unfold describe
  rw [h.baseDirectory, h.strict]

theorem expandFile_sameWork (h : SameWork c c') (mode : Mode) (file : String) (course : Course) :
    expandFile c mode file course = expandFile c' mode file course := by
  unfold expandFile
  rw [h.baseDirectory, h.strict]

/-- Every file is gone through from the same course, so the files behind it are too. -/
theorem expandFiles_sameWork (h : SameWork c c') (mode : Mode) : ∀ (files : List String)
    (course : Course), expandFiles c mode files course = expandFiles c' mode files course
  | [], _ => rfl
  | file :: rest, course => by
    rw [expandFiles_cons, expandFiles_cons, expandFile_sameWork h]
    cases expandFile c' mode file course with
    | mk after stopped => cases stopped with
      | some f => rfl
      | none => exact expandFiles_sameWork h mode rest after

theorem perform_sameWork (h : SameWork c c') (a : Action) (course : Course) :
    perform c a course = perform c' a course := by
  cases a with
  | version => rw [perform_version, perform_version]
  | describe schema group => rw [perform_describe, perform_describe, describe_sameWork h]
  | expand files mode =>
    rw [perform_expand, perform_expand, expand, expand, expandFiles_sameWork h]

end Commands

/-- Invocations that differ in the log at most take the same course to the same ending. -/
theorem Invocation.run_sameButLog {i i' : Invocation} (haction : i.action = i'.action)
    (hsettings : SameButLog i.settings i'.settings) {e e' : Environment}
    (he : e.baseDirectory = e'.baseDirectory) (disk : Disk) (freshId freshId' : String) :
    (i.run disk e freshId).course = (i'.run disk e' freshId').course ∧
      (i.run disk e freshId).ending = (i'.run disk e' freshId').ending := by
  unfold Invocation.run
  obtain ⟨f, hf, hf'⟩ | ⟨c, c', hc, hc', hwork⟩ :=
    ofSettings_sameButLog hsettings he disk.workingDirectory freshId freshId'
  · rw [hf, hf']
    exact ⟨rfl, rfl⟩
  · rw [hc, hc', ← haction]
    simp only [perform_sameWork hwork, hwork.baseDirectory, and_self]

/-! ## §3 Command lines -/

/-- The options that are about the log. -/
def logSwitches : List Switch :=
  [textSwitch "--run-id", ⟨["--log-format"], .value ["text", "json"], none⟩]
    ++ rivals "--verbose" "--quiet"

/-- The options of a command line without those that are about the log. -/
def Given.withoutLog (g : Given) : List (Switch × Option String) :=
  g.options.filter fun (s, _) => s ∉ logSwitches

/-- No option that is about the log tells the base directory. -/
theorem value?_withoutLog (g : Given) :
    g.value? "--base-dir" = Given.value? { options := g.withoutLog } "--base-dir" := by
  have hnone : ∀ s ∈ logSwitches, s.names.contains "--base-dir" = false := by decide
  unfold Given.value? Given.withoutLog
  dsimp only
  rw [← List.filter_reverse]
  congr 1
  induction g.options.reverse with
  | nil => rfl
  | cons entry rest ih =>
    rw [List.findSome?_cons, List.filter_cons]
    by_cases hlog : entry.1 ∈ logSwitches
    · simp only [hnone _ hlog, hlog, Bool.false_eq_true, if_false, not_true_eq_false, decide_false,
        ih]
    · simp only [hlog, not_false_eq_true, decide_true, if_true, List.findSome?_cons, ih]

/-- What the reading of a command line comes to, by what the words before the command give. -/
theorem Invocation.of_read {words : List String} {g : Given} {i : Invocation}
    (hg : mainGrammar.read words = .ok g) (hread : Invocation.read words = .ok i) :
    ∃ name rest left, g.operand = some (name :: rest) ∧
      readAction name rest = .ok (i.action, i.settings.strict, left) ∧
      i.settings.baseDirectory = g.value? "--base-dir" := by
  unfold Invocation.read at hread
  obtain ⟨g', hg', hread⟩ := bind_eq_ok.mp hread
  cases Except.ok.inj (hg.symm.trans hg')
  dsimp only at hread
  split at hread
  · rename_i name rest hoperand
    obtain ⟨⟨action, strict, left⟩, haction, hread⟩ := bind_eq_ok.mp hread
    dsimp only at hread
    split at hread
    · cases hread
    · cases hread
      exact ⟨name, rest, left, hoperand, haction, rfl⟩
  · cases hread

/-- Command lines with the same command and the same options before it, up to those about the log,
ask for the same apart from the log. -/
theorem sameButLog_of_given {words words' : List String} {g g' : Given} {i i' : Invocation}
    (hg : mainGrammar.read words = .ok g) (hg' : mainGrammar.read words' = .ok g')
    (hoptions : g.withoutLog = g'.withoutLog) (hoperand : g.operand = g'.operand)
    (hread : Invocation.read words = .ok i) (hread' : Invocation.read words' = .ok i') :
    i.action = i'.action ∧ SameButLog i.settings i'.settings := by
  obtain ⟨name, rest, left, hname, haction, hbase⟩ := Invocation.of_read hg hread
  obtain ⟨name', rest', left', hname', haction', hbase'⟩ := Invocation.of_read hg' hread'
  obtain ⟨rfl, rfl⟩ : name = name' ∧ rest = rest' := by
    rw [hoperand, hname'] at hname
    cases hname
    exact ⟨rfl, rfl⟩
  rw [haction] at haction'
  have heq := Except.ok.inj haction'
  refine ⟨congrArg Prod.fst heq, ?_, congrArg (fun x => x.2.1) heq⟩
  rw [hbase, hbase', value?_withoutLog g, value?_withoutLog g', hoptions]

/-! ## §4 Source texts -/

/-- In a setting that checks nothing, a text comes to what it comes to without a setting. -/
theorem expandIn_of_not_strict {c : Context} (h : c.strict = false) (disk : Disk) (base : Path)
    (text : String) : (Source.expandIn disk (some base) none text).result
      = (Source.expandIn disk (some base) (some c) text).result := by
  unfold Source.expandIn
  simp only [Option.getD_some, Option.any_none, Option.any_some, h]

/-! ## §5 The log has no say -/

/-- **The log has no say in what a run does.** Two accepted command lines that ask for the same
apart from the log, in environments that name the same base directory, come to the same exit code,
print the same, write the same files and leave the same disk, and they miss the same files. Those
ask for the same that have the same command behind the same options, the ones about the log left
out. A source text that is expanded in a setting which checks nothing comes to what it comes to
without one. -/
theorem run_eq_of_sameButLog :
    (∀ (words words' : List String) (i i' : Invocation) (disk : Disk) (e e' : Environment)
        (freshId freshId' : String),
      Invocation.read words = .ok i → Invocation.read words' = .ok i' → i.action = i'.action →
      SameButLog i.settings i'.settings → e.baseDirectory = e'.baseDirectory →
        let o := run words disk e freshId
        let o' := run words' disk e' freshId'
        o.ending.exitCode = o'.ending.exitCode ∧ o.course.output = o'.course.output ∧
          o.course.written = o'.course.written ∧ o.course.disk = o'.course.disk ∧
          o.missed = o'.missed) ∧
    (∀ (words words' : List String) (g g' : Given) (i i' : Invocation),
      mainGrammar.read words = .ok g → mainGrammar.read words' = .ok g' →
      g.withoutLog = g'.withoutLog → g.operand = g'.operand →
      Invocation.read words = .ok i → Invocation.read words' = .ok i' →
        i.action = i'.action ∧ SameButLog i.settings i'.settings) ∧
    (∀ (disk : Disk) (base : Path) (c : Context) (text : String), c.strict = false →
      (Source.expandIn disk (some base) none text).result
        = (Source.expandIn disk (some base) (some c) text).result) := by
  refine ⟨?_, fun _ _ _ _ _ _ => sameButLog_of_given, fun disk base c text h =>
    expandIn_of_not_strict h disk base text⟩
  intro words words' i i' disk e e' freshId freshId' hread hread' haction hsettings he
  have hrun : run words disk e freshId = i.run disk e freshId := by
    unfold run
    rw [hread]
  have hrun' : run words' disk e' freshId' = i'.run disk e' freshId' := by
    unfold run
    rw [hread']
  obtain ⟨hcourse, hending⟩ :=
    Invocation.run_sameButLog haction hsettings he disk freshId freshId'
  simp only [hrun, hrun', Outcome.missed, hcourse, hending, and_self]

/-- A file is gone through aloud and quietly, and a text is expanded without a setting and in one of
another directory. -/
theorem run_eq_of_sameButLog_quietly :
    let aloud := ["--verbose", "--log-format", "json", "--run-id", "x", "expand", "a.js"]
    let quietly := ["--quiet", "expand", "a.js"]
    let o := run aloud lineDisk ⟨none, none, some "text"⟩ ""
    let o' := run quietly lineDisk ⟨some "y", none, none⟩ "z"
    o.ending.exitCode = o'.ending.exitCode ∧ o.course.output = o'.course.output ∧
      o.course.written = o'.course.written ∧ o.course.disk = o'.course.disk ∧
      o.missed = o'.missed ∧ o.course.output = "x\n" ∧
      o'.errorText "" Failure.message = "" ∧
      (Source.expandIn lineDisk (some (.absolute [])) none "@apiParam x").result
        = (Source.expandIn lineDisk (some (.absolute []))
            (some ⟨"", .absolute ["b"], true, true, false, false⟩) "@apiParam x").result := by
  have hread : Invocation.read
      ["--verbose", "--log-format", "json", "--run-id", "x", "expand", "a.js"]
      = .ok ⟨⟨some "x", none, some "json", true, false, false⟩, .expand ["a.js"] .print⟩ := rfl
  have hread' : Invocation.read ["--quiet", "expand", "a.js"]
      = .ok ⟨⟨none, none, none, false, true, false⟩, .expand ["a.js"] .print⟩ := rfl
  obtain ⟨hrun, hasked, htext⟩ := run_eq_of_sameButLog
  obtain ⟨g, g', hg, hg', hoptions, hoperand⟩ : ∃ g g',
      mainGrammar.read ["--verbose", "--log-format", "json", "--run-id", "x", "expand", "a.js"]
        = .ok g ∧ mainGrammar.read ["--quiet", "expand", "a.js"] = .ok g' ∧
      g.withoutLog = g'.withoutLog ∧ g.operand = g'.operand := ⟨_, _, rfl, rfl, rfl, rfl⟩
  obtain ⟨haction, hsettings⟩ := hasked _ _ _ _ _ _ hg hg' hoptions hoperand hread hread'
  obtain ⟨hcode, houtput, hwritten, hdisk, hmissed⟩ := hrun _ _ _ _ lineDisk
    ⟨none, none, some "text"⟩ ⟨some "y", none, none⟩ "" "z" hread hread' haction hsettings rfl
  exact ⟨hcode, houtput, hwritten, hdisk, hmissed, by decide +kernel, by decide +kernel,
    htext _ _ _ _ rfl⟩

end SchemaDoc.Command
