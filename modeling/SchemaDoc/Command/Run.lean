/-
SchemaDoc.Command.Run — what a command line does.

A run works on a disk in memory and tells what it prints, what it logs, which
files it changes and how it ends. Source files are gone through one by one: a
later file sees how an earlier one was changed, and what was printed before a
failure stays printed. The output is UTF-8: a text that holds a half of a
surrogate pair cannot be printed, and nothing of it is.

§1 how a run ends, §2 the course of a run, §3 commands, §4 reports.
-/
import SchemaDoc.Command.Line
import SchemaDoc.Source

namespace SchemaDoc.Command

/-! ## §1 How a run ends -/

/-- How a run ends. -/
inductive Ending where
  | done
  /-- Source files hold tags that stand for others. -/
  | drifted (paths : List String)
  | failed (f : Failure)
  | misused (grammar : Grammar) (m : Misuse)

/-- The end of a run that nothing else stops: it is done, unless it failed. -/
def Ending.ofStop : Option Failure → Ending
  | none => .done
  | some f => .failed f

/-- The exit code of an ending. -/
def Ending.exitCode : Ending → Nat
  | .done => 0
  | .drifted _ => 14
  | .failed f => f.category.exitCode
  | .misused .. => 2

/-! ## §2 The course of a run -/

/-- What a run has done. -/
structure Course where
  disk : Disk
  output : String := ""
  events : List Event := []
  /-- The files that were changed, with their new texts. -/
  written : List (Path × String) := []
  /-- The source files that differ from their expansion. -/
  drift : List String := []

/-- A run that has come to its end. -/
structure Outcome where
  course : Course
  ending : Ending
  /-- The setting of the run, if there is one. -/
  context : Option Context := none

/-- Why a text cannot be printed: there are halves of surrogate pairs in it. -/
def unprintable? (text : String) : Option Failure :=
  (Text.unencodable? text).map fun h => .fault (.notEncodable h.first h.start h.stop)

namespace Course

/-- Adds events. -/
def tell (c : Course) (events : List Event) : Course := { c with events := c.events ++ events }

/-- Prints a text, unless it cannot be printed. -/
def print (c : Course) (text : String) : Course × Option Failure :=
  match unprintable? text with
  | none => ({ c with output := c.output ++ text }, none)
  | some f => (c, some f)

/-- Prints a line, and then its end. -/
def printLine (c : Course) (line : String) : Course × Option Failure :=
  match c.print line with
  | (c, none) => c.print "\n"
  | stopped => stopped

/-- Prints lines one by one, up to the first that cannot be printed. -/
def printLines (c : Course) : List String → Course × Option Failure
  | [] => (c, none)
  | line :: rest =>
    match c.printLine line with
    | (c, none) => c.printLines rest
    | stopped => stopped

/-- Changes a file to its expansion, unless a fault stops it. -/
def store (c : Course) (path : Path) (e : Source.Expanded) : Course × Option Failure :=
  let stored := Source.store c.disk path e
  ({ c with
      disk := stored.disk
      written := c.written ++ (stored.text.map fun text => (path, text)).toList },
    stored.fault.map Failure.fault)

/-- Notes whether a source file differs from its expansion. -/
def note (c : Course) (path : Path) (changed : Bool) : Course :=
  { c with
    events := c.events ++ [.processed path.toString changed]
    drift := if changed then c.drift ++ [path.toString] else c.drift }

/-- Changes, notes and prints a source file that has been gone through, as far as it is asked for. -/
def settle (c : Course) (mode : Mode) (path : Path) (e : Source.Expanded) :
    Course × Option Failure :=
  let (c, stopped) := if mode = .inPlace then c.store path e else (c, none)
  match stopped with
  | some f => (c, some f)
  | none =>
    let c := c.note path e.changed
    if mode = .print then c.print e.text else (c, none)

end Course

/-! ## §3 Commands -/

/-- Describes the fields of a schema. -/
def describe (c : Context) (schema : String) (group : Option String) (course : Course) :
    Course × Ending :=
  let run := Tag.describe course.disk c.baseDirectory c.strict ⟨group, schema⟩
  let course := course.tell run.events
  match run.result with
  | .ok lines =>
    let (course, stopped) := course.printLines lines
    (course, .ofStop stopped)
  | .error f => (course, .failed f)

/-- Goes through a source file. -/
def expandFile (c : Context) (mode : Mode) (file : String) (course : Course) :
    Course × Option Failure :=
  let path := Path.ofString file
  match course.disk.isFile path with
  | .error f => (course, some (.fault f))
  | .ok false => (course, some (.missingSource file))
  | .ok true =>
    let run := Source.expandFile course.disk c.baseDirectory c.strict path
    let course := course.tell run.events
    match run.result with
    | .error f => (course, some f)
    | .ok e => course.settle mode path e

/-- Goes through source files up to the first failure. -/
def expandFiles (c : Context) (mode : Mode) : List String → Course → Course × Option Failure
  | [], course => (course, none)
  | file :: rest, course =>
    match expandFile c mode file course with
    | (course, some f) => (course, some f)
    | (course, none) => expandFiles c mode rest course

/-- Expands the tags of source files. -/
def expand (c : Context) (files : List String) (mode : Mode) (course : Course) :
    Course × Ending :=
  match expandFiles c mode files course with
  | (course, some f) => (course, .failed f)
  | (course, none) =>
    if mode = .check && !course.drift.isEmpty then (course, .drifted course.drift)
    else (course, .done)

/-- Answers a question about the program itself. -/
def answer (text : String) (course : Course) : Course × Ending :=
  let (course, stopped) := course.print text
  (course, .ofStop stopped)

/-- Carries out a command. -/
def perform (c : Context) (a : Action) (course : Course) : Course × Ending :=
  match a with
  | .version => answer (versionText ++ "\n") course
  | .describe schema group => describe c schema group course
  | .expand files mode => expand c files mode course

/-- Carries out an invocation in a setting of its own. -/
def Invocation.run (i : Invocation) (disk : Disk) (e : Environment) (freshId : String) :
    Outcome :=
  match Context.ofSettings i.settings e disk.workingDirectory freshId with
  | .error f => ⟨{ disk := disk }, .failed (.fault f), none⟩
  | .ok c =>
    let start : Course := { disk := disk }
    let (course, ending) :=
      perform c i.action (start.tell [.started i.action.name c.baseDirectory.toString])
    ⟨course, ending, some c⟩

/-- Carries out a command line. -/
def run (words : List String) (disk : Disk) (e : Environment) (freshId : String) : Outcome :=
  let start : Course := { disk := disk }
  let answered (text : String) : Outcome :=
    let (course, ending) := answer text start
    ⟨course, ending, none⟩
  match Invocation.read words with
  | .ok i => i.run disk e freshId
  | .error (.help g) => answered (g.usage ++ "\n" ++ g.help)
  | .error .version => answered (versionText ++ "\n")
  | .error (.misuse g m) => ⟨start, .misused g m, none⟩

/-- The files that a run did not find. -/
def Outcome.missed (o : Outcome) : List String :=
  (match o.ending with
    | .failed f => f.missedFile?.toList
    | _ => [])
  ++ o.course.events.filterMap fun
    | .retried _ reason => reason.missedFile?
    | _ => none

/-! ## §4 Reports -/

/-- The message of a failure in a report: faults are internal errors. -/
def reportText (wording : Failure → String) : Failure → String
  | .fault f => "internal error: " ++ f.message
  | f => wording f

/-- A report of a failure as a JSON object. -/
def reportJson (f : Failure) (message : String) : Value :=
  .mapping [
    (.text "error", .mapping [(.text "code", .integer f.category.exitCode),
      (.text "kind", .text f.category.kind), (.text "message", .text message)]),
    (.text "schema_version", .integer 1), (.text "status", .text "fail"),
    (.text "tool", .text program)]

/-- A report of a failure, in the form that the run asks for. -/
def report (c : Option Context) (wording : Failure → String) (f : Failure) : String :=
  let message := reportText wording f
  (if c.any Context.json then String.ofList (Json.write Json.spaced (reportJson f message))
    else message) ++ "\n"

/-- The lines of a text, each with its end. -/
def withEnds (lines : List String) : String := String.join (lines.map (· ++ "\n"))

/-- What an ending adds to the log. -/
def Ending.text (c : Option Context) (wording : Failure → String) : Ending → String
  | .done => ""
  | .drifted paths => withEnds (paths.map ("unexpanded schema tags: " ++ ·))
  | .failed f => report c wording f
  | .misused g m => g.usage ++ g.program ++ ": error: " ++ m.message ++ "\n"

/-- The log of a run and the report of its ending, failures in a wording. This is all that the
program writes beside its output; what the interpreter that runs it adds of its own, such as a
warning about a pattern that a schema asks for, is left out. -/
def Outcome.errorText (o : Outcome) (time : String) (wording : Failure → String)
    (place : Log.Line → Option Log.CodePlace := fun _ => none) : String :=
  (match o.context with
    | some c => Log.render c time (o.course.events.map Event.line) place
    | none => "")
  ++ o.ending.text o.context wording

end SchemaDoc.Command
