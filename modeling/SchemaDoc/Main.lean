/-
SchemaDoc.Main — the program.

The program reads its arguments and its environment, runs them on a disk in
memory and then prints and writes what came of it. A file is brought to that
disk when a run misses it, with the directories on the way: the run is repeated
until it misses nothing that it has not missed before.
-/
import Std.Time.DateTime
import SchemaDoc.Command.Run

open SchemaDoc

namespace SchemaDoc.Program

/-- A text that comes from outside. -/
def received (s : String) : String := String.ofList (Text.ofChars s.toList)

/-- A text as it goes outside. -/
def sent (s : String) : String := String.ofList (Text.toChars s.toList)

/-- The present time. -/
def now : IO Timestamp := do
  let t := Std.Time.DateTime.ofTimestampWithZone (← Std.Time.Timestamp.now) Std.Time.TimeZone.UTC
  let nanoseconds := t.nanosecond.val.toNat
  return ⟨⟨t.year.toInt.toNat, t.month.val.toNat, t.day.val.toNat⟩, t.hour.val.toNat,
    t.minute.val.toNat, t.second.val.toNat, nanoseconds / 1000, some 0⟩

/-- The variables of the environment that matter. -/
def environment : IO Environment := do
  let get := fun name => return (← IO.getEnv name).map received
  return ⟨← get "RUN_ID", ← get "APIDOC_SCHEMA_BASE_DIR", ← get "APIDOC_SCHEMA_LOG_FORMAT"⟩

/-- The disk with the file or the directory to which names lead from the root, if there is one. -/
def bringPlace (disk : Disk) (names : List String) : IO Disk := do
  let place := (← IO.currentDir) / sent ("/" ++ "/".intercalate names)
  if ← place.isDir then
    return { disk with tree := disk.tree.withDirectories (Path.settle names) }
  match ← (IO.FS.readBinFile place).toBaseIO with
  | .ok bytes => return { disk with tree := disk.tree.withFile (Path.settle names) bytes.toList }
  | .error _ => return disk

/-- The disk with what is at a path and on the way there. -/
def bring (disk : Disk) (path : String) : IO Disk :=
  let names := (disk.full (Path.ofString path)).names
  (List.range names.length).foldlM (fun disk n => bringPlace disk (names.take (n + 1))) disk

/-- Runs a command line on a disk, which is given every file that the run misses. -/
partial def runOn (words : List String) (e : Environment) (freshId : String) (disk : Disk)
    (sought : List String) : IO Command.Outcome := do
  let outcome := Command.run words disk e freshId
  match outcome.missed.filter (!sought.contains ·) with
  | [] => return outcome
  | paths =>
    let disk ← paths.foldlM bring disk
    runOn words e freshId disk (sought ++ paths)

end SchemaDoc.Program

/-- Runs the program. -/
def main (words : List String) : IO UInt32 := do
  let started ← Program.now
  let directory := Path.ofString (Program.received (← IO.currentDir).toString)
  let disk : Disk := ⟨Tree.withDirectories {} directory.names, directory⟩
  let outcome ← Program.runOn (words.map Program.received) (← Program.environment)
    ("apidoc-" ++ started.stamp) disk []
  for (path, text) in outcome.course.written do
    IO.FS.writeBinFile (Program.sent path.toString) ⟨(Text.encode text).toArray⟩
  IO.print (Program.sent outcome.course.output)
  IO.eprint (Program.sent (outcome.errorText (started.textWith "T") Failure.message))
  return outcome.ending.exitCode.toUInt32
