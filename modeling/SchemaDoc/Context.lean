/-
SchemaDoc.Context — the setting of one run.

A run has an identifier for its log lines, a base directory for schemas and
references, a form and a measure of logging, and may check its schemas. What
is not asked for is looked up in the environment, and then has a default.
-/
import SchemaDoc.Files.Path

namespace SchemaDoc

/-- The setting of a run. -/
structure Context where
  runId : String
  baseDirectory : Path
  /-- Log lines and error reports are JSON. -/
  json : Bool := false
  /-- Log lines for debugging are written. -/
  verbose : Bool := false
  /-- Only warnings and errors are logged. -/
  quiet : Bool := false
  /-- Schemas are checked against their dialect. -/
  strict : Bool := false
  deriving DecidableEq

/-- The variables of the environment that a setting falls back to. -/
structure Environment where
  runId : Option String := none
  baseDirectory : Option String := none
  logFormat : Option String := none

/-- What is asked for. -/
structure Settings where
  runId : Option String := none
  baseDirectory : Option String := none
  logFormat : Option String := none
  verbose : Bool := false
  quiet : Bool := false
  strict : Bool := false

namespace Context

/-- A text that is given and not empty. -/
def filled? (s : Option String) : Option String := s.filter (· != "")

/-- The setting for what is asked for. An empty text asks for nothing; an empty variable still names
a run and a format. -/
def ofSettings (s : Settings) (e : Environment) (workingDirectory : Path) (freshId : String) :
    Except Fault Context := do
  let base := ((filled? s.baseDirectory).or (filled? e.baseDirectory)).map Path.ofString
  let directory ← (base.getD workingDirectory).resolve workingDirectory
  return {
    runId := ((filled? s.runId).or e.runId).getD freshId
    baseDirectory := directory
    json := ((filled? s.logFormat).or e.logFormat) == some "json"
    verbose := s.verbose
    quiet := s.quiet
    strict := s.strict }

end Context

end SchemaDoc
