/-
SchemaDoc.Log.Line — the lines of the log.

A line says when, how grave, in which run, where and what, and adds fields of
its own. As text the fields follow in the order of their names; as JSON all
facts are members of one object in that order, and a field takes the place of
a fact of the same name. The object also says from where in the code the line
is told. That is not for the program to choose, so it is given from outside.
-/
import SchemaDoc.Context
import SchemaDoc.Json.Printer

namespace SchemaDoc.Log

/-- A line of the log. -/
structure Line where
  level : String
  component : String
  action : String
  fields : List (String × Value) := []

/-- Where in the code a line is told. -/
structure CodePlace where
  file : String
  line : Nat

/-- The facts about the place in the code, if it is known. -/
def CodePlace.facts : Option CodePlace → List (Scalar × Value)
  | some place => [(.text "file", .text place.file), (.text "line", .integer place.line)]
  | none => []

namespace Line

/-- A line is written unless the run is too quiet for it: debugging has to be asked for, and a
quiet run keeps back information too. -/
def isShown (c : Context) (l : Line) : Bool :=
  !(l.level == "debug" && !c.verbose) && !((l.level == "debug" || l.level == "info") && c.quiet)

/-- The fields in the order of their names. -/
def sortedFields (l : Line) : List (String × Value) := l.fields.mergeSort fun a b => a.1 ≤ b.1

/-- A name and a value around an equals sign. -/
def assignment (name value : String) : String := name ++ "=" ++ value

/-- The line as text. -/
def text (c : Context) (time : String) (l : Line) : String :=
  " ".intercalate ([assignment "ts" time, assignment "level" l.level,
      assignment "run_id" c.runId, assignment "component" l.component,
      assignment "action" l.action]
    ++ l.sortedFields.map fun (name, value) => assignment name value.display)

/-- The facts and fields of a line; a field replaces a fact of its name. -/
def entries (c : Context) (time : String) (l : Line) (place : Option CodePlace := none) :
    List (Scalar × Value) :=
  Entries.ofList ([(.text "ts", .text time), (.text "level", .text l.level),
      (.text "run_id", .text c.runId), (.text "component", .text l.component),
      (.text "action", .text l.action)]
    ++ CodePlace.facts place
    ++ l.fields.map fun (name, value) => (.text name, value))

/-- The line as a JSON object. -/
def json (c : Context) (time : String) (l : Line) (place : Option CodePlace := none) : String :=
  String.ofList (Json.write Json.spaced (Json.sortKeys (.mapping (l.entries c time place))))

/-- The line with its end, in the form that the run asks for. -/
def render (c : Context) (time : String) (l : Line) (place : Option CodePlace := none) : String :=
  (if c.json then l.json c time place else l.text c time) ++ "\n"

end Line

/-- The lines that a run shows, one behind the other, each with the place where it is told. -/
def render (c : Context) (time : String) (lines : List Line)
    (place : Line → Option CodePlace := fun _ => none) : String :=
  String.join ((lines.filter (Line.isShown c)).map fun l => l.render c time (place l))

end SchemaDoc.Log
