/-
SchemaDoc.Load — schema documents from texts and files.

The last suffix of a file's name tells its format. A text is read in its
format or not at all; a file must be there, have a known suffix and hold
UTF-8, in this order. Line ends of every kind are read as line feeds. How deep
a document may nest is a parameter of all readers; without it there is no
limit.
-/
import SchemaDoc.Failure
import SchemaDoc.Files.Tree
import SchemaDoc.Text.Lines
import SchemaDoc.Yaml.Document

namespace SchemaDoc

/-- A format of schema documents. -/
inductive Format where
  | yaml
  | json
  deriving DecidableEq

/-- The format of a suffix in lower case. -/
def Format.ofSuffix? (suffix : String) : Option Format :=
  if suffix = ".yaml" || suffix = ".yml" then some .yaml
  else if suffix = ".json" then some .json
  else none

namespace Load

/-- The origin of a text that comes from no file. -/
def memory : String := "<memory>"

/-- The value of a JSON text. -/
def json (text origin : String) (room : Room := none) : Except Failure Value :=
  match Json.read text.toList room with
  | .ok v => .ok v
  | .error (.form e) => .error (.invalidContent origin e.message)
  | .error (.tooManyDigits n) => .error (.fault (.tooManyDigits (some n)))
  | .error (.tooNested kind) => .error (.fault (.tooNested kind))

/-- The mark of a reading that is not told from others. -/
def onlyReading : Mark := [0]

/-- The value of a YAML text; the marks of one reading are told from those of another. -/
def yaml (reading : Mark) (text origin : String) (room : Room := none) : Except Failure Value :=
  match Yaml.read reading text.toList room with
  | .ok v => .ok v
  | .error (.complaint c) => .error (.invalidContent origin c.message)
  | .error (.fault f) => .error (.fault f)

/-- The value of a text in the format of a suffix. -/
def document (text suffix origin : String) (reading : Mark := onlyReading) (room : Room := none) :
    Except Failure Value :=
  match Format.ofSuffix? suffix with
  | some .yaml => yaml reading text origin room
  | some .json => json text origin room
  | none => .error (.unsupportedType origin)

/-- The text of a file's bytes, line ends unified. -/
def text (bytes : List UInt8) : Except Fault String :=
  match Text.decode bytes with
  | .ok s => .ok (String.ofList (Text.unifyNewlines s.toList))
  | .error e => .error (.badText e)

/-- The absolute path of a schema: blanks around it are dropped, and a relative one starts at the
base directory. -/
def locate (disk : Disk) (schema : String) (base : Path) : Except Fault Path :=
  disk.resolve (base.join (Path.ofString (String.ofList (Text.trim schema.toList))))

/-- The document in a file. The path is shown in messages as it is given. -/
def file (disk : Disk) (path : Path) (room : Room := none) : Except Failure Value := do
  match ← orFail (disk.bytes? path) with
  | none => .error (.missingFile path.toString)
  | some bytes =>
    let suffix := Text.lower path.suffix
    match Format.ofSuffix? suffix with
    | none => .error (.unsupportedType path.toString)
    | some _ => do
      let text ← orFail (text bytes)
      document text suffix path.toString onlyReading room

end Load

end SchemaDoc
