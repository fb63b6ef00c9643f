/-
SchemaDoc.Source — source texts whose tags mention schemas.

A line of a source text holds a tag when an at sign stands in it, followed by
a name that starts with `api`, blanks and a content. A line whose tag stands
for others is replaced by their lines, each behind the same prefix and with
the same end; every other line stays as it is.

§1 tag lines, §2 source texts, §3 source files.
-/
import SchemaDoc.Tag
import SchemaDoc.Text.Lines

namespace SchemaDoc.Source

/-! ## §1 Tag lines -/

/-- A tag in a line, and what stands before it. -/
structure TagLine where
  before : String
  tag : Tag
  deriving DecidableEq

/-- A text without the blanks and tabs at its end. -/
def withoutGap (s : List Char) : List Char := (s.reverse.dropWhile Text.isGap).reverse

/-- The name of a tag and what stands behind it: the letters that go on from `api`, at least one. -/
def tagName? : List Char → Option (List Char × List Char)
  | 'a' :: 'p' :: 'i' :: rest =>
    let letters := rest.takeWhile Char.isAlpha
    if letters.isEmpty then none
    else some ('a' :: 'p' :: 'i' :: letters, rest.dropWhile Char.isAlpha)
  | _ => none

/-- The content of a tag, behind at least one blank or tab: it starts with no blank of any kind and
stays within its line, up to a gap at the end. -/
def tagContent? (s : List Char) : Option (List Char) :=
  match s.dropWhile Text.isGap with
  | [] => none
  | c :: rest =>
    let content := c :: rest
    let line := if content.getLast? = some '\n' then content.dropLast else content
    if (s.head?.map Text.isGap).getD false && !Text.isBlank c && !line.contains '\n' then
      some (withoutGap line)
    else none

/-- The tag in a line. -/
def tagLine? (line : List Char) : Option TagLine :=
  match Text.cutOnce '@' line with
  | (before, some behind) =>
    if before.contains '\n' then none
    else match tagName? behind with
      | some (name, rest) => (tagContent? rest).map fun content =>
          ⟨String.ofList before, Tag.ofContent (String.ofList name) (String.ofList content)⟩
      | none => none
  | (_, none) => none

/-! ## §2 Source texts -/

/-- What tags become behind a prefix and with a line end: lines that are joined by the end, or by a
line feed where there is none, and end in it. -/
def replacement (before : String) (ending : List Char) (tags : List Tag) : List Char :=
  if tags.isEmpty then []
  else (if ending.isEmpty then ['\n'] else ending).intercalate
      (tags.map fun t => before.toList ++ t.text.toList) ++ ending

/-- What becomes of a line. -/
def expandLine (disk : Disk) (base : Path) (strict : Bool) (line : List Char) :
    Logged (List Char) :=
  let l := Text.Line.ofList line
  match tagLine? l.body with
  | none => pure line
  | some t => do
    let tags ← t.tag.expand disk base strict
    return if tags = [t.tag] then line else replacement t.before l.ending tags

/-- What becomes of lines, in order. -/
def expandLines (disk : Disk) (base : Path) (strict : Bool) :
    List (List Char) → Logged (List Char)
  | [] => pure []
  | line :: rest => do
    let here ← expandLine disk base strict line
    let others ← expandLines disk base strict rest
    return here ++ others

/-- A source text with its tags expanded. -/
def expand (disk : Disk) (base : Path) (strict : Bool) (text : String) : Logged String := do
  let chars ← expandLines disk base strict (Text.lines text.toList)
  return String.ofList chars

/-- A source text expanded in a setting, if there is one. A base directory that is not given is that
of the setting, or else the working directory; without a setting nothing is checked and nothing is
told. -/
def expandIn (disk : Disk) (base : Option Path) (c : Option Context) (text : String) :
    Logged String :=
  let directory := base.getD ((c.map Context.baseDirectory).getD disk.workingDirectory)
  let expanded := expand disk directory (c.any Context.strict) text
  { expanded with events := if c.isSome then expanded.events else [] }

/-! ## §3 Source files -/

/-- A source file that has been gone through: whether it changes, and its text. -/
structure Expanded where
  changed : Bool
  text : String
  deriving DecidableEq

/-- The text of a source file, line ends unified. -/
def read (disk : Disk) (path : Path) : Except Failure String :=
  orFail (disk.openFile path >>= Load.text)

/-- A source file with its tags expanded. -/
def expandFile (disk : Disk) (base : Path) (strict : Bool) (path : Path) : Logged Expanded := do
  let before ← read disk path
  let text ← expand disk base strict before
  return ⟨text != before, text⟩

/-- What became of a file: its new text if it changed, the disk with it, and the fault that the new
text has no bytes. -/
structure Stored where
  disk : Disk
  text : Option String := none
  fault : Option Fault := none

/-- The file gets its new text if it changes. A text that no bytes encode leaves it empty. -/
def store (disk : Disk) (path : Path) (e : Expanded) : Stored :=
  if !e.changed then ⟨disk, none, none⟩
  else match Text.unencodable? e.text with
    | none => ⟨disk.write path (Text.encode e.text), some e.text, none⟩
    | some h => ⟨disk.write path [], some "", some (.notEncodable h.first h.start h.stop)⟩

end SchemaDoc.Source
