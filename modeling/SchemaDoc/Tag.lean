/-
SchemaDoc.Tag — the tags of documentation comments.

A tag is written as an at sign, its name and its content. The content of a tag
that documents fields may mention a schema file in place of one field, as in
`(body) {schema} schemas/user.yaml`; such a tag stands for one tag per field
of the schema, each with the same group.

§1 tags, §2 mentions of schemas, §3 expansion.
-/
import SchemaDoc.Resolve
import SchemaDoc.Text.Cut

namespace SchemaDoc

/-! ## §1 Tags -/

/-- A tag: its text, its name in lower case, its name as it is written, and its content. -/
structure Tag where
  text : String
  name : String
  spelling : String
  content : String
  deriving DecidableEq

namespace Tag

/-- The text of a tag. -/
def textOf (spelling content : String) : String := "@" ++ spelling ++ " " ++ content

/-- The tag of a name and a content. -/
def ofContent (spelling content : String) : Tag :=
  ⟨textOf spelling content, Text.lower spelling, spelling, content⟩

/-- The tag with another content. -/
def withContent (t : Tag) (content : String) : Tag :=
  { t with text := textOf t.spelling content, content := content }

/-- The tags that document fields. -/
def describing : List String := ["apiParam", "apiSuccess"]

end Tag

/-! ## §2 Mentions of schemas -/

/-- The mention of a schema file, with the group of its fields. -/
structure Mention where
  group : Option String
  path : String
  deriving DecidableEq

namespace Mention

/-- The word between braces that announces a schema. -/
def keyword : List Char := "schema".toList

/-- In a line, the text from the first opening brace to the last closing one that has a text before
and behind it, and that text behind it. -/
def braced? (line : List Char) : Option (List Char × List Char) :=
  match Text.cutOnce '\x7b' line with
  | (_, some inner) => match inner.getLast?, Text.cutLast? '\x7d' inner.dropLast with
    | some last, some (c :: word, behind) => some (c :: word, behind ++ [last])
    | _, _ => none
  | (_, none) => none

/-- In a line, the text from the first opening bracket to the last closing one that has a text
before it, and behind it a text and an opening brace. -/
def bracketed? (line : List Char) : Option (List Char) :=
  match Text.cutOnce '(' line with
  | (_, some inner) => match Text.cutLast? '\x7b' inner with
    | some (before, _) => match Text.cutLast? ')' before.dropLast with
      | some (c :: group, _) => some (c :: group)
      | _ => none
    | none => none
  | (_, none) => none

/-- The mention in a content: the first braces hold the keyword, and the rest of their line is the
path. The group is the first text in brackets that stands before a brace. -/
def ofContent? (content : String) : Option Mention :=
  let lines := Text.cutAt '\n' content.toList
  match lines.findSome? braced? with
  | some (word, path) =>
    if word = keyword then
      some ⟨(lines.findSome? bracketed?).map String.ofList, String.ofList (Text.trim path)⟩
    else none
  | none => none

end Mention

/-! ## §3 Expansion -/

namespace Tag

/-- A descriptor line with its group. -/
def grouped (group : Option String) (line : String) : String :=
  match Context.filled? group with
  | some g => "(" ++ g ++ ") " ++ line
  | none => line

/-- The descriptor lines of a schema file, each with the group. -/
def describe (disk : Disk) (base : Path) (strict : Bool) (m : Mention) :
    Logged (List String) := do
  let schema ← Resolve.file disk base strict m.path
  let lines ← Fields.linesOf schema Descriptor.defaultPad
  return lines.map (grouped m.group)

/-- The mention of a schema that a tag stands for. -/
def mention? (t : Tag) : Option Mention :=
  if Tag.describing.contains t.spelling then Mention.ofContent? t.content else none

/-- The tags that a tag stands for: one per field of the schema it mentions, or itself. -/
def expand (disk : Disk) (base : Path) (strict : Bool) (t : Tag) : Logged (List Tag) :=
  match t.mention? with
  | none => pure [t]
  | some m => do
    let lines ← describe disk base strict m
    Logged.tell (.expanded t.spelling m.path lines.length)
    return lines.map t.withContent

/-- The tags that tags stand for, in order. -/
def expandAll (disk : Disk) (base : Path) (strict : Bool) : List Tag → Logged (List Tag)
  | [] => pure []
  | t :: rest => do
    let here ← t.expand disk base strict
    let others ← expandAll disk base strict rest
    return here ++ others

end Tag

end SchemaDoc
