/-
SchemaDoc.Yaml.Cursor — a place in a YAML text.

A cursor holds the text that is left and counts characters, lines and columns;
indentation is a matter of columns. The end of the text shows itself as the
character NUL, which no YAML text holds.
-/
import SchemaDoc.Text.Code

namespace SchemaDoc.Yaml

/-- A line break of YAML 1.1. -/
def isBreak (c : Char) : Bool :=
  c == '\r' || c == '\n' || c == '\x85' || c == '\u2028' || c == '\u2029'

/-- A line break or the end of the text. -/
def isLineEnd (c : Char) : Bool := c == '\x00' || isBreak c

/-- A space, a line break or the end of the text. -/
def isSpaceEnd (c : Char) : Bool := c == ' ' || isLineEnd c

/-- A space, a tab, a line break or the end of the text: what ends an indicator. -/
def isGapEnd (c : Char) : Bool := c == '\t' || isSpaceEnd c

/-- A character that a YAML text may hold. Halves of surrogate pairs are none. -/
def isAdmitted (c : Char) : Bool :=
  let n := c.toNat
  n == 9 || n == 10 || n == 13 || (0x20 ≤ n && n ≤ 0x7E) || n == 0x85
    || (0xA0 ≤ n && n ≤ 0xFFFD) || (0x10000 ≤ n && !Text.spellsHalf c)

/-- A letter, digit, hyphen or underscore of ASCII: what names are made of. -/
def isNameChar (c : Char) : Bool := c.isAlphanum || c == '-' || c == '_'

/-- The text that is left and the place where it starts. -/
structure Cursor where
  rest : List Char
  /-- The count of characters of the whole text, which bounds every reading. -/
  size : Nat
  index : Nat := 0
  line : Nat := 0
  column : Nat := 0

namespace Cursor

/-- The next character. -/
def peek (c : Cursor) : Char := c.rest.headD '\x00'

/-- The character a number of places ahead. -/
def peekAt (c : Cursor) (n : Nat) : Char := (c.rest.drop n).headD '\x00'

/-- Moves over one character. A carriage return before a line feed does not end the line, a byte
order mark has no width, and the mark of a letter is not counted apart from it. -/
def step (c : Cursor) : Cursor :=
  match c.rest with
  | [] => c
  | ch :: rest =>
    if ch = '\r' then
      if rest.head? = some '\n' then ⟨rest, c.size, c.index + 1, c.line, c.column + 1⟩
      else ⟨rest, c.size, c.index + 1, c.line + 1, 0⟩
    else if isBreak ch then ⟨rest, c.size, c.index + 1, c.line + 1, 0⟩
    else if ch = Text.mark then ⟨rest, c.size, c.index, c.line, c.column⟩
    else ⟨rest, c.size, c.index + 1, c.line, if ch = '\uFEFF' then c.column else c.column + 1⟩

/-- Moves over a number of characters. -/
def skip : Nat → Cursor → Cursor
  | 0, c => c
  | n + 1, c => skip n c.step

/-- The characters ahead that satisfy a test, and the cursor behind them. -/
def takeWhile (p : Char → Bool) (c : Cursor) : List Char × Cursor :=
  let taken := c.rest.takeWhile p
  (taken, c.skip taken.length)

/-- The cursor behind the characters ahead that satisfy a test. -/
def skipWhile (p : Char → Bool) (c : Cursor) : Cursor := (c.takeWhile p).2

/-- Moves over a line break: it counts as a line feed, unless it is one of the two separators. -/
def lineBreak? (c : Cursor) : Option (Char × Cursor) :=
  match c.rest with
  | '\r' :: '\n' :: _ => some ('\n', c.skip 2)
  | ch :: _ =>
    if ch = '\u2028' || ch = '\u2029' then some (ch, c.step)
    else if isBreak ch then some ('\n', c.step)
    else none
  | [] => none

/-- The text ahead starts with three times the character and a gap behind them. -/
def atMarker (ch : Char) (c : Cursor) : Bool :=
  c.peek == ch && c.peekAt 1 == ch && c.peekAt 2 == ch && isGapEnd (c.peekAt 3)

/-- The text ahead starts with the marker of a document's start or end. -/
def atDocumentMarker (c : Cursor) : Bool := c.atMarker '-' || c.atMarker '.'

/-- The cursor behind a comment, if one stands ahead. -/
def skipComment (c : Cursor) : Cursor :=
  if c.peek == '#' then c.skipWhile (!isLineEnd ·) else c

end Cursor

end SchemaDoc.Yaml
