/-
SchemaDoc.Text.Quoted — texts and bytes in quotes, as messages show them.

A quoted text stands between single quotes, or between double quotes if it
holds a single quote and no double one. The backslash, the chosen quote, line
feeds, carriage returns and tabs are escaped by a letter; other code points
without a glyph by their number in two, four or eight hexadecimal digits.
-/
import SchemaDoc.Text.Code
import SchemaDoc.Text.Hex
import SchemaDoc.Text.Printable

namespace SchemaDoc.Text

/-- The quote for a text: single unless only single quotes occur in it. -/
def chooseQuote (s : List Char) : Char :=
  if s.contains '\'' && !s.contains '"' then '"' else '\''

/-- One code point inside quotes of the given kind. A half of a surrogate pair has no glyph. -/
def escapeCode (quote : Char) (n : Nat) : List Char :=
  let c := Char.ofNat n
  if c = '\\' || c = quote then ['\\', c]
  else if c = '\n' then ['\\', 'n']
  else if c = '\r' then ['\\', 'r']
  else if c = '\t' then ['\\', 't']
  else if isPrintable c then [c]
  else if n < 0x100 then ['\\', 'x'] ++ hex 2 n
  else if n < 0x10000 then ['\\', 'u'] ++ hex 4 n
  else ['\\', 'U'] ++ hex 8 n

/-- A text in quotes. -/
def quote (s : String) : String :=
  let cs := s.toList
  let q := chooseQuote cs
  String.ofList ([q] ++ (codes cs).flatMap (escapeCode q) ++ [q])

/-- One byte inside quotes: ASCII with a glyph as it is, others by number. -/
def escapeByte (quote : Char) (b : UInt8) : List Char :=
  if b < 0x80 then escapeCode quote b.toNat else ['\\', 'x'] ++ hex 2 b.toNat

/-- Bytes in quotes, marked by a leading `b`. -/
def quoteBytes (bs : List UInt8) : String :=
  let q := chooseQuote (bs.map fun b => Char.ofNat b.toNat)
  String.ofList (['b', q] ++ bs.flatMap (escapeByte q) ++ [q])

end SchemaDoc.Text
