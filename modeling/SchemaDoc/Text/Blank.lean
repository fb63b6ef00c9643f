/-
SchemaDoc.Text.Blank — white space and trimming.

White space is the Unicode notion: the ASCII blanks, the four information
separators U+001C … U+001F, NEL, and every space separator. Schema paths in
tags are trimmed by it, and a tag's content may not start with it.
-/

namespace SchemaDoc.Text

/-- White space of any script, line breaks included. -/
def isBlank (c : Char) : Bool :=
  let n := c.toNat
  (9 ≤ n && n ≤ 13) || (28 ≤ n && n ≤ 32) || n == 0x85 || n == 0xA0 || n == 0x1680
    || (0x2000 ≤ n && n ≤ 0x200A) || n == 0x2028 || n == 0x2029 || n == 0x202F
    || n == 0x205F || n == 0x3000

/-- A text without the white space at its start. -/
def trimStart (s : List Char) : List Char := s.dropWhile isBlank

/-- A text without the white space at its end. -/
def trimEnd (s : List Char) : List Char := (s.reverse.dropWhile isBlank).reverse

/-- A text without the white space at both ends. -/
def trim (s : List Char) : List Char := trimEnd (trimStart s)

/-- A space or a tab: the only separators inside a tag line. -/
def isGap (c : Char) : Bool := c == ' ' || c == '\t'

end SchemaDoc.Text
