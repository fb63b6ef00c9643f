/-
SchemaDoc.Text.Names — characters by their names.

Most names stand in tables; case does not count in them. Unified ideographs
and the syllables of Hangul have names made by rule, and these are read in
capitals only. Some smaller families have names that end in the code.

A table is a list of entries in the order of the codes, a comma or the end of a
line between two.
An entry of a plus sign and a number passes over that many codes. Any other
entry is a name, told by the one before it: letters in lower case say how many
characters to take from its end (a none, b one, up to z for 25, added up), and
what follows is put there instead.

§1 tables, §2 names made by rule, §3 the character of a name.
-/
import SchemaDoc.Number.Decimal
import SchemaDoc.Text.Cut
import SchemaDoc.Text.Hex
import SchemaDoc.Text.Names.Aliases
import SchemaDoc.Text.Names.From00000
import SchemaDoc.Text.Names.From01000
import SchemaDoc.Text.Names.From02000
import SchemaDoc.Text.Names.From02800
import SchemaDoc.Text.Names.From03000
import SchemaDoc.Text.Names.From0A000
import SchemaDoc.Text.Names.From10000
import SchemaDoc.Text.Names.From12000
import SchemaDoc.Text.Names.From14000
import SchemaDoc.Text.Names.From1D000
import SchemaDoc.Text.Names.From1F000

namespace SchemaDoc.Text.Names

/-! ## §1 Tables -/

/-- The tables by the codes at which they start. -/
def tables : List (Nat × String) := [
  (0, from00000), (0x1000, from01000), (0x2000, from02000), (0x2800, from02800),
  (0x3000, from03000), (0xA000, from0A000), (0x10000, from10000), (0x12000, from12000),
  (0x14000, from14000), (0x1D000, from1D000), (0x1F000, from1F000)]

/-- The entries of a table. -/
def entries (table : String) : List (List Char) :=
  (Text.cutAt '\n' table.toList).flatMap (Text.cutAt ',')

/-- How many characters the letters of an entry take away. -/
def dropCount (letters : List Char) : Nat :=
  letters.foldl (fun n c => n + (c.toNat - 'a'.toNat)) 0

/-- The code of a name among entries, the next code and the name before them being given. Names are
turned around, their last characters first. -/
def findIn (name : List Char) : Nat → List Char → List (List Char) → Option Nat
  | _, _, [] => none
  | code, before, entry :: rest =>
    match entry with
    | '+' :: count => findIn name (code + Decimal.ofDigits count) before rest
    | entry =>
      let here := (entry.dropWhile Char.isLower).reverse
        ++ before.drop (dropCount (entry.takeWhile Char.isLower))
      if here = name then some code else findIn name (code + 1) here rest

/-- The code of a name in the tables. -/
def tabled? (name : List Char) : Option Nat :=
  tables.findSome? fun (start, table) =>
    findIn name.reverse start [] (entries table)

/-- The code of a further name. -/
def alias? (name : List Char) : Option Nat :=
  (entries aliases).findSome? fun entry =>
    let (code, other) := Text.cutOnce ' ' entry
    if other = some name then some (Decimal.ofDigits code) else none

/-! ## §2 Names made by rule -/

/-- A code lies in one of some ranges. -/
def inRanges (ranges : List (Nat × Nat)) (code : Nat) : Bool :=
  ranges.any fun (low, high) => low ≤ code && code ≤ high

/-- The text behind another one that it starts with. -/
def behind? (start : String) (s : List Char) : Option (List Char) :=
  if start.toList.isPrefixOf s then some (s.drop start.length) else none

/-- The unified ideographs. -/
def unified : List (Nat × Nat) := [
  (0x3400, 0x4DBF), (0x4E00, 0x9FFF), (0x20000, 0x2A6DF), (0x2A700, 0x2B738), (0x2B740, 0x2B81D),
  (0x2B820, 0x2CEA1), (0x2CEB0, 0x2EBE0), (0x30000, 0x3134A)]

/-- A digit of a code in a name: capitals only. -/
def isCapitalHex (c : Char) : Bool := c.isDigit || ('A' ≤ c && c ≤ 'F')

/-- The unified ideograph of a code in four or five digits. -/
def unified? (digits : List Char) : Option Nat :=
  if (digits.length = 4 || digits.length = 5) && digits.all isCapitalHex then
    (Text.readHex? digits).filter (inRanges unified)
  else none

/-- The families of characters whose names end in their codes, case not counting. -/
def families : List (String × List (Nat × Nat)) := [
  ("CJK COMPATIBILITY IDEOGRAPH-", [(0xF900, 0xFA6D), (0xFA70, 0xFAD9), (0x2F800, 0x2FA1D)]),
  ("KHITAN SMALL SCRIPT CHARACTER-", [(0x18B00, 0x18CD5)]),
  ("NUSHU CHARACTER-", [(0x1B170, 0x1B2FB)])]

/-- The member of a family of a name. -/
def member? (name : List Char) : Option Nat :=
  families.findSome? fun (start, ranges) => do
    let digits ← behind? start name
    let code ← Text.readHex? digits
    if inRanges ranges code && digits.length = (if code < 0x10000 then 4 else 5) then some code
    else none

/-- The sounds that a syllable of Hangul starts with. -/
def initials : List String := [
  "G", "GG", "N", "D", "DD", "R", "M", "B", "BB", "S", "SS", "", "J", "JJ", "C", "K", "T", "P", "H"]

/-- The vowels of a syllable of Hangul. -/
def vowels : List String := [
  "A", "AE", "YA", "YAE", "EO", "E", "YEO", "YE", "O", "WA", "WAE", "OE", "YO", "U", "WEO", "WE",
  "WI", "YU", "EU", "YI", "I"]

/-- The sounds that a syllable of Hangul ends with. -/
def finals : List String := [
  "", "G", "GG", "GS", "N", "NJ", "NH", "D", "L", "LG", "LM", "LB", "LS", "LT", "LP", "LH", "M",
  "B", "BS", "S", "SS", "NG", "J", "C", "K", "T", "P", "H"]

/-- The longest of some sounds that a text starts with, by its place, and the text behind it. -/
def sound? (sounds : List String) (s : List Char) : Option (Nat × List Char) :=
  sounds.zipIdx.foldl (fun best (sound, place) =>
    match behind? sound s, best with
    | some rest, none => some (place, rest)
    | some rest, some (_, left) => if rest.length < left.length then some (place, rest) else best
    | none, best => best) none

/-- The syllable of Hangul that its sounds name. -/
def syllable? (s : List Char) : Option Nat := do
  let (initial, s) ← sound? initials s
  let (vowel, s) ← sound? vowels s
  let (final, s) ← sound? finals s
  if s.isEmpty then some (0xAC00 + (initial * vowels.length + vowel) * finals.length + final)
  else none

/-! ## §3 The character of a name -/

/-- The code of the character of a name. -/
def code? (name : List Char) : Option Nat :=
  match behind? "HANGUL SYLLABLE " name, behind? "CJK UNIFIED IDEOGRAPH-" name with
  | some sounds, _ => syllable? sounds
  | none, some digits => unified? digits
  | none, none =>
    let capitals := name.map Char.toUpper
    (tabled? capitals).or ((alias? capitals).or (member? capitals))

end SchemaDoc.Text.Names
