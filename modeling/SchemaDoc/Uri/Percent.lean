/-
SchemaDoc.Uri.Percent — percent escapes.

An escape stands for one byte; bytes are read as UTF-8, with U+FFFD in the
place of what is none. A percent sign without two digits behind it stands for
itself. Writing escapes every byte but letters, digits, `_.-~` and the slash.

§1 reading, §2 writing, §3 files.
-/
import SchemaDoc.Files.Path
import SchemaDoc.Text.Utf8

namespace SchemaDoc.Uri

/-! ## §1 Reading -/

/-- The bytes of an ASCII text with its escapes resolved. -/
def unescapeBytes : List Char → List UInt8
  | '%' :: a :: b :: rest =>
    match Text.readHex? [a, b] with
    | some n => UInt8.ofNat n :: unescapeBytes rest
    | none => UInt8.ofNat '%'.toNat :: unescapeBytes (a :: b :: rest)
  | c :: rest => UInt8.ofNat c.toNat :: unescapeBytes rest
  | [] => []

/-- An ASCII character. -/
def isAscii (c : Char) : Bool := c.toNat < 128

/-- A text cut into runs of ASCII and of other characters, each with its kind. -/
def asciiRuns : List Char → List (Bool × List Char)
  | [] => []
  | c :: rest =>
    match asciiRuns rest with
    | (kind, run) :: runs =>
      if kind = isAscii c then (kind, c :: run) :: runs
      else (isAscii c, [c]) :: (kind, run) :: runs
    | [] => [(isAscii c, [c])]

attribute [simp] unescapeBytes

/-- A text with its escapes resolved. Escapes are read as UTF-8 within a run of ASCII. -/
def unescape (s : String) : String :=
  "".intercalate ((asciiRuns s.toList).map fun (ascii, run) =>
    if ascii then Text.decodeLossy (unescapeBytes run) else String.ofList run)

/-! ## §2 Writing -/

/-- A byte that is written as it is. -/
def isUnreserved (b : UInt8) : Bool :=
  let c := Char.ofNat b.toNat
  b < 0x80 && (c.isAlphanum || c == '_' || c == '.' || c == '-' || c == '~' || c == '/')

/-- One byte of a path. -/
def escapeByte (b : UInt8) : List Char :=
  if isUnreserved b then [Char.ofNat b.toNat]
  else '%' :: (Text.hex 2 b.toNat).map Char.toUpper

/-- Bytes with all but the unreserved ones escaped. -/
def escape (bs : List UInt8) : String := String.ofList (bs.flatMap escapeByte)

/-! ## §3 Files -/

/-- The URI of an absolute path. -/
def ofPath (p : Path) : Except Fault String :=
  match Text.unnamable? p.toString with
  | some h => .error (.notEncodable h.first h.start h.stop)
  | none => .ok ("file://" ++ escape (Text.encodeName p.toString))

/-- The path of the path part of a URI. -/
def toPath (path : List Char) : Path := Path.ofString (unescape (String.ofList path))

end SchemaDoc.Uri
