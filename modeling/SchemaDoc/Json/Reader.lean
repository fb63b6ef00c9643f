/-
SchemaDoc.Json.Reader — reading JSON text.

The reader takes the usual grammar and three names besides, `NaN`, `Infinity`
and `-Infinity`. A repeated key keeps its first place and takes the last
value. An escape that is half of a surrogate pair without its other half is
kept as such a half.

Every step takes the text that is left and gives back what it has not used;
the place of an error is therefore the text that is left there, and becomes a
line and a column only in the message. The steps nest as deep as brackets do;
their fuel is bound by the length of the text, and a limit to the depth is a
parameter of its own.

§1 errors, §2 strings, §3 numbers, §4 values, §5 documents.
-/
import SchemaDoc.Json.Printer
import SchemaDoc.Room

namespace SchemaDoc.Json

/-! ## §1 Errors -/

/-- What the reader missed or met. -/
inductive Complaint where
  | byteOrderMark
  | expectingValue
  | expectingName
  | expectingColon
  | expectingComma
  | extraData
  | controlCharacter
  | unterminatedString
  | badEscape
  | badUnitEscape
  deriving DecidableEq

/-- The wording of a complaint. -/
def Complaint.message : Complaint → String
  | .byteOrderMark => "Unexpected UTF-8 BOM (decode using utf-8-sig)"
  | .expectingValue => "Expecting value"
  | .expectingName => "Expecting property name enclosed in double quotes"
  | .expectingColon => "Expecting ':' delimiter"
  | .expectingComma => "Expecting ',' delimiter"
  | .extraData => "Extra data"
  | .controlCharacter => "Invalid control character at"
  | .unterminatedString => "Unterminated string starting at"
  | .badEscape => "Invalid \\escape"
  | .badUnitEscape => "Invalid \\uXXXX escape"

/-- A complaint and the offset of its place. -/
structure SyntaxError where
  complaint : Complaint
  before : List Char
  deriving DecidableEq

/-- The complaint with its line, column and offset; lines and columns count from one. -/
def SyntaxError.message (e : SyntaxError) : String :=
  let line := e.before.count '\n' + 1
  let column := Text.count (e.before.reverse.takeWhile (· != '\n')).reverse + 1
  e.complaint.message ++ ": line " ++ toString line ++ " column " ++ toString column
    ++ " (char " ++ toString (Text.count e.before) ++ ")"

/-- Why a step failed: a complaint about the text that is left, an integer with too many digits, or
a value of a kind for which there is no room. -/
inductive Stop where
  | complaint (c : Complaint) (left : List Char)
  | tooManyDigits (count : Nat)
  | tooNested (kind : Kind)

/-- A step reads a part and gives back the text that is left. -/
abbrev Step (α : Type) := Except Stop (α × List Char)

/-! ## §2 Strings -/

/-- The character of a one-letter escape. -/
def unescape? (c : Char) : Option Char :=
  if c = '"' then some '"'
  else if c = '\\' then some '\\'
  else if c = '/' then some '/'
  else if c = 'b' then some '\x08'
  else if c = 'f' then some '\x0c'
  else if c = 'n' then some '\n'
  else if c = 'r' then some '\r'
  else if c = 't' then some '\t'
  else none

/-- The unit that four hexadecimal digits write. -/
def unit? (a b c d : Char) : Option Nat := Text.readHex? [a, b, c, d]

/-- The first half of a surrogate pair. -/
def isHigh (n : Nat) : Bool := 0xD800 ≤ n && n ≤ 0xDBFF

/-- The second half of a surrogate pair. -/
def isLow (n : Nat) : Bool := 0xDC00 ≤ n && n ≤ 0xDFFF

/-- The code point of a surrogate pair. -/
def ofPair (high low : Nat) : Nat := 0x10000 + (high - 0xD800) * 0x400 + (low - 0xDC00)

/-- A part of a string: a character, or a unit written as an escape. -/
inductive Piece where
  | char (c : Char)
  | unit (n : Nat)

/-- The text of a string's parts: an escaped pair of surrogates is one character. -/
def joinPieces : List Piece → List Char
  | [] => []
  | .char c :: rest => c :: joinPieces rest
  | .unit n :: .unit m :: rest =>
    if isHigh n && isLow m then Text.spell (ofPair n m) ++ joinPieces rest
    else Text.spell n ++ joinPieces (.unit m :: rest)
  | .unit n :: rest => Text.spell n ++ joinPieces rest

/-- The parts of a string up to its closing quote. `start` is the text from the opening quote
on. -/
def pieces (start : List Char) : List Char → Step (List Piece)
  | [] => .error (.complaint .unterminatedString start)
  | '"' :: rest => .ok ([], rest)
  | '\\' :: 'u' :: a :: b :: c :: d :: rest =>
    match unit? a b c d, rest with
    | some n, _ :: _ => (pieces start rest).map fun (ps, left) => (.unit n :: ps, left)
    | _, _ => .error (.complaint .badUnitEscape ('u' :: a :: b :: c :: d :: rest))
  | '\\' :: 'u' :: rest => .error (.complaint .badUnitEscape ('u' :: rest))
  | ['\\'] => .error (.complaint .unterminatedString start)
  | '\\' :: c :: rest =>
    match unescape? c with
    | some c' => (pieces start rest).map fun (ps, left) => (.char c' :: ps, left)
    | none => .error (.complaint .badEscape ('\\' :: c :: rest))
  | c :: rest =>
    if c.toNat < 0x20 then .error (.complaint .controlCharacter (c :: rest))
    else (pieces start rest).map fun (ps, left) => (.char c :: ps, left)

attribute [simp] pieces

/-- The characters of a string up to its closing quote. -/
def stringBody (start s : List Char) : Step (List Char) :=
  (pieces start s).map fun (ps, left) => (joinPieces ps, left)

/-! ## §3 Numbers -/

/-- An ASCII digit. -/
def isDigit (c : Char) : Bool := '0' ≤ c && c ≤ '9'

/-- The whole digits of a number: a single zero, or digits that start with another. -/
def wholeDigits : List Char → Option (List Char × List Char)
  | '0' :: rest => some (['0'], rest)
  | c :: rest =>
    if isDigit c then some (c :: rest.takeWhile isDigit, rest.dropWhile isDigit) else none
  | [] => none

/-- The digits after a point; a point without any is not part of the number. -/
def fractionDigits : List Char → List Char × List Char
  | '.' :: c :: rest =>
    if isDigit c then (c :: rest.takeWhile isDigit, rest.dropWhile isDigit)
    else ([], '.' :: c :: rest)
  | s => ([], s)

/-- The exponent after `e`; without a digit it is not part of the number. -/
def exponentPart (s : List Char) : Option Int × List Char :=
  match s with
  | e :: rest =>
    if e = 'e' || e = 'E' then
      let (negative, digits) := match rest with
        | '-' :: ds => (true, ds)
        | '+' :: ds => (false, ds)
        | ds => (false, ds)
      match digits.takeWhile isDigit with
      | [] => (none, s)
      | ds =>
        let n : Int := Decimal.ofDigits ds
        (some (if negative then -n else n), digits.dropWhile isDigit)
    else (none, s)
  | [] => (none, s)

/-- An integer, or a double if there is a fraction or an exponent. `start` is the text from the
sign on. -/
def numberAfterSign (start : List Char) (negative : Bool) (s : List Char) : Step Value :=
  match wholeDigits s with
  | none => .error (.complaint .expectingValue start)
  | some (whole, left) =>
    let (fraction, left) := fractionDigits left
    let (exponent, left) := exponentPart left
    if fraction.isEmpty && exponent.isNone then
      if whole.length ≤ Decimal.maxDigits then
        let n : Int := Decimal.ofDigits whole
        .ok (.integer (if negative then -n else n), left)
      else .error (.tooManyDigits whole.length)
    else
      .ok (.number (Decimal.toBinary64 negative (Decimal.ofDigits (whole ++ fraction))
        (exponent.getD 0 - fraction.length)), left)

/-! ## §4 Values -/

/-- A blank between tokens. -/
def isSpace (c : Char) : Bool := c == ' ' || c == '\t' || c == '\n' || c == '\r'

/-- The text from the next token on. -/
def skipSpace (s : List Char) : List Char := s.dropWhile isSpace

/-- The text after a word that it starts with. -/
def afterWord? : List Char → List Char → Option (List Char)
  | [], s => some s
  | _ :: _, [] => none
  | w :: ws, c :: s => if w = c then afterWord? ws s else none

/-- The mark of what JSON names as not a number. -/
def nanMark : Mark := [0]

/-- The names that stand for values, with their values. -/
def names : List (List Char × Value) := [
  ("null".toList, .null), ("true".toList, .bool true), ("false".toList, .bool false),
  ("NaN".toList, .number (.nan nanMark)), ("Infinity".toList, .number (.infinite false)),
  ("-Infinity".toList, .number (.infinite true))]

/-- A name, if the text starts with one. -/
def name? (s : List Char) : Option (Value × List Char) :=
  names.findSome? fun (word, v) => (afterWord? word s).map fun left => (v, left)

/-- A step behind the bracket that opens a value, with the room that is left inside. -/
def inside {α : Type} (kind : Kind) (room : Room) (step : Room → Step α) : Step α :=
  room.enter (.error (.tooNested kind)) step

mutual

/-- A value at the start of the text. -/
def value : Nat → List Char → (room : Room := none) → Step Value
  | 0, s, _ => .error (.complaint .expectingValue s)
  | fuel + 1, s, room =>
    match s with
    | [] => .error (.complaint .expectingValue s)
    | '"' :: rest => (stringBody s rest).map fun (cs, left) => (.text (String.ofList cs), left)
    | '\x7b' :: rest => inside .mapping room fun room =>
      match skipSpace rest with
      | '\x7d' :: left => .ok (.mapping [], left)
      | left => (members fuel left room).map fun (es, left) => (.mapping (Entries.ofList es), left)
    | '[' :: rest => inside .sequence room fun room =>
      match skipSpace rest with
      | ']' :: left => .ok (.sequence [], left)
      | left => (items fuel left room).map fun (vs, left) => (.sequence vs, left)
    | c :: rest =>
      match name? s with
      | some r => .ok r
      | none => if c = '-' then numberAfterSign s true rest else numberAfterSign s false s

/-- The items of an array from the first one on, with the closing bracket. -/
def items : Nat → List Char → (room : Room := none) → Except Stop (List Value × List Char)
  | 0, s, _ => .error (.complaint .expectingValue s)
  | fuel + 1, s, room => do
    let (v, left) ← value fuel s room
    match skipSpace left with
    | ']' :: left => return ([v], left)
    | ',' :: left =>
      let (vs, left) ← items fuel (skipSpace left) room
      return (v :: vs, left)
    | left => throw (.complaint .expectingComma left)

/-- The members of an object from the first name on, with the closing brace. -/
def members : Nat → List Char → (room : Room := none) →
    Except Stop (List (Scalar × Value) × List Char)
  | 0, s, _ => .error (.complaint .expectingValue s)
  | fuel + 1, s, room =>
    match s with
    | '"' :: rest => do
      let (k, left) ← stringBody s rest
      match skipSpace left with
      | ':' :: left =>
        let (v, left) ← value fuel (skipSpace left) room
        let entry := (Scalar.text (String.ofList k), v)
        match skipSpace left with
        | '\x7d' :: left => return ([entry], left)
        | ',' :: left =>
          let (es, left) ← members fuel (skipSpace left) room
          return (entry :: es, left)
        | left => throw (.complaint .expectingComma left)
      | left => throw (.complaint .expectingColon left)
    | _ => .error (.complaint .expectingName s)

end

/-! ## §5 Documents -/

/-- Why a text is no JSON document. -/
inductive ReadError where
  | form (e : SyntaxError)
  | tooManyDigits (count : Nat)
  | tooNested (kind : Kind)
  deriving DecidableEq

/-- The error of a step on a text. -/
def Stop.toReadError (text : List Char) : Stop → ReadError
  | .complaint c left => .form ⟨c, text.take (text.length - left.length)⟩
  | .tooManyDigits count => .tooManyDigits count
  | .tooNested kind => .tooNested kind

/-- Fuel for a text: every two nested steps use a character. -/
def fuelFor (s : List Char) : Nat := 2 * s.length + 2

/-- The value that a text holds, blanks around it allowed. -/
def read (s : List Char) (room : Room := none) : Except ReadError Value :=
  if s.head? = some '\uFEFF' then .error (.form ⟨.byteOrderMark, []⟩)
  else
    let start := skipSpace s
    match value (fuelFor s) start room with
    | .error stop => .error (stop.toReadError s)
    | .ok (v, left) =>
      match skipSpace left with
      | [] => .ok v
      | left => .error ((Stop.complaint .extraData left).toReadError s)

end SchemaDoc.Json
