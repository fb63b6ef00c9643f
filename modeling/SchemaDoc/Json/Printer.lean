/-
SchemaDoc.Json.Printer — JSON text of a value.

One printer serves two layouts: compact text with every character as it is,
for defaults in descriptor lines, and spaced ASCII text, for log lines and
error reports. Sequences and pairs are arrays, and a key of a mapping is
written as a string whatever scalar it is. Sets, bytes, dates and values that
hold themselves have no notation: `render` refuses them, and `write` puts down
something in their place.

§1 strings, §2 scalars, §3 values, §4 what has a notation, §5 key order.
-/
import SchemaDoc.Text.Code
import SchemaDoc.Value.Text

namespace SchemaDoc.Json

/-- What a layout decides: the two separators, and whether only ASCII is written. -/
structure Layout where
  betweenItems : List Char
  afterKey : List Char
  ascii : Bool

/-- No blanks, characters as they are. -/
def compact : Layout := ⟨[','], [':'], false⟩

/-- A blank after each separator, ASCII only. -/
def spaced : Layout := ⟨[',', ' '], [':', ' '], true⟩

/-! ## §1 Strings -/

/-- An escape by number, in one or two units of sixteen bits. -/
def escapeUnits (n : Nat) : List Char :=
  if n < 0x10000 then ['\\', 'u'] ++ Text.hex 4 n
  else ['\\', 'u'] ++ Text.hex 4 (0xD800 + (n - 0x10000) / 0x400)
    ++ ['\\', 'u'] ++ Text.hex 4 (0xDC00 + (n - 0x10000) % 0x400)

/-- One code point inside a string. -/
def escapeCode (ascii : Bool) (n : Nat) : List Char :=
  let c := Char.ofNat n
  if c = '"' then ['\\', '"']
  else if c = '\\' then ['\\', '\\']
  else if c = '\n' then ['\\', 'n']
  else if c = '\r' then ['\\', 'r']
  else if c = '\t' then ['\\', 't']
  else if c = '\x08' then ['\\', 'b']
  else if c = '\x0c' then ['\\', 'f']
  else if n < 0x20 || (ascii && 0x7E < n) then escapeUnits n
  else Text.spell n

/-- A string in quotes. -/
def string (ascii : Bool) (s : List Char) : List Char :=
  ['"'] ++ (Text.codes s).flatMap (escapeCode ascii) ++ ['"']

/-! ## §2 Scalars -/

/-- A double; what JSON has no number for goes by a name. -/
def number (x : Binary64) : List Char :=
  match x with
  | .nan _ => "NaN".toList
  | .infinite negative => (if negative then "-Infinity" else "Infinity").toList
  | x => Decimal.ofBinary64 x

/-- A scalar as a JSON value. A scalar that JSON has no notation for is written as its text. -/
def scalar (layout : Layout) : Scalar → List Char
  | .null => "null".toList
  | .bool b => (if b then "true" else "false").toList
  | .integer n => Decimal.integer n
  | .number x => number x
  | .text s => string layout.ascii s.toList
  | s => string layout.ascii s.display.toList

/-- A scalar as the key of an object: its notation in quotes, unless it has quotes already. -/
def key (layout : Layout) : Scalar → List Char
  | .null => ['"'] ++ scalar layout .null ++ ['"']
  | .bool b => ['"'] ++ scalar layout (.bool b) ++ ['"']
  | .integer n => ['"'] ++ scalar layout (.integer n) ++ ['"']
  | .number x => ['"'] ++ scalar layout (.number x) ++ ['"']
  | s => scalar layout s

/-! ## §3 Values -/

mutual

/-- The JSON text of a value; parts that JSON has no notation for are written in other ways. -/
def write (layout : Layout) : Value → List Char
  | .scalar s => scalar layout s
  | .sequence items => ['['] ++ layout.betweenItems.intercalate (writeItems layout items) ++ [']']
  | .pair first second =>
    ['['] ++ write layout first ++ layout.betweenItems ++ write layout second ++ [']']
  | .set members =>
    ['['] ++ layout.betweenItems.intercalate (members.map (scalar layout)) ++ [']']
  | .mapping entries =>
    ['\x7b'] ++ layout.betweenItems.intercalate (writeEntries layout entries) ++ ['\x7d']
  | .looped _ body => string layout.ascii body.ellipsis.toList

/-- The JSON texts of the items of an array. -/
def writeItems (layout : Layout) : List Value → List (List Char)
  | [] => []
  | v :: rest => write layout v :: writeItems layout rest

/-- The JSON texts of the members of an object. -/
def writeEntries (layout : Layout) : List (Scalar × Value) → List (List Char)
  | [] => []
  | (k, v) :: rest =>
    (key layout k ++ layout.afterKey ++ write layout v) :: writeEntries layout rest

end

/-! ## §4 What has a notation -/

/-- Why a scalar has no notation as a value. -/
def scalarFault? : Scalar → Option Fault
  | .integer n => if Decimal.isTooLong n then some (.tooManyDigits none) else none
  | .bytes _ => some (.notJson .bytes)
  | .date _ => some (.notJson .date)
  | .timestamp _ => some (.notJson .timestamp)
  | _ => none

/-- Why a scalar has no notation as a key. -/
def keyFault? : Scalar → Option Fault
  | .integer n => if Decimal.isTooLong n then some (.tooManyDigits none) else none
  | .bytes _ => some (.notJsonKey .bytes)
  | .date _ => some (.notJsonKey .date)
  | .timestamp _ => some (.notJsonKey .timestamp)
  | _ => none

mutual

/-- Why a value has no notation: the fault of its first part without one. -/
def fault? : Value → Option Fault
  | .scalar s => scalarFault? s
  | .sequence items => itemsFault? items
  | .pair first second => (fault? first).or (fault? second)
  | .set _ => some (.notJson .set)
  | .mapping entries => entriesFault? entries
  | .looped _ _ => some .tooDeep

/-- The fault of the first item without a notation. -/
def itemsFault? : List Value → Option Fault
  | [] => none
  | v :: rest => (fault? v).or (itemsFault? rest)

/-- The fault of the first key or value without a notation. -/
def entriesFault? : List (Scalar × Value) → Option Fault
  | [] => none
  | (k, v) :: rest => ((keyFault? k).or (fault? v)).or (entriesFault? rest)

end

/-- The JSON text of a value that has one. -/
def render (layout : Layout) (v : Value) : Except Fault (List Char) :=
  match fault? v with
  | some f => .error f
  | none => .ok (write layout v)

/-! ## §5 Key order -/

/-- The order of keys is the order of their texts, by code points. -/
def keyLe (a b : Scalar × Value) : Bool := Text.codesLe a.1.display.toList b.1.display.toList

mutual

/-- The same value with the keys of every mapping in order. -/
def sortKeys : Value → Value
  | .scalar s => .scalar s
  | .sequence items => .sequence (sortItems items)
  | .pair first second => .pair (sortKeys first) (sortKeys second)
  | .set members => .set members
  | .mapping entries => .mapping ((sortEntries entries).mergeSort keyLe)
  | .looped mark body => .looped mark body

/-- Key order inside the items of a sequence. -/
def sortItems : List Value → List Value
  | [] => []
  | v :: rest => sortKeys v :: sortItems rest

/-- Key order inside the values of a mapping. -/
def sortEntries : List (Scalar × Value) → List (Scalar × Value)
  | [] => []
  | (k, v) :: rest => (k, sortKeys v) :: sortEntries rest

end

end SchemaDoc.Json
