/-
SchemaDoc.Yaml.Tag — the types of nodes.

A scalar without a tag gets its type from its text: words for null and the
truth values, several notations for numbers, dates, two marks that only keys
may be, and three indicators that are no values. Everything else is text.

§1 tags, §2 integers and doubles, §3 dates, §4 the tag of a plain scalar.
-/
import SchemaDoc.Yaml.Cursor

namespace SchemaDoc.Yaml

/-! ## §1 Tags -/

/-- The type of a node. -/
inductive Tag where
  | null | bool | integer | number | binary | timestamp
  | pairList | orderedMap | set | text | sequence | mapping
  /-- The mark of a key whose mappings are merged in. -/
  | merge
  /-- The mark of a key whose value stands for the whole mapping. -/
  | value
  | unknown (name : String)
  deriving DecidableEq

/-- What all known tags start with. -/
def tagRoot : String := "tag:yaml.org,2002:"

/-- The tag of an indicator alone, which no value has. -/
def indicatorTag : Tag := .unknown (tagRoot ++ "yaml")

/-- The known tags by their names. -/
def knownTags : List (String × Tag) := [
  ("null", .null), ("bool", .bool), ("int", .integer), ("float", .number), ("binary", .binary),
  ("timestamp", .timestamp), ("omap", .orderedMap), ("pairs", .pairList), ("set", .set),
  ("str", .text), ("seq", .sequence), ("map", .mapping), ("merge", .merge), ("value", .value)]

/-- The tag of a full name. -/
def Tag.ofName (name : String) : Tag :=
  match knownTags.find? fun (n, _) => tagRoot ++ n == name with
  | some (_, t) => t
  | none => .unknown name

/-! ## §2 Integers and doubles -/

/-- A decimal digit. -/
def isDigit (c : Char) : Bool := '0' ≤ c && c ≤ '9'

/-- A decimal digit or an underscore. -/
def isDigitOrBar (c : Char) : Bool := isDigit c || c == '_'

/-- A text without a sign in front. -/
def unsigned : List Char → List Char
  | '-' :: rest => rest
  | '+' :: rest => rest
  | s => s

/-- A text is not empty and all its characters satisfy a test. -/
def nonemptyAll (p : Char → Bool) (s : List Char) : Bool := !s.isEmpty && s.all p

/-- Groups of one or two digits below 60, a colon before each, from the start of a text on; what is
left behind them. At least one group must stand there. -/
def sixtieths : List Char → Option (List Char)
  | ':' :: a :: b :: rest =>
    if isDigit b then
      if '0' ≤ a && a ≤ '5' then
        match rest with
        | ':' :: _ => sixtieths rest
        | _ => some rest
      else none
    else if isDigit a then
      match b with
      | ':' => sixtieths (b :: rest)
      | _ => some (b :: rest)
    else none
  | [':', a] => if isDigit a then some [] else none
  | _ => none

/-- Digits that may hold underscores, starting with a digit that satisfies a test; what is left. -/
def digitsFrom (p : Char → Bool) : List Char → Option (List Char)
  | c :: rest => if p c then some (rest.dropWhile isDigitOrBar) else none
  | [] => none

/-- An integer in one of its notations: binary, octal, decimal, hexadecimal or base 60. -/
def isInteger (s : List Char) : Bool :=
  let body := unsigned s
  let nonzero := fun c => isDigit c && c != '0'
  (match body with
    | '0' :: 'b' :: rest => nonemptyAll (fun c => c == '0' || c == '1' || c == '_') rest
    | '0' :: 'x' :: rest =>
      nonemptyAll (fun c => isDigit c || ('a' ≤ c && c ≤ 'f') || ('A' ≤ c && c ≤ 'F') || c == '_')
        rest
    | ['0'] => true
    | '0' :: rest => nonemptyAll (fun c => ('0' ≤ c && c ≤ '7') || c == '_') rest
    | _ => false)
  || digitsFrom nonzero body = some []
  || (digitsFrom nonzero body).bind sixtieths = some []

/-- An exponent with its sign, or nothing. -/
def isExponentOrNone : List Char → Bool
  | [] => true
  | e :: sign :: rest =>
    (e == 'e' || e == 'E') && (sign == '-' || sign == '+') && nonemptyAll isDigit rest
  | _ => false

/-- A fraction with an exponent that needs its sign. -/
def isFraction (s : List Char) : Bool := isExponentOrNone (s.dropWhile isDigitOrBar)

/-- A double in one of its notations: with a point, in base 60 with a point, or by name. -/
def isNumber (s : List Char) : Bool :=
  let body := unsigned s
  (match digitsFrom isDigit body with
    | some ('.' :: rest) => isFraction rest
    | some rest => match sixtieths rest with
      | some ('.' :: rest) => rest.all isDigitOrBar
      | _ => false
    | none => false)
  || (match s with
    | '.' :: c :: rest => isDigit c && isFraction rest
    | _ => false)
  || [".inf", ".Inf", ".INF"].contains (String.ofList body)
  || [".nan", ".NaN", ".NAN"].contains (String.ofList s)

/-! ## §3 Dates -/

/-- The parts of a date or timestamp, as digits. -/
structure TimeParts where
  year : List Char
  month : List Char
  day : List Char
  /-- Hour, minute, second and fraction. -/
  time : Option (List Char × List Char × List Char × List Char)
  /-- The distance from UTC: west or not, hours and minutes; `some none` is UTC itself. -/
  zone : Option (Option (Bool × List Char × List Char))

/-- One or two digits at the start of a text. -/
def oneOrTwoDigits : List Char → Option (List Char × List Char)
  | a :: b :: rest =>
    if isDigit a then (if isDigit b then some ([a, b], rest) else some ([a], b :: rest)) else none
  | [a] => if isDigit a then some ([a], []) else none
  | [] => none

/-- Two digits at the start of a text. -/
def twoDigits : List Char → Option (List Char × List Char)
  | a :: b :: rest => if isDigit a && isDigit b then some ([a, b], rest) else none
  | _ => none

/-- The text behind a character that it starts with. -/
def afterChar (c : Char) : List Char → Option (List Char)
  | d :: rest => if c = d then some rest else none
  | [] => none

/-- The distance from UTC at the end of a text. -/
def zone? (s : List Char) : Option (Option (Option (Bool × List Char × List Char))) :=
  match s with
  | [] => some none
  | _ => match s.dropWhile fun c => c == ' ' || c == '\t' with
    | ['Z'] => some (some none)
    | sign :: rest =>
      if sign == '-' || sign == '+' then do
        let (hours, rest) ← oneOrTwoDigits rest
        match rest with
        | [] => some (some (some (sign == '-', hours, [])))
        | ':' :: rest => do
          let (minutes, rest) ← twoDigits rest
          if rest.isEmpty then some (some (some (sign == '-', hours, minutes))) else none
        | _ => none
      else none
    | [] => none

/-- The time of day behind a date. -/
def timeOfDay? (date : TimeParts) (s : List Char) : Option TimeParts := do
  let (hour, s) ← oneOrTwoDigits s
  let (minute, s) ← afterChar ':' s >>= twoDigits
  let (second, s) ← afterChar ':' s >>= twoDigits
  let (fraction, s) := match s with
    | '.' :: rest => (rest.takeWhile isDigit, rest.dropWhile isDigit)
    | s => ([], s)
  let zone ← zone? s
  return { date with time := some (hour, minute, second, fraction), zone := zone }

/-- The parts of a date, or of a date and a time of day behind a `T` or blanks. -/
def timeParts? (s : List Char) : Option TimeParts := do
  let (y1, s) ← twoDigits s
  let (y2, s) ← twoDigits s
  let (month, s) ← afterChar '-' s >>= oneOrTwoDigits
  let (day, s) ← afterChar '-' s >>= oneOrTwoDigits
  let date : TimeParts := ⟨y1 ++ y2, month, day, none, none⟩
  match s with
  | [] => some date
  | c :: rest =>
    if c == 'T' || c == 't' then timeOfDay? date rest
    else if c == ' ' || c == '\t' then
      timeOfDay? date (rest.dropWhile fun c => c == ' ' || c == '\t')
    else none

/-- A date or timestamp: a date alone has two digits for month and day. -/
def isTimestamp (s : List Char) : Bool :=
  match timeParts? s with
  | some p => p.time.isSome || (p.month.length == 2 && p.day.length == 2)
  | none => false

/-! ## §4 The tag of a plain scalar -/

/-- A text without a line feed at its end. -/
def withoutFinalBreak (s : List Char) : List Char :=
  if s.getLast? = some '\n' then s.dropLast else s

/-- The words for truth values, lower, capitalised and upper. -/
def truthWords : List String := [
  "yes", "Yes", "YES", "no", "No", "NO", "true", "True", "TRUE", "false", "False", "FALSE",
  "on", "On", "ON", "off", "Off", "OFF"]

/-- The words for null. -/
def nullWords : List String := ["", "~", "null", "Null", "NULL"]

/-- The tag of a scalar by its text. A line feed at the end of a text that is not only that does
not count. -/
def Tag.ofText (text : String) : Tag :=
  let s := if text = "\n" then ['\n'] else withoutFinalBreak text.toList
  let word := String.ofList s
  if truthWords.contains word then .bool
  else if isNumber s then .number
  else if isInteger s then .integer
  else if word = "<<" then .merge
  else if nullWords.contains word then .null
  else if isTimestamp s then .timestamp
  else if word = "=" then .value
  else if ["!", "&", "*"].contains word then indicatorTag
  else .text

end SchemaDoc.Yaml
