/-
SchemaDoc.Number.Reading — numbers written as free text.

Where a text is asked to be a number, blanks around it are passed over, a sign
may stand in front, digits may be of any script, and single underscores may
stand between digits. Integers may be in base 2, 8, 10 or 16, with or without
the mark of their base; only in base 10 is their length limited. The four
information separators are no blanks here.
-/
import SchemaDoc.Fault
import SchemaDoc.Text.Blank
import SchemaDoc.Text.Letters
import SchemaDoc.Text.Quoted

namespace SchemaDoc.Reading

/-- A blank around a number. -/
def isSpace (c : Char) : Bool := Text.isBlank c && !(0x1C ≤ c.toNat && c.toNat ≤ 0x1F)

/-- A text without the blanks around it. -/
def trim (s : List Char) : List Char :=
  ((s.dropWhile isSpace).reverse.dropWhile isSpace).reverse

/-- A sign in front of a text, and the text after it. -/
def signed : List Char → Bool × List Char
  | '-' :: rest => (true, rest)
  | '+' :: rest => (false, rest)
  | rest => (false, rest)

/-- The value of a digit in a base, decimal digits of any script included. -/
def digitIn? (base : Nat) (c : Char) : Option Nat :=
  match Text.digitValue? c with
  | some d => if d < base then some d else none
  | none => match Text.hexValue? c with
    | some d => if d < base then some d else none
    | none => none

/-- The digits at the start of a text, single underscores between them passed over; `after` says
that a digit or a base mark stands in front. -/
def digitRun (base : Nat) (after : Bool) : List Char → List Nat × List Char
  | [] => ([], [])
  | c :: rest =>
    match digitIn? base c with
    | some d =>
      let (ds, left) := digitRun base true rest
      (d :: ds, left)
    | none =>
      if c = '_' && after then
        match rest with
        | [] => ([], ['_'])
        | n :: rest' =>
          match digitIn? base n with
          | some d =>
            let (ds, left) := digitRun base true rest'
            (d :: ds, left)
          | none => ([], '_' :: n :: rest')
      else ([], c :: rest)

/-- The letter that marks a base. -/
def baseMark? : Nat → Option Char
  | 2 => some 'b'
  | 8 => some 'o'
  | 16 => some 'x'
  | _ => none

/-- A text without the mark of its base, and whether there was one. -/
def withoutMark (base : Nat) (s : List Char) : Bool × List Char :=
  match s with
  | '0' :: m :: rest =>
    if baseMark? base = some m.toLower then (true, rest) else (false, s)
  | s => (false, s)

/-- The number that digits write in a base. -/
def ofDigits (base : Nat) (ds : List Nat) : Nat := ds.foldl (fun acc d => base * acc + d) 0

/-- The most characters of a text that is no integer to be shown, its quotes included. -/
def maxShown : Nat := 200

/-- The integer that a text writes in a base. An underscore out of place is met before the digits
are counted. -/
def integer (base : Nat) (s : String) : Except Fault Int :=
  let bad := Fault.notInteger base (String.ofList ((Text.quote s).toList.take maxShown))
  let (negative, body) := signed (trim s.toList)
  let (marked, body) := withoutMark base body
  let (ds, left) := digitRun base marked body
  if ds.isEmpty || left.head? = some '_' then .error bad
  else if base = 10 && Decimal.maxDigits < ds.length then .error (.tooManyDigits (some ds.length))
  else if !left.isEmpty then .error bad
  else
    let n : Int := ofDigits base ds
    .ok (if negative then -n else n)

/-- The names that stand for doubles; what is not a number gets the mark. -/
def namedNumber? (mark : Mark) (negative : Bool) (s : List Char) : Option Binary64 :=
  let word := String.ofList (s.map Char.toLower)
  if word = "inf" || word = "infinity" then some (.infinite negative)
  else if word = "nan" then some (.nan mark)
  else none

/-- The exponent at the start of a text; `none` if it starts with no well-formed one. -/
def exponent? : List Char → Option (Int × List Char)
  | [] => some (0, [])
  | e :: rest =>
    if e = 'e' || e = 'E' then
      let (negative, body) := signed rest
      let (ds, left) := digitRun 10 false body
      if ds.isEmpty then none
      else
        let n : Int := ofDigits 10 ds
        some (if negative then -n else n, left)
    else none

/-- The double that a text writes; what is not a number gets the mark. -/
def number (mark : Mark) (s : String) : Except Fault Binary64 :=
  let bad := Fault.notNumber (Text.quote s)
  let (negative, body) := signed (trim s.toList)
  match namedNumber? mark negative body with
  | some x => .ok x
  | none =>
    let (whole, left) := digitRun 10 false body
    let (fraction, left) := match left with
      | '.' :: rest => digitRun 10 false rest
      | left => ([], left)
    if whole.isEmpty && fraction.isEmpty then .error bad
    else match exponent? left with
      | some (e, []) =>
        .ok (Decimal.toBinary64 negative (ofDigits 10 (whole ++ fraction)) (e - fraction.length))
      | _ => .error bad

end SchemaDoc.Reading
