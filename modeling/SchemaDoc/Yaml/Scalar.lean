/-
SchemaDoc.Yaml.Scalar — the scalars that tags make of texts.

A tag may ask for null, a truth value, a number in one of many notations, a
date, bytes or the text itself. A text that is not in the form of its tag is a
fault; only bytes that are not in their form are a complaint.

§1 words and numbers, §2 dates and bytes, §3 the scalar of a tag.
-/
import SchemaDoc.Number.Reading
import SchemaDoc.Yaml.Base64
import SchemaDoc.Yaml.Complaint
import SchemaDoc.Yaml.Tag

namespace SchemaDoc.Yaml

/-! ## §1 Words and numbers -/

/-- The truth value of a word. -/
def truth (text : String) : Except Fault Scalar :=
  let word := Text.lower text
  if word = "yes" || word = "true" || word = "on" then .ok (.bool true)
  else if word = "no" || word = "false" || word = "off" then .ok (.bool false)
  else .error (.unknownWord (Text.quote word))

/-- A text without underscores. -/
def withoutBars (text : String) : List Char := text.toList.filter (· != '_')

/-- A text cut at its colons. -/
def splitColons : List Char → List (List Char)
  | [] => [[]]
  | c :: rest =>
    if c = ':' then [] :: splitColons rest
    else match splitColons rest with
      | part :: parts => (c :: part) :: parts
      | [] => [[c]]

/-- The sign of a number and the text behind it; an empty text has none. -/
def signOf (s : List Char) : Except Fault (Bool × List Char) :=
  if s.isEmpty then .error .emptyText else .ok (Reading.signed s)

/-- An integer in one of the notations of YAML. -/
def integerOf (text : String) : Except Fault Scalar := do
  let (negative, body) ← signOf (withoutBars text)
  let n ← match body with
    | [] => throw .emptyText
    | ['0'] => pure 0
    | '0' :: 'b' :: rest => Reading.integer 2 (String.ofList rest)
    | '0' :: 'x' :: rest => Reading.integer 16 (String.ofList rest)
    | '0' :: _ => Reading.integer 8 (String.ofList body)
    | _ =>
      if body.contains ':' then do
        let parts ← (splitColons body).mapM fun p => Reading.integer 10 (String.ofList p)
        pure (parts.foldl (fun acc d => acc * 60 + d) 0)
      else Reading.integer 10 (String.ofList body)
  return .integer (if negative then -n else n)

/-- Digits in base 60 added up from the last one, each product and sum rounded. A place whose weight
is beyond the doubles is a fault, even for a digit of zero. -/
def addSixtieths : Binary64 → Nat → List Binary64 → Except Fault Binary64
  | total, _, [] => .ok total
  | total, weight, d :: rest =>
    match Binary64.ofInt weight with
    | .infinite _ => .error .beyondDoubles
    | w => addSixtieths (total.add (d.mul w)) (weight * 60) rest

/-- The mark of what a word names as not a number. -/
def nanMark : Mark := [1]

/-- A double in one of the notations of YAML. What is not a number has the mark of its word, or the
given mark if it is written in another way. -/
def numberOf (mark : Mark) (text : String) : Except Fault Scalar := do
  let (negative, body) ← signOf (Text.lower (String.ofList (withoutBars text))).toList
  let word := String.ofList body
  if word = ".nan" then return .number (.nan nanMark)
  let x ←
    if word = ".inf" then pure (Binary64.infinite false)
    else if body.contains ':' then do
      let parts ← (splitColons body).mapM fun p => Reading.number mark (String.ofList p)
      addSixtieths (Binary64.zero false) 1 parts.reverse
    else Reading.number mark word
  if x.isNan then return .number (.nan mark)
  return .number (if negative then x.neg else x)

/-! ## §2 Dates and bytes -/

/-- The first six digits of a fraction as microseconds. -/
def microseconds (fraction : List Char) : Nat :=
  Decimal.ofDigits ((fraction ++ List.replicate 6 '0').take 6)

/-- Seconds east of UTC. -/
def offsetSeconds : Option (Bool × List Char × List Char) → Int
  | none => 0
  | some (west, hours, minutes) =>
    let n : Int := (Decimal.ofDigits hours * 60 + Decimal.ofDigits minutes) * 60
    if west then -n else n

/-- A date, or a point in time if a time of day is given. -/
def dateOf (text : String) : Except Fault Scalar :=
  match timeParts? (withoutFinalBreak text.toList) with
  | none => .error .notTimestamp
  | some p =>
    let year := Decimal.ofDigits p.year
    let month := Decimal.ofDigits p.month
    let day := Decimal.ofDigits p.day
    match p.time with
    | none => ((Date.check year month day).map Scalar.date).mapError .badDate
    | some (hour, minute, second, fraction) =>
      ((Timestamp.check year month day (Decimal.ofDigits hour) (Decimal.ofDigits minute)
        (Decimal.ofDigits second) (microseconds fraction) (p.zone.map offsetSeconds)).map
          Scalar.timestamp).mapError .badDate

/-- Bytes in base 64, which is ASCII. -/
def binaryOf (text : String) : Except Trouble Scalar :=
  if text.toList.all fun c => c.toNat < 128 then
    match Base64.decode? text.toList with
    | some bs => .ok (.bytes bs)
    | none => .error (.complaint .wrongForm)
  else .error (.complaint .wrongForm)

/-! ## §3 The scalar of a tag -/

/-- The scalar that a tag makes of a text; the mark is for what is not a number. -/
def scalarOf (mark : Mark) (tag : Tag) (text : String) : Except Trouble Scalar :=
  match tag with
  | .null => .ok .null
  | .bool => (truth text).mapError .fault
  | .integer => (integerOf text).mapError .fault
  | .number => (numberOf mark text).mapError .fault
  | .binary => binaryOf text
  | .timestamp => (dateOf text).mapError .fault
  | .text => .ok (.text text)
  | _ => .error (.complaint .unknownTag)

end SchemaDoc.Yaml
