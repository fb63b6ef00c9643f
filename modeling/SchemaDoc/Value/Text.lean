/-
SchemaDoc.Value.Text — the texts of a value.

A value has two texts. Its *literal* form spells every part so that kinds can
be told apart: texts in quotes, dates as the calls that build them. Its
*display* form is the same, except that a text stands as it is and a date in
its usual notation. Inside a value that holds itself, an ellipsis stands where
it would start again. Both are total; but an integer of too many digits has no
text, and neither has a value with such an integer in it.

§1 scalars, §2 values, §3 values that have a text.
-/
import SchemaDoc.Fault
import SchemaDoc.Text.Quoted
import SchemaDoc.Value.Sets

namespace SchemaDoc

/-! ## §1 Scalars -/

namespace Scalar

/-- The literal form of a scalar. -/
def literal : Scalar → String
  | .null => "None"
  | .bool b => if b then "True" else "False"
  | .integer n => Decimal.integerText n
  | .number x => Decimal.numberText x
  | .text s => Text.quote s
  | .bytes bs => Text.quoteBytes bs
  | .date d => d.literal
  | .timestamp t => t.literal

/-- The display form of a scalar. -/
def display : Scalar → String
  | .text s => s
  | .date d => d.text
  | .timestamp t => t.text
  | s => s.literal

/-- A scalar has a text: it is no integer of too many digits. -/
def hasText : Scalar → Bool
  | .integer n => !Decimal.isTooLong n
  | _ => true

end Scalar

/-! ## §2 Values -/

namespace Value

/-- What stands in the place of a value inside itself. -/
def ellipsis (v : Value) : String :=
  match v.kind with
  | .mapping => "\x7b...\x7d"
  | .pair => "(...)"
  | _ => "[...]"

mutual

/-- The literal form of a value inside the values of some marks. -/
def literalIn (around : List Nat) : Value → String
  | .scalar s => s.literal
  | .sequence items => "[" ++ ", ".intercalate (literalsIn around items) ++ "]"
  | .pair first second =>
    "(" ++ first.literalIn around ++ ", " ++ second.literalIn around ++ ")"
  | .set members =>
    if members.isEmpty then "set()"
    else "\x7b" ++ ", ".intercalate ((Sets.inOrder members).map Scalar.literal) ++ "\x7d"
  | .mapping entries => "\x7b" ++ ", ".intercalate (entryLiteralsIn around entries) ++ "\x7d"
  | .looped mark body =>
    if around.contains mark then body.ellipsis else body.literalIn (mark :: around)

/-- The literal forms of the items of a sequence. -/
def literalsIn (around : List Nat) : List Value → List String
  | [] => []
  | v :: rest => v.literalIn around :: literalsIn around rest

/-- The literal forms of the entries of a mapping. -/
def entryLiteralsIn (around : List Nat) : List (Scalar × Value) → List String
  | [] => []
  | (k, v) :: rest => (k.literal ++ ": " ++ v.literalIn around) :: entryLiteralsIn around rest

end

/-- The literal form of a value. -/
def literal (v : Value) : String := v.literalIn []

/-- The display form of a value. -/
def display : Value → String
  | .scalar s => s.display
  | v => v.literal

@[simp] theorem display_text (s : String) : display (.text s) = s := rfl

/-! ## §3 Values that have a text -/

mutual

/-- A value inside the values of some marks has a text. -/
def hasTextIn (around : List Nat) : Value → Bool
  | .scalar s => s.hasText
  | .sequence items => haveTextIn around items
  | .pair first second => first.hasTextIn around && second.hasTextIn around
  | .set members => members.all Scalar.hasText
  | .mapping entries => entriesHaveTextIn around entries
  | .looped mark body => around.contains mark || body.hasTextIn (mark :: around)

/-- All items of a sequence have texts. -/
def haveTextIn (around : List Nat) : List Value → Bool
  | [] => true
  | v :: rest => v.hasTextIn around && haveTextIn around rest

/-- All keys and values of a mapping have texts. -/
def entriesHaveTextIn (around : List Nat) : List (Scalar × Value) → Bool
  | [] => true
  | (k, v) :: rest => k.hasText && v.hasTextIn around && entriesHaveTextIn around rest

end

/-- A value has a text: no integer in it has too many digits. -/
def hasText (v : Value) : Bool := v.hasTextIn []

/-- The literal form of a value that has one. -/
def literalText (v : Value) : Except Fault String :=
  if v.hasText then .ok v.literal else .error (.tooManyDigits none)

/-- The display form of a value that has one. -/
def displayText (v : Value) : Except Fault String :=
  if v.hasText then .ok v.display else .error (.tooManyDigits none)

@[simp] theorem displayText_text (s : String) : displayText (.text s) = .ok s := rfl

end Value

/-- The display form of a scalar that has one. -/
def Scalar.displayText (s : Scalar) : Except Fault String := (Value.scalar s).displayText

end SchemaDoc
