/-
SchemaDoc.Value.Arithmetic — sums, differences and repetition of values.

Numbers, among them truth values as 0 and 1, are added and multiplied; texts,
sequences and runs of bytes are joined with their own kind and repeated a
whole number of times. Every other combination is a fault that names both
kinds.
-/
import SchemaDoc.Fault

namespace SchemaDoc.Value

/-- The integer that a value counts as. -/
def toInt? : Value → Option Int
  | .scalar s => s.toInt?
  | _ => none

/-- An integer as a double, if it is not beyond them. -/
def integerAsDouble (n : Int) : Except Fault Binary64 :=
  match Binary64.ofInt n with
  | .infinite _ => .error .beyondDoubles
  | x => .ok x

/-- An operation on two numbers: exact on integers, on doubles as soon as one side is a double. -/
def numeric? (onInt : Int → Int → Int) (onNumber : Binary64 → Binary64 → Binary64)
    (left right : Value) : Option (Except Fault Value) :=
  match left, right with
  | .number x, .number y => some (.ok (.number (onNumber x y)))
  | .number x, r => r.toInt?.map fun n => (integerAsDouble n).map fun y => .number (onNumber x y)
  | l, .number y => l.toInt?.map fun n => (integerAsDouble n).map fun x => .number (onNumber x y)
  | l, r => match l.toInt?, r.toInt? with
    | some m, some n => some (.ok (.integer (onInt m n)))
    | _, _ => none

/-- The sum of two numbers, or two texts, sequences or runs of bytes joined. -/
def add (left right : Value) : Except Fault Value :=
  match left.bare, right.bare with
  | .text a, .text b => .ok (.text (a ++ b))
  | .text _, r => .error (.cannotJoin .text r.kind)
  | .bytes a, .bytes b => .ok (.bytes (a ++ b))
  | .bytes _, r => .error (.cannotJoin .bytes r.kind)
  | .sequence a, .sequence b => .ok (.sequence (a ++ b))
  | .sequence _, r => .error (.cannotJoin .sequence r.kind)
  | .pair _ _, r => .error (.cannotJoin .pair r.kind)
  | l, r => (numeric? (· + ·) Binary64.add l r).getD (.error (.cannotAdd l.kind r.kind))

/-- A value extended by a text: a text gets it at its end, a sequence each of its letters. What
is extended stays the same value, also where it holds itself. -/
def extend (suffix : String) : Value → Except Fault Value
  | .text a => .ok (.text (a ++ suffix))
  | .sequence items =>
    .ok (.sequence (items ++ (Text.letters suffix.toList).map fun c => .text (String.ofList c)))
  | .bytes _ => .error (.cannotJoin .bytes .text)
  | .pair _ _ => .error (.cannotJoin .pair .text)
  | .looped mark body => (extend suffix body).map (.looped mark)
  | v => .error (.cannotExtend v.kind .text)

/-- The difference of two numbers. -/
def sub (left right : Value) : Except Fault Value :=
  (numeric? (· - ·) Binary64.sub left right).getD (.error (.cannotSubtract left.kind right.kind))

/-- A text, a sequence or a run of bytes: a value that can be repeated. -/
def isRepeatable (v : Value) : Bool :=
  match v.kind with
  | .text | .bytes | .sequence | .pair => true
  | _ => false

/-- The least count that is too large for a count. -/
def countLimit : Nat := Nat.pow 2 63

/-- More parts than this are not held. No limit of the program is meant: the number stands for
the memory of a machine, where what is asked for ends in a fault of its own. -/
def sizeLimit : Nat := Nat.pow 2 32

/-- A list a number of times over, unless that is too much. -/
def repeatedList {α : Type} (tooOften : Fault) (items : List α) (count : Nat) :
    Except Fault (List α) :=
  if items.isEmpty then .ok []
  else if countLimit ≤ items.length * count then .error tooOften
  else if sizeLimit < items.length * count then .error .tooLarge
  else .ok (List.replicate count items).flatten

/-- A repeatable value a number of times over; a count below zero is zero. -/
def repeated (v : Value) (count : Int) : Except Fault Value :=
  if (countLimit : Int) ≤ count ∨ count < -(countLimit : Int) then .error .beyondCounts
  else match v.bare with
    | .text s => do
      let letters ← repeatedList (.tooOften .text) (Text.letters s.toList) count.toNat
      return .text (String.ofList letters.flatten)
    | .bytes bs => (repeatedList (.tooOften .bytes) bs count.toNat).map .bytes
    | .sequence items => (repeatedList .tooLarge items count.toNat).map .sequence
    | v => .ok v

/-- The product of two numbers, or a text or sequence repeated. -/
def mul (left right : Value) : Except Fault Value :=
  if left.isRepeatable then
    match right.toInt? with
    | some n => left.repeated n
    | none => .error (.cannotRepeat right.kind)
  else if right.isRepeatable then
    match left.toInt? with
    | some n => right.repeated n
    | none => .error (.cannotRepeat left.kind)
  else (numeric? (· * ·) Binary64.mul left right).getD
    (.error (.cannotMultiply left.kind right.kind))

theorem add_integer (m n : Int) : add (.integer m) (.integer n) = .ok (.integer (m + n)) := rfl

theorem sub_integer (m n : Int) : sub (.integer m) (.integer n) = .ok (.integer (m - n)) := rfl

theorem add_text (a b : String) : add (.text a) (.text b) = .ok (.text (a ++ b)) := rfl

end SchemaDoc.Value
