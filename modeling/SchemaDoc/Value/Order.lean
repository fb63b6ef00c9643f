/-
SchemaDoc.Value.Order — which of two values comes first.

Numbers are ordered by value, texts by code points, runs of bytes by bytes,
dates and timestamps by time, sequences by their first items that differ.
Of two sets the one comes first that the other contains. All other values,
and values of different kinds, are not ordered at all. The order is no total
one: what is not a number comes neither before nor behind anything.

§1 equality, §2 scalars and sets, §3 values.
-/
import SchemaDoc.Text.Code
import SchemaDoc.Value.Basic

namespace SchemaDoc

/-! ## §1 Equality -/

namespace Value

mutual

/-- Two values are equal: scalars as keys are the same, collections of one kind part by part. -/
def equals : Value → Value → Bool
  | .scalar s, v => match v with
    | .scalar t => s.same t
    | _ => false
  | .sequence xs, v => match v.bare with
    | .sequence ys => itemsEqual xs ys
    | _ => false
  | .pair a b, v => match v.bare with
    | .pair c d => a.equals c && b.equals d
    | _ => false
  | .set ss, v => match v.bare with
    | .set ts => ss.length == ts.length && ss.all (·.among ts)
    | _ => false
  | .mapping es, v => match v.bare with
    | .mapping fs => es.length == fs.length && entriesEqual es fs
    | _ => false
  | .looped mark body, v => match v with
    | .looped other _ => mark == other || body.equals v
    | _ => body.equals v

/-- Two lists of values are equal item by item. -/
def itemsEqual : List Value → List Value → Bool
  | [], [] => true
  | x :: xs, y :: ys => x.equals y && itemsEqual xs ys
  | _, _ => false

/-- Every entry has an equal one under its key. -/
def entriesEqual : List (Scalar × Value) → List (Scalar × Value) → Bool
  | [], _ => true
  | (k, v) :: rest, fs => match Entries.get? fs k with
    | some w => v.equals w && entriesEqual rest fs
    | none => false

end

end Value

/-! ## §2 Scalars and sets -/

/-- The order of two numbers of any kind, if they are two and have one. -/
def Scalar.compare? (s t : Scalar) : Option (Option Ordering) :=
  match s, t with
  | .number x, .number y => some (x.compare? y)
  | .number x, t => t.toInt?.map x.compareInt?
  | s, .number y => s.toInt?.map fun n => (y.compareInt? n).map Ordering.swap
  | s, t => match s.toInt?, t.toInt? with
    | some m, some n => some (some (compare m n))
    | _, _ => none

/-- One scalar comes before another; nothing if they are not ordered. -/
def Scalar.less? (s t : Scalar) : Option Bool :=
  match s, t with
  | .text a, .text b => some (!Text.codesLe b.toList a.toList)
  | .bytes a, .bytes b => some (decide (a < b))
  | .date a, .date b => some (decide (a.ordinal < b.ordinal))
  | .timestamp a, .timestamp b =>
    if a.offset.isSome = b.offset.isSome then some (decide (a.instant < b.instant)) else none
  | s, t => (s.compare? t).map (· == some .lt)

/-! ## §3 Values -/

namespace Value

mutual

/-- One value comes before another; nothing if they are not ordered. -/
def less? : Value → Value → Option Bool
  | .scalar s, v => match v with
    | .scalar t => s.less? t
    | _ => none
  | .sequence xs, v => match v.bare with
    | .sequence ys => itemsLess? xs ys
    | _ => none
  | .pair a b, v => match v.bare with
    | .pair c d => if !a.equals c then a.less? c else if !b.equals d then b.less? d else some false
    | _ => none
  | .set ss, v => match v.bare with
    | .set ts => some (ss.length < ts.length && ss.all (·.among ts))
    | _ => none
  | .mapping _, _ => none
  | .looped _ body, v => body.less? v

/-- One list of values comes before another: by the first items that differ, else by length. -/
def itemsLess? : List Value → List Value → Option Bool
  | [], ys => some (!ys.isEmpty)
  | _ :: _, [] => some false
  | x :: xs, y :: ys => if x.equals y then itemsLess? xs ys else x.less? y

end

end Value

end SchemaDoc
