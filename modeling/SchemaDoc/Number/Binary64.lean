/-
SchemaDoc.Number.Binary64 — double-precision numbers as exact data.

A finite double is `± mantissa · 2 ^ exponent` with the mantissa below
2 ^ 53; the form is canonical, so that equal data means the same bits. The one
rounding rule is nearest, ties to even: `ofRatio` is the only place where a
number is rounded, and every operation computes its exact result first. Powers
are `Nat.pow` by name, so that their meaning does not hang on what is imported.

§1 data, §2 rounding, §3 order and integers, §4 arithmetic.
-/

namespace SchemaDoc

/-! ## §1 Data -/

/-- The mantissa has 53 bits, or fewer at the smallest exponent. -/
abbrev Canonical (mantissa : Nat) (exponent : Int) : Prop :=
  mantissa < Nat.pow 2 53 ∧ -1074 ≤ exponent ∧ exponent ≤ 971
    ∧ (Nat.pow 2 52 ≤ mantissa ∨ exponent = -1074)

/-- A mark by which one that is not a number is told from another: a place in a document, and what
reading of the document it comes from. -/
abbrev Mark := List Nat

/-- A double: finite in canonical form, an infinity, or not a number. What is not a number carries a
mark. -/
inductive Binary64 where
  | finite (negative : Bool) (mantissa : Nat) (exponent : Int)
      (canonical : Canonical mantissa exponent)
  | infinite (negative : Bool)
  | nan (mark : Mark)
  deriving DecidableEq

namespace Binary64

/-- A zero of either sign. -/
def zero (negative : Bool) : Binary64 := .finite negative 0 (-1074) (by decide)

/-- The result of an operation that has none. -/
def undefined : Binary64 := .nan []

/-- The finite double with these parts; out of range above, an infinity. -/
def ofParts (negative : Bool) (mantissa : Nat) (exponent : Int) : Binary64 :=
  if h : Canonical mantissa exponent then .finite negative mantissa exponent h
  else .infinite negative

/-! ## §2 Rounding -/

/-- The natural number nearest to a quotient; a tie goes to the even neighbour. -/
def nearestEven (num den : Nat) : Nat :=
  let q := num / den
  let twice := 2 * (num % den)
  if twice < den then q else if den < twice then q + 1 else q + q % 2

/-- A quotient as a fraction of naturals after division by a power of two. -/
def scaled (num den : Nat) (exponent : Int) : Nat × Nat :=
  if 0 ≤ exponent then (num, den * Nat.pow 2 exponent.toNat)
  else (num * Nat.pow 2 (-exponent).toNat, den)

/-- The exponent at which the quotient has 53 bits, but never below the smallest. -/
def exponentOf (num den : Nat) : Int :=
  let guess : Int := (num.log2 : Int) - (den.log2 : Int) - 52
  let s := scaled num den guess
  max (if s.1 / s.2 < Nat.pow 2 52 then guess - 1 else guess) (-1074)

/-- The double nearest to `num / den`, with the given sign. -/
def ofRatio (negative : Bool) (num den : Nat) : Binary64 :=
  if num = 0 then zero negative
  else
    let exponent := exponentOf num den
    let s := scaled num den exponent
    let mantissa := nearestEven s.1 s.2
    if mantissa = Nat.pow 2 53 then ofParts negative (Nat.pow 2 52) (exponent + 1)
    else ofParts negative mantissa exponent

/-- The double nearest to an integer. -/
def ofInt (n : Int) : Binary64 := ofRatio (n < 0) n.natAbs 1

/-! ## §3 Order and integers -/

/-- The sign is set, on zeros too. -/
def isNegative : Binary64 → Bool
  | .finite negative _ _ _ => negative
  | .infinite negative => negative
  | .nan _ => false

/-- A zero of either sign. -/
def isZero : Binary64 → Bool
  | .finite _ mantissa _ _ => mantissa == 0
  | _ => false

/-- Not a number. -/
def isNan : Binary64 → Bool
  | .nan _ => true
  | _ => false

/-- The exact value as a fraction with a positive denominator, if there is one. -/
def fraction? : Binary64 → Option (Int × Nat)
  | .finite negative mantissa exponent _ =>
    if mantissa = 0 then some (0, 1)
    else
      let num := if 0 ≤ exponent then mantissa * Nat.pow 2 exponent.toNat else mantissa
      let den := if 0 ≤ exponent then 1 else Nat.pow 2 (-exponent).toNat
      some (if negative then -(num : Int) else num, den)
  | _ => none

/-- The integer that a double is, if it is one. -/
def toInt? (x : Binary64) : Option Int :=
  match x.fraction? with
  | some (num, den) => if num % den = 0 then some (num / den) else none
  | none => none

/-- Numeric order: `none` when one side is not a number. -/
def compare? : Binary64 → Binary64 → Option Ordering
  | .nan _, _ => none
  | _, .nan _ => none
  | .infinite a, .infinite b => some (compare b.toNat a.toNat)
  | .infinite a, _ => some (if a then .lt else .gt)
  | _, .infinite b => some (if b then .gt else .lt)
  | x, y =>
    match x.fraction?, y.fraction? with
    | some (a, b), some (c, d) => some (compare (a * d) (c * b))
    | _, _ => none

/-- Numeric order against an integer, without rounding the integer. -/
def compareInt? (x : Binary64) (n : Int) : Option Ordering :=
  match x with
  | .nan _ => none
  | .infinite negative => some (if negative then .lt else .gt)
  | .finite .. =>
    match x.fraction? with
    | some (a, b) => some (compare a (n * b))
    | none => none

/-- Numeric equality: zeros are equal, and nothing equals what is not a number. -/
def same (x y : Binary64) : Bool := compare? x y == some .eq

/-- Numeric equality, except that what is not a number equals itself. -/
def identical : Binary64 → Binary64 → Bool
  | .nan a, .nan b => a == b
  | x, y => x.same y

/-- Numeric equality with an integer. -/
def sameInt (x : Binary64) (n : Int) : Bool := compareInt? x n == some .eq

/-! ## §4 Arithmetic -/

/-- The double of opposite sign. -/
def neg : Binary64 → Binary64
  | .finite negative mantissa exponent h => .finite (!negative) mantissa exponent h
  | .infinite negative => .infinite (!negative)
  | .nan mark => .nan mark

/-- The rounded sum; a sum of exactly zero is negative only if both terms are. -/
def add (x y : Binary64) : Binary64 :=
  match x, y with
  | .nan mark, _ => .nan mark
  | _, .nan mark => .nan mark
  | .infinite a, .infinite b => if a = b then .infinite a else undefined
  | .infinite a, _ => .infinite a
  | _, .infinite b => .infinite b
  | x, y =>
    match x.fraction?, y.fraction? with
    | some (a, b), some (c, d) =>
      let num := a * d + c * b
      if num = 0 then zero (x.isNegative && y.isNegative)
      else ofRatio (num < 0) num.natAbs (b * d)
    | _, _ => undefined

/-- The rounded difference. -/
def sub (x y : Binary64) : Binary64 := add x y.neg

/-- The rounded product. -/
def mul (x y : Binary64) : Binary64 :=
  let negative := x.isNegative != y.isNegative
  match x, y with
  | .nan mark, _ => .nan mark
  | _, .nan mark => .nan mark
  | .infinite _, y => if y.isZero then undefined else .infinite negative
  | x, .infinite _ => if x.isZero then undefined else .infinite negative
  | x, y =>
    match x.fraction?, y.fraction? with
    | some (a, b), some (c, d) => ofRatio negative (a * c).natAbs (b * d)
    | _, _ => undefined

end Binary64

end SchemaDoc
