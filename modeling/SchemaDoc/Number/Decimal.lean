/-
SchemaDoc.Number.Decimal — decimal texts of integers and doubles.

§1 integers: the plain digits with a sign. §2 reading: a decimal with an
exponent is rounded once, to the nearest double. §3 writing: the fewest digits
that read back as the same double, of two such decimals the nearer one.
§4 layout: where the point and the exponent stand.
-/
import SchemaDoc.Number.Binary64

namespace SchemaDoc

namespace Decimal

/-! ## §1 Integers -/

/-- The digits of a natural number. -/
def digits (n : Nat) : List Char := Nat.toDigits 10 n

/-- An integer with a minus sign if it is negative. -/
def integer (n : Int) : List Char :=
  if n < 0 then '-' :: digits n.natAbs else digits n.natAbs

/-- The text of an integer. -/
def integerText (n : Int) : String := String.ofList (integer n)

/-- The most digits that an integer may have to be written or read. -/
def maxDigits : Nat := 4300

/-- An integer has more digits than that. -/
def isTooLong (n : Int) : Bool := Nat.pow 10 maxDigits ≤ n.natAbs

/-- A natural number in at least `width` digits. -/
def padded (width n : Nat) : List Char :=
  let ds := digits n
  List.replicate (width - ds.length) '0' ++ ds

/-- The number that decimal digits write; characters that are no ASCII digits count as zero. -/
def ofDigits (ds : List Char) : Nat :=
  ds.foldl (fun acc c => 10 * acc + (if '0' ≤ c && c ≤ '9' then c.toNat - 48 else 0)) 0

/-! ## §2 Reading -/

/-- The double nearest to `± coefficient · 10 ^ exponent`. Far outside the range the answer is
known without computing the power. -/
def toBinary64 (negative : Bool) (coefficient : Nat) (exponent : Int) : Binary64 :=
  if coefficient = 0 then .zero negative
  else
    let magnitude := exponent + (digits coefficient).length
    if 400 < magnitude then .infinite negative
    else if magnitude < -400 then .zero negative
    else if 0 ≤ exponent then .ofRatio negative (coefficient * Nat.pow 10 exponent.toNat) 1
    else .ofRatio negative coefficient (Nat.pow 10 (-exponent).toNat)

/-! ## §3 Writing -/

/-- The exponent `p` with `10 ^ (p - 1) ≤ num / den < 10 ^ p`, for a positive quotient, searched
upward from below. -/
def pointAfter (num den : Nat) : Nat → Int → Int
  | 0, p => p
  | fuel + 1, p =>
    let below := if 0 ≤ p then num < den * Nat.pow 10 p.toNat else num * Nat.pow 10 (-p).toNat < den
    if below then p else pointAfter num den fuel (p + 1)

/-- An estimate of `pointAfter` that is never above it. -/
def pointGuess (num den : Nat) : Int :=
  (((num.log2 : Int) - (den.log2 : Int)) * 30103) / 100000 - 1

/-- The reals that round to one positive double: both ends and the double itself in units of
`num / den`, and whether the ends belong to the interval. -/
structure Interval where
  low : Nat
  value : Nat
  high : Nat
  closed : Bool
  num : Nat
  den : Nat

/-- The interval of reals that round to `mantissa · 2 ^ exponent`, in quarters of its unit. -/
def Interval.around (mantissa : Nat) (exponent : Int) : Interval :=
  let narrow := mantissa = Nat.pow 2 52 ∧ -1074 < exponent
  let low := if narrow then 4 * mantissa - 1 else 4 * mantissa - 2
  let unit := exponent - 2
  ⟨low, 4 * mantissa, 4 * mantissa + 2, mantissa % 2 = 0,
    Nat.pow 2 unit.toNat, Nat.pow 2 (-unit).toNat⟩

/-- The decimal `n · 10 ^ step` lies in the interval. -/
def Interval.holds (i : Interval) (n : Nat) (step : Int) : Bool :=
  let up := Nat.pow 10 step.toNat
  let down := Nat.pow 10 (-step).toNat
  let x := n * up * i.den
  let low := i.low * i.num * down
  let high := i.high * i.num * down
  if i.closed then low ≤ x && x ≤ high else low < x && x < high

/-- On the grid `10 ^ step`: the neighbour of the value inside the interval, the nearer of two, the
even one of two equally near. -/
def Interval.onGrid (i : Interval) (step : Int) : Option Nat :=
  let up := Nat.pow 10 step.toNat
  let down := Nat.pow 10 (-step).toNat
  let num := i.value * i.num * down
  let den := i.den * up
  let n := num / den
  let rest := num % den
  match i.holds n step, i.holds (n + 1) step with
  | true, true =>
    if 2 * rest < den then some n
    else if den < 2 * rest then some (n + 1)
    else some (n + n % 2)
  | true, false => some n
  | false, true => some (n + 1)
  | false, false => none

/-- The first grid, from coarse to fine, that has a decimal in the interval. -/
def Interval.search (i : Interval) (point : Int) : Nat → Nat → Nat × Int
  | 0, _ => (0, 0)
  | fuel + 1, count =>
    match i.onGrid (point - count) with
    | some n => (n, point - count)
    | none => i.search point fuel (count + 1)

/-- The shortest digits and the position of the point after them: the value is `0.ds · 10 ^ p`. -/
def shortest (mantissa : Nat) (exponent : Int) : List Char × Int :=
  let i := Interval.around mantissa exponent
  let num := i.value * i.num
  let point := pointAfter num i.den 8 (pointGuess num i.den)
  let (n, step) := i.search point 18 1
  let ds := digits n
  ((ds.reverse.dropWhile (· == '0')).reverse, step + ds.length)

/-! ## §4 Layout -/

/-- A shortest decimal as text: positional from 0.0001 up to below 10 ^ 16, with a fraction digit
at least; scientific otherwise, with a signed exponent of two digits at least. -/
def layout (ds : List Char) (point : Int) : List Char :=
  if -4 < point ∧ point ≤ 16 then
    if point ≤ 0 then ['0', '.'] ++ List.replicate (-point).toNat '0' ++ ds
    else
      let whole := ds.take point.toNat
      let fraction := ds.drop point.toNat
      whole ++ List.replicate (point.toNat - ds.length) '0' ++ ['.']
        ++ (if fraction.isEmpty then ['0'] else fraction)
  else
    let e := point - 1
    let mantissa := match ds with
      | [] => ['0']
      | [d] => [d]
      | d :: rest => d :: '.' :: rest
    mantissa ++ ['e', if e < 0 then '-' else '+'] ++ padded 2 e.natAbs

/-- The text of a double. -/
def ofBinary64 : Binary64 → List Char
  | .nan _ => ['n', 'a', 'n']
  | .infinite negative => (if negative then ['-'] else []) ++ ['i', 'n', 'f']
  | .finite negative mantissa exponent _ =>
    (if negative then ['-'] else []) ++
      (if mantissa = 0 then ['0', '.', '0']
      else
        let (ds, point) := shortest mantissa exponent
        layout ds point)

/-- The text of a double, as a string. -/
def numberText (x : Binary64) : String := String.ofList (ofBinary64 x)

end Decimal

end SchemaDoc
