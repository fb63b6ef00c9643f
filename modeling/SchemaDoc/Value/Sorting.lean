/-
SchemaDoc.Value.Sorting — sorting by an order that need not be total.

Where items are not ordered, or come neither before nor behind each other, what
sorting makes of them hangs on which of them are compared. So that is stated
here. A list is cut into runs that rise or fall already, short runs are made
longer by insertion, and neighbouring runs are merged: of two the shorter is
taken from its outer end item by item, or by leaps as long as one of them
keeps winning. Which runs are merged first hangs on where the middles of two
neighbours lie in the whole list.

§1 runs, §2 insertion, §3 leaps, §4 merging two runs, §5 all runs.
-/
namespace SchemaDoc.Sorting

variable {α : Type}

/-- Whether one item comes before another; nothing if they are not ordered. -/
abbrev Less (α : Type) := α → α → Option Bool

/-! ## §1 Runs -/

/-- The items that go on from one as long as each comes before the one in front of it or each does
not, and the items behind them. -/
def runFrom (less : Less α) (falling : Bool) (last : α) (run : List α) :
    List α → Option (List α × List α)
  | [] => some (run, [])
  | b :: rest => do
    if (← less b last) == falling then runFrom less falling b (b :: run) rest
    else return (run, b :: rest)

/-- The first run of a list in rising order, and the items behind it. -/
def firstRun (less : Less α) : List α → Option (List α × List α)
  | [] => some ([], [])
  | [a] => some ([a], [])
  | a :: b :: rest => do
    let falling ← less b a
    let (run, left) ← runFrom less falling b [b, a] rest
    return (if falling then run else run.reverse, left)

/-! ## §2 Insertion -/

/-- The place of an item between two places of an array, found by halving. -/
def placeIn (less : Less α) (sorted : Array α) (item : α) : Nat → Nat → Nat → Option Nat
  | 0, low, _ => some low
  | fuel + 1, low, high =>
    let middle := (low + high) / 2
    match if low < high then sorted[middle]? else none with
    | none => some low
    | some other => do
      if ← less item other then placeIn less sorted item fuel low middle
      else placeIn less sorted item fuel (middle + 1) high

/-- A run with more items, each put in its place. -/
def insertAll (less : Less α) (run items : List α) : Option (List α) := do
  let sorted ← items.foldlM (fun (sorted : Array α) item => do
    let place ← placeIn less sorted item (sorted.size + 1) 0 sorted.size
    return (sorted.toList.take place ++ item :: sorted.toList.drop place).toArray) run.toArray
  return sorted.toList

/-- The least length of a run in a list of a length: that length without its lower binary places, up
to six places kept, and one more if a place lost was a one. -/
def leastRun (length : Nat) (odd : Nat) : Nat :=
  if 64 ≤ length then leastRun (length / 2) (max odd (length % 2)) else length + odd
termination_by length

/-- The first run of a list, of a least length, and the items behind it. -/
def longRun (less : Less α) (least : Nat) (items : List α) : Option (List α × List α) := do
  let (run, left) ← firstRun less items
  let more := least - run.length
  return (← insertAll less run (left.take more), left.drop more)

/-! ## §3 Leaps -/

/-- The end of a run that a merge starts from. -/
inductive Side where
  | front
  | back
  deriving DecidableEq

/-- The place that halves what is between two places. An odd one out is left behind it at the front
and before it at the back. -/
def Side.middle (side : Side) (low high : Nat) : Nat :=
  match side with
  | .front => low + (high - low) / 2
  | .back => high - 1 - (high - low) / 2

/-- A place below which items pass a test, and one from which they do not, found by leaps that
double. -/
def leap (passes : α → Option Bool) (items : List α) : Nat → Nat → Nat → Option (Nat × Nat)
  | 0, low, high => some (low, high)
  | fuel + 1, low, place => do
    match items[place]? with
    | none => return (low, items.length)
    | some x =>
      if ← passes x then leap passes items fuel (place + 1) (2 * place + 1)
      else return (low, place)

/-- The first place between two where an item does not pass a test, found by halving. -/
def narrow (side : Side) (passes : α → Option Bool) (items : List α) :
    Nat → Nat → Nat → Option Nat
  | 0, _, high => some high
  | fuel + 1, low, high =>
    let middle := side.middle low high
    match if low < high then items[middle]? else none with
    | none => some high
    | some x => do
      if ← passes x then narrow side passes items fuel (middle + 1) high
      else narrow side passes items fuel low middle

/-- How many items at the start of a list pass a test. -/
def countPassing (side : Side) (passes : α → Option Bool) : List α → Option Nat
  | [] => some 0
  | x :: rest => do
    if ← passes x then
      let items := x :: rest
      let (low, high) ← leap passes items items.length 1 1
      narrow side passes items items.length low high
    else return 0

/-! ## §4 Merging two runs -/

/-- Two runs that are merged from one side, what is merged of them with the last item first, and
after how many items in a row of one run leaps begin. -/
structure Merge (α : Type) where
  first : List α
  second : List α
  merged : List α
  patience : Nat

/-- A step of a merge. It is an exception that the merge is done: all its items in the order in
which they were taken, and the patience left. -/
abbrev Step (α : Type) := ExceptT (List α × Nat) Option

namespace Merge

/-- The merge is done when only the last item of the first run is left, which goes behind the second
run, or when a run is used up. -/
def settled (m : Merge α) : Step α (Merge α) :=
  match m.first, m.second with
  | [], rest | rest, [] => throw (m.merged.reverse ++ rest, m.patience)
  | [x], rest => throw (m.merged.reverse ++ rest ++ [x], m.patience)
  | _, _ => return m

/-- Items of the first run are taken. -/
def takeFirst (m : Merge α) (count : Nat) : Step α (Merge α) :=
  settled { m with
    first := m.first.drop count
    merged := (m.first.take count).reverse ++ m.merged }

/-- Items of the second run are taken. -/
def takeSecond (m : Merge α) (count : Nat) : Step α (Merge α) :=
  settled { m with
    second := m.second.drop count
    merged := (m.second.take count).reverse ++ m.merged }

/-- A leap in the first run: over what the head of the second does not come before. -/
def leapFirst (side : Side) (before : Less α) (m : Merge α) : Step α (Merge α × Nat) :=
  match m.second with
  | [] => return (m, 0)
  | head :: _ => do
    let count ← (countPassing side (fun x => (before head x).map not) m.first : Option Nat)
    return (← m.takeFirst count, count)

/-- A leap in the second run: over what comes before the head of the first. -/
def leapSecond (side : Side) (before : Less α) (m : Merge α) : Step α (Merge α × Nat) :=
  match m.first with
  | [] => return (m, 0)
  | head :: _ => do
    let count ← (countPassing side (fun x => before x head) m.second : Option Nat)
    return (← m.takeSecond count, count)

/-- A leap in each run, and one item of the other behind it; whether a leap was long. From the front
the first run leaps first. -/
def leapBoth (side : Side) (before : Less α) (m : Merge α) : Step α (Merge α × Bool) := do
  match side with
  | .front =>
    let (m, one) ← m.leapFirst side before
    let (m, other) ← (← m.takeSecond 1).leapSecond side before
    return (← m.takeFirst 1, 7 ≤ one || 7 ≤ other)
  | .back =>
    let (m, one) ← m.leapSecond side before
    let (m, other) ← (← m.takeFirst 1).leapFirst side before
    return (← m.takeSecond 1, 7 ≤ one || 7 ≤ other)

/-- How a merge goes on. -/
inductive Pace where
  /-- Item by item, so many of the first or of the second run having been taken in a row. -/
  | walking (first second : Nat)
  /-- By leaps, not for the first time in a row. -/
  | leaping (again : Bool)

/-- One item taken or one pair of leaps. -/
def step (side : Side) (before : Less α) (m : Merge α) (pace : Pace) :
    Step α (Merge α × Pace) := do
  match pace, m.first, m.second with
  | .walking first second, x :: _, y :: _ =>
    if ← (before y x : Option Bool) then
      return (← m.takeSecond 1,
        if m.patience ≤ second + 1 then .leaping false else .walking 0 (second + 1))
    else
      return (← m.takeFirst 1,
        if m.patience ≤ first + 1 then .leaping false else .walking (first + 1) 0)
  | .leaping again, _, _ =>
    let patience := if again && 1 < m.patience then m.patience - 1 else m.patience
    let (m, long) ← leapBoth side before { m with patience }
    if long then return (m, .leaping true)
    else return ({ m with patience := patience + 1 }, .walking 0 0)
  | _, _, _ => return (← m.settled, pace)

/-- The steps of a merge until it is done. -/
def run (side : Side) (before : Less α) : Nat → Merge α → Pace → Option (List α × Nat)
  | 0, m, _ => some (m.merged.reverse ++ m.first ++ m.second, m.patience)
  | fuel + 1, m, pace => do
    match ← (m.step side before pace).run with
    | .error done => return done
    | .ok (m, pace) => run side before fuel m pace

/-- Two runs merged from a side. The outermost item of the second run is known to go first. -/
def ofRuns (side : Side) (before : Less α) (patience : Nat) (first second : List α) :
    Option (List α × Nat) := do
  match ← (takeSecond ⟨first, second, [], patience⟩ 1).run with
  | .error done => return done
  | .ok m => m.run side before (first.length + second.length) (.walking 0 0)

end Merge

/-- Two neighbouring runs as one. What stands in its place already is left alone; of the rest, the
shorter run decides from which side it is merged. -/
def mergeRuns (less : Less α) (patience : Nat) (a b : List α) : Option (List α × Nat) := do
  let some head := b.head? | return (a, patience)
  let low ← countPassing .front (fun x => (less head x).map not) a
  let some last := (a.drop low).getLast? | return (a ++ b, patience)
  let kept ← countPassing .back (fun x => (less x last).map not) b.reverse
  let first := a.drop low
  let second := b.take (b.length - kept)
  let rest := b.drop (b.length - kept)
  if second.isEmpty then return (a ++ b, patience)
  if first.length ≤ second.length then
    let (merged, patience) ← Merge.ofRuns .front less patience first second
    return (a.take low ++ merged ++ rest, patience)
  else
    let (merged, patience) ← Merge.ofRuns .back (fun x y => less y x) patience second.reverse
      first.reverse
    return (a.take low ++ merged.reverse ++ rest, patience)

/-! ## §5 All runs -/

/-- The first binary place in which the quotients of two numbers by a third differ, each taken below
one. -/
def placeOfDifference (whole : Nat) : Nat → Nat → Nat → Nat
  | 0, _, _ => 0
  | fuel + 1, a, b =>
    if whole ≤ a then placeOfDifference whole fuel (2 * (a - whole)) (2 * (b - whole)) + 1
    else if whole ≤ b then 1
    else placeOfDifference whole fuel (2 * a) (2 * b) + 1

/-- How deep the border between two runs lies in a list of a length: the first binary place in which
the places of their middles differ. -/
def depth (length start first second : Nat) : Nat :=
  placeOfDifference length (length + 1) (2 * start + first) (2 * start + 2 * first + second)

/-- A run that waits to be merged: where it starts, its items, and the depth of the border behind
it. -/
structure Pending (α : Type) where
  start : Nat
  items : List α
  depth : Nat

/-- Two waiting runs as one. -/
def Pending.merge (less : Less α) (patience : Nat) (a b : Pending α) :
    Option (Pending α × Nat) := do
  let (items, patience) ← mergeRuns less patience a.items b.items
  return ({ a with items }, patience)

/-- The last of the waiting runs is merged with the one before it as long as the border between them
lies deeper than the one behind the last. The last run stands first. -/
def mergeDeeper (less : Less α) (depth : Nat) :
    List (Pending α) → Nat → Option (List (Pending α) × Nat)
  | b :: a :: rest, patience => do
    if depth < a.depth then
      let (merged, patience) ← a.merge less patience b
      mergeDeeper less depth (merged :: rest) patience
    else return ({ b with depth } :: a :: rest, patience)
  | [b], patience => return ([{ b with depth }], patience)
  | [], patience => return ([], patience)
termination_by pending => pending.length

/-- All waiting runs are merged: the last two, or the two before the last if the one in front of them
is shorter than the last. -/
def mergeAll (less : Less α) : List (Pending α) → Nat → Option (List α)
  | c :: b :: a :: rest, patience => do
    if a.items.length < c.items.length then
      let (merged, patience) ← a.merge less patience b
      mergeAll less (c :: merged :: rest) patience
    else
      let (merged, patience) ← b.merge less patience c
      mergeAll less (merged :: a :: rest) patience
  | [b, a], patience => do
    let (merged, _) ← a.merge less patience b
    return merged.items
  | [a], _ => return a.items
  | [], _ => return []
termination_by pending => pending.length

/-- Runs are taken off a list one by one, and merged as their borders tell. -/
def sortRuns (less : Less α) (length : Nat) :
    Nat → List α → List (Pending α) → Nat → Option (List α)
  | 0, _, pending, patience => mergeAll less pending patience
  | _, [], pending, patience => mergeAll less pending patience
  | fuel + 1, items, pending, patience => do
    let (run, left) ← longRun less (leastRun length 0) items
    let start := length - items.length
    let (pending, patience) ← match pending with
      | last :: _ =>
        let border := depth length last.start last.items.length run.length
        mergeDeeper less border pending patience
      | [] => pure ([], patience)
    sortRuns less length fuel left (⟨start, run, 0⟩ :: pending) patience

/-- A list in order, unless two of its items that are compared are not ordered. -/
def sorted? (less : Less α) (items : List α) : Option (List α) :=
  sortRuns less items.length items.length items [] 7

end SchemaDoc.Sorting
