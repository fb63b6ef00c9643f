/-
SchemaDoc.Value.Sets — the order in which a set shows its members.

A set keeps its members in a table of slots whose count is a power of two. A
number has its slot by its residue modulo 2 ^ 61 - 1, which equal numbers of
all kinds share, and an instant by a word mixed from its parts; where the slot
is taken, the next nine are tried, and then another place that hangs on the
whole residue. The members are shown slot by slot. Empty texts have the
residue zero. Other members have no slot by their value alone: they are shown
behind the others, as they come.

The count of slots hangs on how a set is made. The set of a document is laid
out for all its members at once; a set that grows member by member is laid out
anew whenever three fifths of its slots are taken.

§1 residues, §2 slots, §3 tables, §4 orders.
-/
import SchemaDoc.Value.Basic

namespace SchemaDoc.Sets

/-! ## §1 Residues -/

/-- The modulus of residues. -/
def modulus : Nat := Nat.pow 2 61 - 1

/-- The residue of a fraction whose denominator is a power of two: halving a residue is turning its
bits by one place. -/
def ofFraction (num den : Nat) : Nat := num * Nat.pow 2 (61 - den.log2 % 61) % modulus

/-- A residue with the sign of its number. Minus one is kept free. -/
def signed (negative : Bool) (residue : Nat) : Int :=
  let n : Int := if negative then -(residue : Int) else residue
  if n = -1 then -2 else n

/-- The residue of an integer. -/
def ofInteger (n : Int) : Int := signed (n < 0) (n.natAbs % modulus)

/-- A word with one more part mixed in: both are multiplied by odd constants, and the bits turned in
between. -/
def mix (word part : UInt64) : UInt64 :=
  let sum := word + part * 14029467366897019727
  (sum <<< 31 ||| sum >>> 33) * 11400714785074694791

/-- The word of three parts. The greatest word is kept free. -/
def ofParts (a b c : Nat) : Nat :=
  let start : UInt64 := 2870177450012600261
  let word := mix (mix (mix start a.toUInt64) b.toUInt64) c.toUInt64 + (3 ^^^ start ^^^ 3527539)
  if word = 0 - 1 then 1546275796 else word.toNat

/-- The residue of an instant: of its day, the second of the day, and the microsecond. -/
def ofInstant (microseconds : Int) : Int :=
  let n := microseconds.toNat
  ofParts (n / 86400000000) (n / 1000000 % 86400) (n % 1000000)

/-- The residue of a number of any kind, of an instant, or of an empty text. -/
def residue? : Scalar → Option Int
  | .bool b => some (if b then 1 else 0)
  | .integer n => some (ofInteger n)
  | .number (.infinite negative) => some (if negative then -314159 else 314159)
  | .text "" | .bytes [] => some 0
  | .number x => x.fraction?.map fun (num, den) => signed (num < 0) (ofFraction num.natAbs den)
  | .timestamp t => t.offset.map fun _ => ofInstant t.instant
  | _ => none

/-! ## §2 Slots -/

variable {α : Type}

/-- The slots of a set, some of them free. A member stands there with its residue. -/
abbrev Slots (α : Type) := Array (Option (Int × α))

/-- The first free slot among some that follow one another. -/
def freeFrom (slots : Slots α) (place : Nat) : Nat → Option Nat
  | 0 => none
  | count + 1 =>
    if (slots[place]?.join).isNone && place < slots.size then some place
    else freeFrom slots (place + 1) count

/-- The slots tried at one place: nine more than the first, unless the table ends before. -/
def tried (size place : Nat) : Nat := if place + 9 < size then 10 else 1

/-- The free slot of a member, tried at places that its residue decides one after the other. -/
def slotOf (slots : Slots α) : Nat → Nat → Nat → Option Nat
  | 0, _, _ => none
  | fuel + 1, place, rest =>
    match freeFrom slots place (tried slots.size place) with
    | some found => some found
    | none =>
      let rest := rest / 32
      slotOf slots fuel ((place * 5 + 1 + rest) % slots.size) rest

/-- The slots with one more member. -/
def put (slots : Slots α) (member : Int × α) : Slots α :=
  let word := (member.1 % (Nat.pow 2 64 : Nat)).toNat
  match slotOf slots (slots.size + 64) (word % slots.size) word with
  | some place => slots.setIfInBounds place (some member)
  | none => slots

/-! ## §3 Tables -/

/-- A set as it is laid out. -/
structure Table (α : Type) where
  slots : Slots α
  /-- The members without a slot by their value. -/
  loose : Array α
  /-- The count of all members. -/
  count : Nat

namespace Table

/-- A table of some slots, all of them free. -/
def empty (slots : Nat) : Table α := ⟨Array.replicate slots none, #[], 0⟩

/-- One more member, with its residue if it has one. -/
def add (t : Table α) (residue : Option Int) (member : α) : Table α :=
  match residue with
  | some r => { t with slots := put t.slots (r, member), count := t.count + 1 }
  | none => { t with loose := t.loose.push member, count := t.count + 1 }

/-- The first power of two above a number, from eight on. -/
def powerAbove (n : Nat) : Nat := if n < 8 then 8 else Nat.pow 2 (n.log2 + 1)

/-- A table laid out anew once three fifths of its slots are taken: for four times its members, or
for twice as many if they are more than fifty thousand. -/
def regrown (t : Table α) : Table α :=
  if t.count * 5 < (t.slots.size - 1) * 3 then t
  else
    let size := powerAbove (if 50000 < t.count then t.count * 2 else t.count * 4)
    let slots : Slots α := Array.replicate size none
    { t with slots := (t.slots.toList.filterMap id).foldl put slots }

/-- The members slot by slot, and those without a slot behind them. -/
def toList (t : Table α) : List α :=
  (t.slots.toList.filterMap fun slot => slot.map (·.2)) ++ t.loose.toList

end Table

/-! ## §4 Orders -/

/-- The count of slots of a set laid out at once: eight for up to four members, else the first power
of two above twice their count. -/
def slotCount (members : Nat) : Nat := if members < 5 then 8 else Table.powerAbove (2 * members)

/-- The members of a set laid out at once, in the order in which they are shown. -/
def inOrder (members : List Scalar) : List Scalar :=
  (members.foldl (fun t m => t.add (residue? m) m) (Table.empty (slotCount members.length))).toList

/-- Entries in the order that a set of their keys shows if it grows key by key. -/
def inKeyOrder (entries : List (Scalar × α)) : List (Scalar × α) :=
  (entries.foldl (fun t e => (t.add (residue? e.1) e).regrown) (Table.empty 8)).toList

end SchemaDoc.Sets
