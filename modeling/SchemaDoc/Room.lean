/-
SchemaDoc.Room — room for what stands one inside another.

A document is read by functions that call themselves for its parts, and how
often they may do so depends on the interpreter that runs them. The readers
take this as a parameter: a number of values that may be entered one inside
another, or none where there is no limit. One number serves every reader; it
is the smallest of those that an interpreter has for them.
-/

namespace SchemaDoc

/-- How many values may be entered one inside another; `none` is any number. -/
abbrev Room := Option Nat

namespace Room

/-- What is done one value further in, with the room that is left there, or `full` if there is
none. -/
def enter {α : Type} (room : Room) (full : α) (inner : Room → α) : α :=
  match room with
  | none => inner none
  | some 0 => full
  | some (n + 1) => inner (some n)

/-- Values nest deeper than there is room for. -/
def IsBelow (room : Room) (depth : Nat) : Prop := ∃ n, room = some n ∧ n < depth

/-- What is done one value further in finds no room, or one less than there was. -/
theorem enter_cases {α : Type} {full : α} {inner : Room → α} {p : α → Prop} {room : Room}
    (hfull : room = some 0 → p full)
    (hinner : ∀ left : Room, (∀ n, left = some n → room = some (n + 1)) → p (inner left)) :
    p (room.enter full inner) := by
  cases room with
  | none => exact hinner none nofun
  | some n => cases n with
    | zero => exact hfull rfl
    | succ n => exact hinner (some n) fun m hm => by rw [Option.some.inj hm]

end Room

end SchemaDoc
