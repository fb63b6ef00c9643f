/-
SchemaDoc.Proofs.Value.Equality — values are told apart.

Two values are compared part by part, in the order in which they are written.
So what a computation makes of a document can be checked by running it.

§1 comparing, §2 equality.
-/
import SchemaDoc.Value.Basic

namespace SchemaDoc.Value

/-! ## §1 Comparing -/

mutual

/-- Two values have the same form and the same parts. -/
def isEqual : Value → Value → Bool
  | .scalar s, .scalar t => decide (s = t)
  | .sequence items, .sequence others => areEqual items others
  | .pair first second, .pair first' second' => first.isEqual first' && second.isEqual second'
  | .set members, .set others => decide (members = others)
  | .mapping entries, .mapping others => haveEqualEntries entries others
  | .looped mark body, .looped mark' body' => decide (mark = mark') && body.isEqual body'
  | _, _ => false

/-- Two lists have equal items. -/
def areEqual : List Value → List Value → Bool
  | [], [] => true
  | v :: rest, w :: others => v.isEqual w && areEqual rest others
  | _, _ => false

/-- Two lists have equal entries. -/
def haveEqualEntries : List (Scalar × Value) → List (Scalar × Value) → Bool
  | [], [] => true
  | (k, v) :: rest, (k', w) :: others =>
    decide (k = k') && v.isEqual w && haveEqualEntries rest others
  | _, _ => false

end

/-! ## §2 Equality -/

mutual

theorem isEqual_iff : ∀ {v w : Value}, v.isEqual w = true ↔ v = w
  | .scalar s, w => by cases w <;> simp [isEqual]
  | .sequence items, w => by cases w <;> simp [isEqual, areEqual_iff]
  | .pair first second, w => by cases w <;> simp [isEqual, isEqual_iff]
  | .set members, w => by cases w <;> simp [isEqual]
  | .mapping entries, w => by cases w <;> simp [isEqual, haveEqualEntries_iff]
  | .looped mark body, w => by cases w <;> simp [isEqual, isEqual_iff]

theorem areEqual_iff : ∀ {items others : List Value}, areEqual items others = true ↔ items = others
  | [], others => by cases others <;> simp [areEqual]
  | v :: rest, others => by cases others <;> simp [areEqual, isEqual_iff, areEqual_iff]

theorem haveEqualEntries_iff : ∀ {entries others : List (Scalar × Value)},
    haveEqualEntries entries others = true ↔ entries = others
  | [], others => by cases others <;> simp [haveEqualEntries]
  | (k, v) :: rest, others => by
    cases others <;> simp [haveEqualEntries, isEqual_iff, haveEqualEntries_iff, Prod.ext_iff]

end

instance : DecidableEq Value := fun _ _ => decidable_of_iff _ isEqual_iff

end SchemaDoc.Value
