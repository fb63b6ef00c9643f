/-
SchemaDoc.Proofs.Value.Sameness — what a scalar is as a key.

Numbers of different kinds may be one key, and so may two timestamps. Behind the
comparison stands something that each scalar is as a key, so that two scalars
are the same exactly if they are the same thing (`same_iff`). That makes
sameness an equivalence.

§1 doubles, §2 timestamps, §3 scalars.
-/
import Mathlib.Data.Rat.Lemmas
import SchemaDoc.Value.Basic

namespace SchemaDoc

/-- What a scalar is as a key: a number, one of the infinities, one that is not a number, an instant
if its distance from UTC is known and else a time of day, or just itself. -/
inductive Identity where
  | finite (value : ℚ)
  | infinite (negative : Bool)
  | nan (mark : Mark)
  | instant (known : Bool) (microseconds : Int)
  | itself (s : Scalar)

/-! ## §1 Doubles -/

namespace Binary64

/-- The number that a finite double is. -/
def value (x : Binary64) : ℚ :=
  match x.fraction? with
  | some (num, den) => num / den
  | none => 0

/-- What a double is as a key. -/
def identity : Binary64 → Identity
  | .finite negative mantissa exponent canonical =>
    .finite (value (.finite negative mantissa exponent canonical))
  | .infinite negative => .infinite negative
  | .nan mark => .nan mark

variable {negative negative' : Bool} {mantissa mantissa' : Nat} {exponent exponent' : Int}
  {h : Canonical mantissa exponent} {h' : Canonical mantissa' exponent'}

/-- A finite double is a fraction. -/
theorem exists_fraction (negative : Bool) (h : Canonical mantissa exponent) :
    ∃ num den, 0 < den ∧
    (finite negative mantissa exponent h).fraction? = some (num, den) ∧
    (finite negative mantissa exponent h).value = num / den := by
  have hpositive : ∀ n, 0 < Nat.pow 2 n := fun n => Nat.pow_pos (by decide)
  have hvalue : ∀ {num : Int} {den : Nat}, 0 < den →
      (finite negative mantissa exponent h).fraction? = some (num, den) →
      ∃ num den, 0 < den ∧ (finite negative mantissa exponent h).fraction? = some (num, den) ∧
        (finite negative mantissa exponent h).value = num / den := fun hden hf =>
    ⟨_, _, hden, hf, by simp [value, hf]⟩
  by_cases hzero : mantissa = 0
  · exact hvalue Nat.one_pos (if_pos hzero)
  · refine hvalue ?_ (if_neg hzero)
    split
    · exact Nat.one_pos
    · exact hpositive _

theorem compare_eq_iff {a b : Int} : (some (compare a b) == some .eq) = true ↔ a = b := by
  rw [beq_iff_eq, Option.some.injEq, compare_eq_iff_eq]

theorem same_finite_iff :
    (finite negative mantissa exponent h).same (finite negative' mantissa' exponent' h') = true ↔
      (finite negative mantissa exponent h).value
        = (finite negative' mantissa' exponent' h').value := by
  obtain ⟨a, b, hb, hf, hv⟩ := exists_fraction negative h
  obtain ⟨c, d, hd, hf', hv'⟩ := exists_fraction negative' h'
  have hb : (b : ℚ) ≠ 0 := by exact_mod_cast hb.ne'
  have hd : (d : ℚ) ≠ 0 := by exact_mod_cast hd.ne'
  have hcompare : compare? (finite negative mantissa exponent h)
      (finite negative' mantissa' exponent' h') = some (compare (a * d) (c * b)) := by
    simp only [compare?, hf, hf']
  rw [same, hcompare, compare_eq_iff, hv, hv', div_eq_div_iff hb hd]
  exact_mod_cast Iff.rfl

theorem identical_iff {x y : Binary64} : x.identical y = true ↔ x.identity = y.identity := by
  cases x with
  | finite => cases y with
    | finite =>
      rw [identity, identity, Identity.finite.injEq]
      exact same_finite_iff
    | infinite negative => cases negative <;> simp [identical, same, compare?, identity]
    | nan => simp [identical, same, compare?, identity]
  | infinite negative => cases y with
    | finite => cases negative <;> simp [identical, same, compare?, identity]
    | infinite negative' =>
      cases negative <;> cases negative' <;> simp [identical, same, compare?, identity]
    | nan => simp [identical, same, compare?, identity]
  | nan => cases y with
    | finite => simp [identical, same, compare?, identity]
    | infinite => simp [identical, same, compare?, identity]
    | nan => simp [identical, identity]

theorem sameInt_iff {x : Binary64} {n : Int} :
    x.sameInt n = true ↔ x.identity = .finite n := by
  cases x with
  | finite negative mantissa exponent h =>
    obtain ⟨a, b, hb, hf, hv⟩ := exists_fraction negative h
    have hb : (b : ℚ) ≠ 0 := by exact_mod_cast hb.ne'
    have hcompare : compareInt? (finite negative mantissa exponent h) n
        = some (compare a (n * b)) := by
      simp only [compareInt?, hf]
    rw [sameInt, hcompare, compare_eq_iff, identity, Identity.finite.injEq, hv, div_eq_iff hb]
    exact_mod_cast Iff.rfl
  | infinite negative => cases negative <;> simp [sameInt, compareInt?, identity]
  | nan => simp [sameInt, compareInt?, identity]

/-- A double is a whole number if it is the same key as an integer, and then it is that integer. -/
theorem toInt?_eq_some_iff {x : Binary64} {n : Int} :
    x.toInt? = some n ↔ x.identity = .finite n := by
  cases x with
  | finite negative mantissa exponent h =>
    obtain ⟨a, b, hb, hf, hv⟩ := exists_fraction negative h
    have hb' : (b : ℚ) ≠ 0 := by exact_mod_cast hb.ne'
    have hwhole : (a : ℚ) = n * b ↔ a % b = 0 ∧ a / b = n := by
      rw [← Int.dvd_iff_emod_eq_zero]
      constructor
      · intro h
        have h : a = n * b := by exact_mod_cast h
        exact ⟨h ▸ Int.dvd_mul_left n b, h ▸ Int.mul_ediv_cancel n (by omega)⟩
      · rintro ⟨hdvd, rfl⟩
        exact_mod_cast (Int.ediv_mul_cancel hdvd).symm
    simp only [toInt?, hf, identity, Identity.finite.injEq, hv, div_eq_iff hb', hwhole,
      Option.ite_none_right_eq_some, Option.some.injEq]
  | infinite negative => simp [toInt?, fraction?, identity]
  | nan mark => simp [toInt?, fraction?, identity]

end Binary64

/-! ## §2 Timestamps -/

namespace Timestamp

/-- What a timestamp is as a key. -/
def identity (t : Timestamp) : Identity := .instant t.offset.isSome t.instant

theorem same_iff {s t : Timestamp} : s.same t = true ↔ s.identity = t.identity := by
  simp only [same, identity, instant, Identity.instant.injEq]
  cases s.offset <;> cases t.offset <;> simp

end Timestamp

/-! ## §3 Scalars -/

namespace Scalar

/-- What a scalar is as a key. -/
def identity : Scalar → Identity
  | .bool b => .finite (if b then 1 else 0)
  | .integer n => .finite n
  | .number x => x.identity
  | .timestamp t => t.identity
  | s => .itself s

/-- **Two scalars are the same key exactly if they are the same thing as a key.** -/
theorem same_iff {s t : Scalar} : s.same t = true ↔ s.identity = t.identity := by
  cases s with
  | number x => cases t with
    | number y => exact Binary64.identical_iff
    | bool b =>
      refine Binary64.sameInt_iff.trans ?_
      cases b <;> simp [identity]
    | integer n => exact Binary64.sameInt_iff
    | timestamp u => cases x <;> simp [same, toInt?, identity, Binary64.identity, Timestamp.identity]
    | _ => cases x <;> simp [same, toInt?, identity, Binary64.identity]
  | timestamp u => cases t with
    | timestamp v => exact Timestamp.same_iff
    | number y => cases y <;> simp [same, toInt?, identity, Binary64.identity, Timestamp.identity]
    | _ => simp [same, toInt?, identity, Timestamp.identity]
  | bool b => cases t with
    | number y =>
      refine Binary64.sameInt_iff.trans (eq_comm.trans ?_)
      cases b <;> simp [identity]
    | bool c => cases b <;> cases c <;> simp [same, toInt?, identity]
    | integer n => cases b <;> simp [same, toInt?, identity, ← Rat.intCast_inj]
    | timestamp u => simp [same, toInt?, identity, Timestamp.identity]
    | _ => simp [same, toInt?, identity]
  | integer n => cases t with
    | number y => exact Binary64.sameInt_iff.trans eq_comm
    | bool c => cases c <;> simp [same, toInt?, identity]
    | timestamp u => simp [same, toInt?, identity, Timestamp.identity]
    | _ => simp [same, toInt?, identity]
  | null | text _ | bytes _ | date _ => cases t with
    | number y => cases y <;> simp [same, toInt?, identity, Binary64.identity]
    | timestamp u => simp [same, toInt?, identity, Timestamp.identity]
    | _ => simp [same, toInt?, identity]

@[simp] theorem same_refl (s : Scalar) : s.same s = true := same_iff.mpr rfl

theorem same_trans {s t u : Scalar} (h : s.same t = true) (h' : t.same u = true) :
    s.same u = true :=
  same_iff.mpr ((same_iff.mp h).trans (same_iff.mp h'))

end Scalar

end SchemaDoc
