/-
SchemaDoc.Proofs.Number.Digits — integers and their digits.

The digits of a number write that number (`ofDigits_digits`), and a number that
is not too long has no more of them than may be read (`length_digits`). With a
sign in front they are read back as the integer (`integer?_integer`). Digits to
the base sixteen that are read all are such digits, and bound what they write.

§1 natural numbers, §2 integers, §3 hexadecimal digits.
-/
import Mathlib.Algebra.GroupWithZero.Nat
import Mathlib.Data.List.Basic
import Mathlib.Data.Nat.Digits.Defs
import SchemaDoc.Number.Decimal
import SchemaDoc.Text.Hex

namespace SchemaDoc.Decimal

/-! ## §1 Natural numbers -/

theorem isDigit_of_mem_digits {c : Char} {n : Nat} (h : c ∈ digits n) : c.isDigit = true :=
  Nat.isDigit_of_mem_toDigits (by decide) (by decide) h

theorem digits_ne_nil (n : Nat) : digits n ≠ [] := Nat.toDigits_ne_nil

/-- The digits of a number other than zero start with another digit. -/
theorem head_digits {n : Nat} (h : 0 < n) : (digits n).head? ≠ some '0' := by
  unfold digits
  induction n using Nat.strongRecOn with
  | ind n ih =>
    by_cases hn : n < 10
    · rw [Nat.toDigits_of_lt_base hn]
      have hall : ∀ m : Fin 10, 0 < m.val → (Nat.digitChar m).toNat ≠ '0'.toNat := by decide
      intro heq
      exact hall ⟨n, hn⟩ h (congrArg Char.toNat (Option.some.inj heq))
    · rw [Nat.toDigits_of_base_le (by decide) (by omega), List.head?_append_of_ne_nil _
        Nat.toDigits_ne_nil]
      exact ih (n / 10) (by omega) (by omega)

theorem isDigit_iff {c : Char} : c.isDigit = true ↔ ('0' ≤ c && c ≤ '9') = true := by
  simp only [Char.isDigit, Bool.and_eq_true, decide_eq_true_eq, Char.le_def]

/-- Of digits alone, none counts as zero for want of being one. -/
theorem ofDigits_eq {ds : List Char} (h : ∀ c ∈ ds, c.isDigit = true) :
    ofDigits ds = Nat.ofDigitChars 10 ds 0 := by
  rw [ofDigits, Nat.ofDigitChars_eq_foldl]
  refine List.foldl_ext _ _ _ fun n c hc => ?_
  rw [if_pos (isDigit_iff.mp (h c hc))]
  rfl

theorem ofDigits_digits (n : Nat) : ofDigits (digits n) = n := by
  rw [ofDigits_eq fun _ => isDigit_of_mem_digits]
  exact Nat.ofDigitChars_ten_toDigits

theorem isTooLong_eq_false_iff {n : Int} :
    isTooLong n = false ↔ n.natAbs < Nat.pow 10 maxDigits :=
  decide_eq_false_iff_not.trans Nat.not_le

theorem length_digits {n : Int} (h : isTooLong n = false) :
    (digits n.natAbs).length ≤ maxDigits := by
  -- Said of every count of digits, so that the power of this one is never computed.
  have hlength : ∀ count, 0 < count → n.natAbs < Nat.pow 10 count →
      (digits n.natAbs).length ≤ count :=
    fun count hcount hn => Nat.toDigits_length 10 n.natAbs count hcount hn
  exact hlength maxDigits (by decide) (isTooLong_eq_false_iff.mp h)

/-! ## §2 Integers -/

/-- The text of an integer has digits and a sign only. -/
theorem not_mem_integer {c : Char} (hdigit : c.isDigit = false) (hsign : c ≠ '-') (n : Int) :
    c ∉ integer n := by
  have hdigits : c ∉ digits n.natAbs := fun hmem => by
    rw [isDigit_of_mem_digits hmem] at hdigit
    cases hdigit
  unfold integer
  split
  · exact List.not_mem_cons_of_ne_of_not_mem hsign hdigits
  · exact hdigits

/-- The natural number that a text of digits writes, if it is one. -/
def natural? (ds : List Char) : Option Nat :=
  if ds ≠ [] ∧ ds.all Char.isDigit then some (ofDigits ds) else none

/-- The integer that a text of digits writes, with a minus sign in front or none. -/
def integer? : List Char → Option Int
  | '-' :: ds => (natural? ds).map fun n : Nat => -(n : Int)
  | ds => (natural? ds).map Int.ofNat

theorem natural?_digits (n : Nat) : natural? (digits n) = some n := by
  have hall : (digits n).all Char.isDigit = true :=
    List.all_eq_true.mpr fun _ => isDigit_of_mem_digits
  rw [natural?, if_pos ⟨digits_ne_nil n, hall⟩, ofDigits_digits]

/-- **An integer is read back from its text.** -/
theorem integer?_integer (n : Int) : integer? (integer n) = some n := by
  unfold integer
  split
  · rw [integer?, natural?_digits, Option.map_some, Option.some.injEq]
    omega
  · unfold integer?
    split
    · rename_i ds hminus
      have hdigit : '-'.isDigit = true :=
        isDigit_of_mem_digits (hminus ▸ List.mem_cons_self ..)
      cases hdigit
    · rw [natural?_digits, Option.map_some, Option.some.injEq, Int.ofNat_eq_natCast]
      omega

end SchemaDoc.Decimal

namespace SchemaDoc.Text

/-! ## §3 Hexadecimal digits -/

theorem hexValue?_lt {c : Char} {d : Nat} (h : hexValue? c = some d) : d < 16 := by
  unfold hexValue? at h
  simp only [Bool.and_eq_true, decide_eq_true_eq] at h
  split at h
  · cases h
    omega
  · split at h
    · cases h
      omega
    · split at h
      · cases h
        omega
      · cases h

/-- One more digit of a number that is read. -/
def nextHex (read : Option Nat) (c : Char) : Option Nat :=
  match read, hexValue? c with
  | some n, some d => some (16 * n + d)
  | _, _ => none

theorem foldl_nextHex_none (ds : List Char) : ds.foldl nextHex none = none := by
  induction ds with
  | nil => rfl
  | cons c ds ih => exact ih

/-- A number is read digit by digit. -/
theorem foldl_nextHex {ds : List Char} {m n : Nat} (h : ds.foldl nextHex (some m) = some n) :
    n < (m + 1) * 16 ^ ds.length ∧ ∀ c ∈ ds, (hexValue? c).isSome := by
  induction ds generalizing m with
  | nil =>
    cases h
    exact ⟨by simp, fun _ hc => nomatch hc⟩
  | cons c ds ih =>
    rw [List.foldl_cons] at h
    cases hd : hexValue? c with
    | none =>
      simp only [nextHex, hd] at h
      exact nomatch (foldl_nextHex_none ds).symm.trans h
    | some d =>
      have hsmall := hexValue?_lt hd
      simp only [nextHex, hd] at h
      obtain ⟨hn, hall⟩ := ih h
      refine ⟨?_, List.forall_mem_cons.mpr ⟨by simp [hd], hall⟩⟩
      rw [List.length_cons, Nat.pow_succ]
      calc n < (16 * m + d + 1) * 16 ^ ds.length := hn
        _ ≤ ((m + 1) * 16) * 16 ^ ds.length := Nat.mul_le_mul_right _ (by omega)
        _ = (m + 1) * (16 ^ ds.length * 16) := by rw [Nat.mul_assoc, Nat.mul_comm 16]

theorem readHex?_eq (ds : List Char) : readHex? ds = ds.foldl nextHex (some 0) := rfl

theorem readHex?_lt {ds : List Char} {n : Nat} (h : readHex? ds = some n) :
    n < 16 ^ ds.length := by
  rw [readHex?_eq] at h
  simpa using (foldl_nextHex h).1

theorem isSome_of_readHex? {ds : List Char} {n : Nat} (h : readHex? ds = some n) {c : Char}
    (hc : c ∈ ds) : (hexValue? c).isSome = true :=
  (foldl_nextHex (readHex?_eq ds ▸ h)).2 c hc

end SchemaDoc.Text
