/-
SchemaDoc.Proofs.Value.Written — JSON values can be written again.

A JSON value can be written as a text, as plain text and as JSON, unless an
integer in it has too many digits. A double is never such an integer. Bounds
are raised and lowered by one before they are written, so an integer counts as
short only if its neighbours are short enough too.

§1 short integers, §2 computations that write, §3 texts, §4 plain texts, §5 JSON.
-/
import SchemaDoc.Descriptor.Literal
import SchemaDoc.Proofs.Value.Json

namespace SchemaDoc

/-! ## §1 Short integers -/

namespace Decimal

/-- An integer can be written, and so can its neighbours. -/
def isShort (n : Int) : Bool := n.natAbs + 1 < Nat.pow 10 maxDigits

theorem not_isTooLong_of_isShort {m n : Int} (h : isShort n = true) (hm : m.natAbs ≤ n.natAbs + 1) :
    isTooLong m = false := by
  unfold isShort at h
  unfold isTooLong
  generalize Nat.pow 10 maxDigits = limit at h ⊢
  simp only [decide_eq_true_eq, decide_eq_false_iff_not] at h ⊢
  omega

end Decimal

namespace Binary64

/-- A whole double stays far below the integers that are too long. -/
theorem natAbs_lt_of_toInt? {x : Binary64} {n : Int} (h : x.toInt? = some n) :
    ∃ e, e ≤ 1024 ∧ n.natAbs < Nat.pow 2 e := by
  unfold toInt? at h
  split at h
  · rename_i num den hfraction
    split at h
    · cases h
      suffices hnum : ∃ e, e ≤ 1024 ∧ num.natAbs < Nat.pow 2 e by
        obtain ⟨e, he, hnum⟩ := hnum
        exact ⟨e, he, Nat.lt_of_le_of_lt (Int.natAbs_ediv_le_natAbs num den) hnum⟩
      unfold fraction? at hfraction
      split at hfraction
      · rename_i negative mantissa exponent hcanonical
        obtain ⟨hmantissa, -, hexponent, -⟩ := hcanonical
        split at hfraction
        · cases hfraction
          exact ⟨0, Nat.zero_le _, Nat.one_pos⟩
        · have hnum : num.natAbs = if 0 ≤ exponent then mantissa * Nat.pow 2 exponent.toNat
              else mantissa := by
            cases hfraction
            cases negative
            · exact Int.natAbs_natCast _
            · exact (Int.natAbs_neg _).trans (Int.natAbs_natCast _)
          rw [hnum]
          split
          · refine ⟨53 + exponent.toNat, by omega, ?_⟩
            rw [show Nat.pow 2 (53 + exponent.toNat) = Nat.pow 2 53 * Nat.pow 2 exponent.toNat from
              Nat.pow_add 2 53 exponent.toNat]
            exact Nat.mul_lt_mul_of_pos_right hmantissa (Nat.two_pow_pos _)
          · exact ⟨53, by decide, hmantissa⟩
      · cases hfraction
    · cases h
  · cases h

theorem not_isTooLong_of_toInt? {x : Binary64} {n : Int} (h : x.toInt? = some n) :
    Decimal.isTooLong n = false := by
  obtain ⟨e, he, hn⟩ := natAbs_lt_of_toInt? h
  have hlimit : ∀ digits, 1024 ≤ digits → n.natAbs < Nat.pow 10 digits := fun digits hdigits =>
    calc n.natAbs < Nat.pow 2 e := hn
      _ ≤ 10 ^ e := Nat.pow_le_pow_left (by decide) e
      _ ≤ 10 ^ digits := Nat.pow_le_pow_right (by decide) (Nat.le_trans he hdigits)
  unfold Decimal.isTooLong
  exact decide_eq_false (Nat.not_le.mpr (hlimit _ (by decide)))

end Binary64

namespace Value

/-- A value that is no integer of too many digits. -/
def isShortPart : Value → Bool
  | .scalar (.integer n) => Decimal.isShort n
  | _ => true

/-- All integers in a value are short. -/
def IsShort (v : Value) : Prop := v.every isShortPart = true

/-- A JSON value whose integers are all short, unless long ones are admitted. -/
structure IsPlain (long : Prop) (v : Value) : Prop where
  json : v.IsJson
  short : ¬long → v.IsShort

theorem isPlain_null {long : Prop} : (Value.null).IsPlain long := ⟨rfl, fun _ => rfl⟩

namespace IsPlain

variable {long : Prop} {v w : Value}

theorem of_get? {key : String} (h : v.IsPlain long) (hw : v.get? key = some w) : w.IsPlain long :=
  ⟨h.json.of_get? hw, fun hlong => every_of_get? (h.short hlong) hw⟩

theorem items {items : List Value} (h : (Value.sequence items).IsPlain long) :
    ∀ w ∈ items, w.IsPlain long := fun w hw =>
  ⟨isJson_sequence.mp h.json w hw, fun hlong => every_of_sequence (h.short hlong) w hw⟩

theorem entries {entries : List (Scalar × Value)} (h : (Value.mapping entries).IsPlain long) :
    ∀ e ∈ entries, e.2.IsPlain long := fun e he =>
  ⟨(isJson_mapping.mp h.json).2.2 e he, fun hlong => every_of_mapping (h.short hlong) e he⟩

theorem keys {entries : List (Scalar × Value)} (h : (Value.mapping entries).IsPlain long) :
    ∀ e ∈ entries, ∃ t, e.1 = .text t := (isJson_mapping.mp h.json).1

end IsPlain

end Value

/-! ## §2 Computations that write -/

/-- The fault of an integer that has too many digits to be written, where long ones are admitted. -/
def TooManyDigits (long : Prop) (f : Fault) : Prop := long ∧ f = .tooManyDigits none

/-- A computation fails at most by such an integer. -/
abbrev Written (long : Prop) {α : Type} (x : Except Fault α) : Prop :=
  Gives (fun _ => True) (TooManyDigits long) x

section Writing

variable {long : Prop} {α β : Type}

theorem written_ok (a : α) : Written long (.ok a) := .ok True.intro

theorem Written.bind {x : Except Fault α} {f : α → Except Fault β} (hx : Written long x)
    (hf : ∀ a, Written long (f a)) : Written long (x >>= f) := Gives.bind hx fun a _ => hf a

theorem written_limitedText {n : Int} (h : ¬long → Decimal.isTooLong n = false) :
    Written long (Decimal.limitedText n) := by
  rw [Decimal.limitedText]
  generalize Decimal.isTooLong n = tooLong at h
  cases tooLong with
  | true => exact .error ⟨Classical.byContradiction fun hlong => Bool.noConfusion (h hlong), rfl⟩
  | false => exact written_ok _

end Writing

namespace Value

variable {long : Prop}

theorem IsPlain.integer {m n : Int} (h : (Value.integer n).IsPlain long)
    (hm : m.natAbs ≤ n.natAbs + 1) : ¬long → Decimal.isTooLong m = false := by
  intro hlong
  have hshort := every_self (h.short hlong)
  rw [isShortPart] at hshort
  exact Decimal.not_isTooLong_of_isShort hshort hm

/-! ## §3 Texts -/

mutual

theorem hasTextIn_of_isPlain (hlong : ¬long) (around : List Nat) : ∀ {v : Value},
    v.IsPlain long → v.hasTextIn around = true
  | .scalar s, h => by
    cases s with
    | integer n =>
      have hn := h.integer (Nat.le_succ _) hlong
      rw [hasTextIn, Scalar.hasText, hn]
      rfl
    | _ => rfl
  | .sequence items, h => haveTextIn_of_isPlain hlong around h.items
  | .mapping entries, h => entriesHaveTextIn_of_isPlain hlong around h.keys h.entries
  | .pair first second, h => nomatch (every_self h.json : isJsonPart (.pair first second) = true)
  | .set members, h => nomatch (every_self h.json : isJsonPart (.set members) = true)
  | .looped _ _, h => absurd h.json not_isJson_looped

theorem haveTextIn_of_isPlain (hlong : ¬long) (around : List Nat) : ∀ {items : List Value},
    (∀ v ∈ items, v.IsPlain long) → haveTextIn around items = true
  | [], _ => rfl
  | v :: rest, h => by
    obtain ⟨hv, hrest⟩ := List.forall_mem_cons.mp h
    rw [haveTextIn, hasTextIn_of_isPlain hlong around hv, haveTextIn_of_isPlain hlong around hrest]
    rfl

theorem entriesHaveTextIn_of_isPlain (hlong : ¬long) (around : List Nat) :
    ∀ {entries : List (Scalar × Value)}, (∀ e ∈ entries, ∃ t, e.1 = .text t) →
      (∀ e ∈ entries, e.2.IsPlain long) → entriesHaveTextIn around entries = true
  | [], _, _ => rfl
  | (k, v) :: rest, hkeys, h => by
    obtain ⟨⟨t, ht⟩, hkeys⟩ := List.forall_mem_cons.mp hkeys
    obtain ⟨hv, hrest⟩ := List.forall_mem_cons.mp h
    rw [entriesHaveTextIn, show k = .text t from ht, hasTextIn_of_isPlain hlong around hv,
      entriesHaveTextIn_of_isPlain hlong around hkeys hrest]
    rfl

end

theorem written_displayText {v : Value} (h : v.IsPlain long) : Written long v.displayText := by
  unfold displayText
  split
  · exact written_ok _
  · rename_i htext
    exact .error ⟨Classical.byContradiction fun hlong => htext (hasTextIn_of_isPlain hlong [] h), rfl⟩

/-! ## §4 Plain texts -/

theorem written_plainNumber (long : Prop) (x : Binary64) :
    Written long (Value.number x).plainText := by
  rw [plainText, Scalar.plainText]
  split
  · rename_i n hn
    exact written_limitedText fun _ => Binary64.not_isTooLong_of_toInt? hn
  · exact written_ok _

mutual

theorem written_plainText : ∀ {v : Value}, v.IsPlain long → Written long v.plainText
  | .scalar s, h => by
    cases s with
    | integer n =>
      rw [plainText, Scalar.plainText]
      exact written_limitedText (h.integer (Nat.le_succ _))
    | number x => exact written_plainNumber long x
    | _ => exact written_ok _
  | .sequence _, h => (written_plainTexts h.items).bind fun _ => written_ok _
  | .mapping _, _ => written_ok _
  | .pair first second, h => nomatch (every_self h.json : isJsonPart (.pair first second) = true)
  | .set members, h => nomatch (every_self h.json : isJsonPart (.set members) = true)
  | .looped _ _, h => absurd h.json not_isJson_looped

theorem written_plainTexts : ∀ {items : List Value}, (∀ v ∈ items, v.IsPlain long) →
    Written long (plainTexts items)
  | [], _ => written_ok _
  | v :: rest, h => by
    obtain ⟨hv, hrest⟩ := List.forall_mem_cons.mp h
    exact (written_plainText hv).bind fun _ => (written_plainTexts hrest).bind fun _ =>
      written_ok _

end

/-! ## §5 JSON -/

/-- There is no fault but that of an integer of too many digits. -/
def AtMostDigits (long : Prop) (f : Option Fault) : Prop := ∀ e, f = some e → TooManyDigits long e

theorem atMostDigits_none : AtMostDigits long none := fun _ h => nomatch h

theorem AtMostDigits.or {f g : Option Fault} (hf : AtMostDigits long f) (hg : AtMostDigits long g) :
    AtMostDigits long (f.or g) := by
  intro e h
  rcases Option.or_eq_some_iff.mp h with h | ⟨-, h⟩
  · exact hf e h
  · exact hg e h

theorem atMostDigits_integer {n : Int} (h : ¬long → Decimal.isTooLong n = false) :
    AtMostDigits long (Json.scalarFault? (.integer n)) := by
  intro e he
  rw [Json.scalarFault?] at he
  generalize Decimal.isTooLong n = tooLong at h he
  cases tooLong with
  | true =>
    exact ⟨Classical.byContradiction fun hlong => Bool.noConfusion (h hlong), (Option.some.inj he).symm⟩
  | false => cases he

theorem atMostDigits_scalar {s : Scalar} (h : (Value.scalar s).IsPlain long) :
    AtMostDigits long (Json.scalarFault? (wholeScalar s)) := by
  cases s with
  | integer n => exact atMostDigits_integer (h.integer (Nat.le_succ _))
  | number x =>
    rw [wholeScalar]
    split
    · rename_i n hn
      exact atMostDigits_integer fun _ => Binary64.not_isTooLong_of_toInt? hn
    · exact atMostDigits_none
  | bytes | date | timestamp => cases h.json
  | _ => exact atMostDigits_none

mutual

theorem atMostDigits_fault : ∀ {v : Value}, v.IsPlain long →
    AtMostDigits long (Json.fault? v.withWholeNumbers)
  | .scalar _, h => atMostDigits_scalar h
  | .sequence _, h => atMostDigits_items h.items
  | .mapping _, h => atMostDigits_entries h.keys h.entries
  | .pair first second, h => nomatch (every_self h.json : isJsonPart (.pair first second) = true)
  | .set members, h => nomatch (every_self h.json : isJsonPart (.set members) = true)
  | .looped _ _, h => absurd h.json not_isJson_looped

theorem atMostDigits_items : ∀ {items : List Value}, (∀ v ∈ items, v.IsPlain long) →
    AtMostDigits long (Json.itemsFault? (itemsWithWholeNumbers items))
  | [], _ => atMostDigits_none
  | v :: rest, h => by
    obtain ⟨hv, hrest⟩ := List.forall_mem_cons.mp h
    exact (atMostDigits_fault hv).or (atMostDigits_items hrest)

theorem atMostDigits_entries : ∀ {entries : List (Scalar × Value)},
    (∀ e ∈ entries, ∃ t, e.1 = .text t) → (∀ e ∈ entries, e.2.IsPlain long) →
    AtMostDigits long (Json.entriesFault? (entriesWithWholeNumbers entries))
  | [], _, _ => atMostDigits_none
  | (k, v) :: rest, hkeys, h => by
    obtain ⟨⟨t, ht⟩, hkeys⟩ := List.forall_mem_cons.mp hkeys
    obtain ⟨hv, hrest⟩ := List.forall_mem_cons.mp h
    have hkey : AtMostDigits long (Json.keyFault? k) := by
      rw [show k = .text t from ht]
      exact atMostDigits_none
    exact (hkey.or (atMostDigits_fault hv)).or (atMostDigits_entries hkeys hrest)

end

/-- A JSON value is written as JSON again. -/
theorem written_compactJson {v : Value} (h : v.IsPlain long) : Written long v.compactJson := by
  unfold compactJson Json.render
  split
  · rename_i f hf
    exact .error (atMostDigits_fault h f hf)
  · exact written_ok _

end Value

end SchemaDoc
