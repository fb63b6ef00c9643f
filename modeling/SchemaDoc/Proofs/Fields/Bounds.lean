/-
SchemaDoc.Proofs.Fields.Bounds — the range that is documented for an integer field.

A bound of an integer field is left out if it is zero, moved by one if its flag
takes it out, and left out again if it has become zero (`Limit.shown`). What is
left is written in braces behind the type and can be read back from there
(`ofTypeExpression?_typeText`). So no integer that the schema allows is missing
from the range, and on each side the range allows no other one, unless the bound
of this side was left out (`bounds_of_ofLeaf`).

§1 limits in a schema, §2 bounds that are shown, §3 type expressions that are
written, §4 type expressions that are read, §5 integer fields.
-/
import SchemaDoc.Fields
import SchemaDoc.Proofs.Failing
import SchemaDoc.Proofs.Number.Digits
import SchemaDoc.Proofs.Text.Cut

namespace SchemaDoc

/-! ## §1 Limits in a schema -/

/-- A limit of an integer field on one side, as the schema states it: a bound, and a flag that may
take the bound itself out. -/
structure Limit where
  bound : Option Int := none
  exclusive : Option Bool := none

namespace Limit

/-- An integer keeps to the limit on the lower side, in the meaning of Draft 4: the flag means
nothing without a bound. -/
def AllowsFrom (l : Limit) (n : Int) : Prop :=
  ∀ m ∈ l.bound, if l.exclusive = some true then m < n else m ≤ n

/-- An integer keeps to the limit on the upper side. -/
def AllowsTo (l : Limit) (n : Int) : Prop :=
  ∀ m ∈ l.bound, if l.exclusive = some true then n < m else n ≤ m

/-- A bound moved by a step, if the flag takes it out. -/
def moved (l : Limit) (step m : Int) : Int := if l.exclusive = some true then m + step else m

/-- The bound is zero, or moved to zero. -/
def Dropped (l : Limit) (step : Int) : Prop :=
  ∃ m ∈ l.bound, m = 0 ∨ l.exclusive = some true ∧ m + step = 0

variable {l : Limit} {step : Int}

/-- There is no integer between a bound and the next one. -/
theorem allowsFrom_iff {n : Int} : l.AllowsFrom n ↔ ∀ m ∈ l.bound, l.moved 1 m ≤ n := by
  refine forall₂_congr fun m _ => ?_
  unfold moved
  split
  · exact Int.lt_iff_add_one_le
  · exact Iff.rfl

theorem allowsTo_iff {n : Int} : l.AllowsTo n ↔ ∀ m ∈ l.bound, n ≤ l.moved (-1) m := by
  refine forall₂_congr fun m _ => ?_
  unfold moved
  split
  · exact (by omega)
  · exact Iff.rfl

/-! ## §2 Bounds that are shown -/

/-- The bound behind the first look at it, and moved. -/
def passed (l : Limit) (step : Int) : Option Int := (l.bound.filter (· ≠ 0)).map (l.moved step)

/-- The bound that is shown in the end: what is moved to zero is left out as well. -/
def shown (l : Limit) (step : Int) : Option Int := (l.passed step).filter (· ≠ 0)

theorem passed_some {m : Int} (hm : m ≠ 0) (exclusive : Option Bool) :
    passed ⟨some m, exclusive⟩ step = some (moved ⟨some m, exclusive⟩ step m) := by
  rw [passed, Option.filter_some_pos (by simpa using hm), Option.map_some]

/-- What is shown is the bound, moved. -/
theorem mem_shown_iff {m : Int} :
    m ∈ l.shown step ↔ (∃ b ∈ l.bound, b ≠ 0 ∧ l.moved step b = m) ∧ m ≠ 0 := by
  simp [shown, passed, Option.filter_eq_some_iff, and_assoc]

/-- Whatever holds of the moved bound holds of the one that is shown. -/
theorem forall_shown {P : Int → Prop} (h : ∀ b ∈ l.bound, P (l.moved step b)) :
    ∀ m ∈ l.shown step, P m := by
  intro m hm
  obtain ⟨⟨b, hb, -, rfl⟩, -⟩ := mem_shown_iff.mp hm
  exact h b hb

/-- Whatever holds of the bound that is shown holds of the moved one, unless this was dropped. -/
theorem forall_bound {P : Int → Prop} (h : ∀ m ∈ l.shown step, P m) :
    l.Dropped step ∨ ∀ b ∈ l.bound, P (l.moved step b) := by
  by_cases hdropped : l.Dropped step
  · exact Or.inl hdropped
  · refine Or.inr fun b hb =>
      h _ (mem_shown_iff.mpr ⟨⟨b, hb, fun hzero => ?_, rfl⟩, fun hzero => ?_⟩)
    · exact hdropped ⟨b, hb, Or.inl hzero⟩
    · unfold moved at hzero
      split at hzero
      · rename_i hflag
        exact hdropped ⟨b, hb, Or.inr ⟨hflag, hzero⟩⟩
      · exact hdropped ⟨b, hb, Or.inl hzero⟩

/-- The bound that is shown, if any, has no more digits than an integer may have. -/
def Fits (l : Limit) (step : Int) : Prop := ∀ m ∈ l.shown step, Decimal.isTooLong m = false

/-! ## §3 Type expressions that are written -/

/-- An integer as a bound, or no bound. -/
def valueOf (bound : Option Int) : Value := bound.elim .null .integer

/-- The text of a bound that is shown. -/
def textOf (shown : Option Int) : String := shown.elim "" Decimal.integerText

theorem isGiven_passed (l : Limit) (step : Int) :
    (valueOf (l.passed step)).isGiven = (l.shown step).isSome := by
  unfold shown
  cases l.passed step with
  | none => rfl
  | some m => by_cases hm : m = 0 <;> simp [valueOf, Value.isGiven, hm]

theorem limitedText_eq_ok {m : Int} {t : String} : Decimal.limitedText m = .ok t ↔
    Decimal.isTooLong m = false ∧ t = Decimal.integerText m := by
  rw [Decimal.limitedText]
  cases Decimal.isTooLong m <;> simp [eq_comm]

/-- A bound is written if it is not too long. -/
theorem boundText_eq_ok {t : String} : Expression.boundText (valueOf (l.passed step)) = .ok t ↔
    l.Fits step ∧ t = textOf (l.shown step) := by
  rw [Expression.boundText, isGiven_passed]
  unfold Fits
  cases hshown : l.shown step with
  | none =>
    rw [Option.isSome_none, if_neg Bool.false_ne_true, Except.ok.injEq]
    exact ⟨fun h => ⟨nofun, h.symm⟩, fun h => h.2.symm⟩
  | some m =>
    obtain ⟨hpassed, -⟩ := Option.filter_eq_some_iff.mp hshown
    rw [Option.isSome_some, if_pos rfl, hpassed, valueOf, Option.elim_some, Value.plainText,
      Scalar.plainText, limitedText_eq_ok]
    refine and_congr_left' ⟨fun h n hn => ?_, fun h => h m rfl⟩
    obtain rfl := Option.some.inj hn
    exact h

/-- The range of these bounds, in braces if there is one. -/
def rangeText (low high : Option Int) : String :=
  if low.isSome || high.isSome then "\x7b" ++ textOf low ++ ".." ++ textOf high ++ "\x7d" else ""

/-- A range is written if both bounds are. -/
theorem sizeSuffix_eq_ok {low high : Limit} {step step' : Int} {t : String} :
    Expression.sizeSuffix (valueOf (low.passed step)) (valueOf (high.passed step')) = .ok t ↔
      low.Fits step ∧ high.Fits step' ∧ t = rangeText (low.shown step) (high.shown step') := by
  unfold Expression.sizeSuffix rangeText
  rw [isGiven_passed, isGiven_passed]
  split
  · simp only [bind_eq_ok, boundText_eq_ok, pure_eq_ok, Except.ok.injEq]
    constructor
    · rintro ⟨_, ⟨hlow, rfl⟩, _, ⟨hhigh, rfl⟩, rfl⟩
      exact ⟨hlow, hhigh, rfl⟩
    · rintro ⟨hlow, hhigh, rfl⟩
      exact ⟨_, ⟨hlow, rfl⟩, _, ⟨hhigh, rfl⟩, rfl⟩
  · rename_i hnone
    simp only [Bool.or_eq_true, not_or, Bool.not_eq_true, Option.isSome_eq_false_iff,
      Option.isNone_iff_eq_none] at hnone
    unfold Fits
    rw [hnone.1, hnone.2, Except.ok.injEq]
    exact ⟨fun h => ⟨nofun, nofun, h.symm⟩, fun h => h.2.2.symm⟩

end Limit

namespace Descriptor

/-- A leaf of type integer with limits on both sides and without a list of allowed values. -/
structure IsInteger (node : Value) (low high : Limit) : Prop where
  type : node.get? "type" = some (.text "integer")
  minimum : node.get? "minimum" = low.bound.map .integer
  exclusiveMinimum : node.get? "exclusiveMinimum" = low.exclusive.map .bool
  maximum : node.get? "maximum" = high.bound.map .integer
  exclusiveMaximum : node.get? "exclusiveMaximum" = high.exclusive.map .bool
  enum : node.get? "enum" = none

variable {node : Value} {low high : Limit}

/-- A bound is looked at, and moved if the flag is set, in the same way on both sides. -/
theorem passed_eq (l : Limit) (step : Int) (move : Value → Except Fault Value)
    (hmove : ∀ m, move (.integer m) = .ok (.integer (m + step))) :
    (let bound := (l.bound.map Value.integer).getD .null
    if bound.isGiven then
      if ((l.exclusive.map Value.bool).getD .null).isGiven then move bound else .ok bound
    else .ok .null) = .ok (Limit.valueOf (l.passed step)) := by
  rcases l with ⟨_ | m, exclusive⟩
  · rfl
  · by_cases hm : m = 0
    · subst hm
      rfl
    · have hgiven : (Value.integer m).isGiven = true := bne_iff_ne.mpr hm
      rw [Limit.passed_some hm]
      rcases exclusive with _ | _ | _
      · exact if_pos hgiven
      · exact if_pos hgiven
      · exact (if_pos hgiven).trans (hmove m)

theorem lowerBound_eq (h : IsInteger node low high) :
    lowerBound node = .ok (Limit.valueOf (low.passed 1)) := by
  unfold lowerBound fact
  rw [h.minimum, h.exclusiveMinimum]
  exact passed_eq low 1 (Value.add · (.integer 1)) fun m => Value.add_integer m 1

theorem upperBound_eq (h : IsInteger node low high) :
    upperBound node = .ok (Limit.valueOf (high.passed (-1))) := by
  unfold upperBound fact
  rw [h.maximum, h.exclusiveMaximum]
  exact passed_eq high (-1) (Value.sub · (.integer 1)) fun m => Value.sub_integer m 1

/-- **The type expression of an integer field.** There is one exactly if the bounds that are shown
are not too long. -/
theorem leafType_eq_ok (h : IsInteger node low high) {t : String} : leafType node = .ok t ↔
    low.Fits 1 ∧ high.Fits (-1) ∧
      t = "integer" ++ Limit.rangeText (low.shown 1) (high.shown (-1)) := by
  have hkind : fact node "type" = .text "integer" := by rw [fact, h.type, Option.getD_some]
  have hallowed : Expression.allowedSuffix (fact node "enum") = .ok "" := by
    rw [fact, h.enum]
    rfl
  unfold leafType
  rw [hkind]
  simp only [lowerBound_eq h, upperBound_eq h, ok_bind, Expression.ofType, hallowed, bind_eq_ok,
    Limit.sizeSuffix_eq_ok, pure_eq_ok, Except.ok.injEq]
  have hshown : (Value.text "integer").display ++ Limit.rangeText (low.shown 1) (high.shown (-1))
      ++ "" = "integer" ++ Limit.rangeText (low.shown 1) (high.shown (-1)) := String.append_empty
  constructor
  · rintro ⟨_, ⟨hlow, hhigh, rfl⟩, rfl⟩
    exact ⟨hlow, hhigh, hshown⟩
  · rintro ⟨hlow, hhigh, rfl⟩
    exact ⟨_, ⟨hlow, hhigh, rfl⟩, hshown⟩

end Descriptor

/-! ## §4 Type expressions that are read -/

/-- The range that a type expression documents. A side without a bound is open. -/
structure Bounds where
  low : Option Int
  high : Option Int

namespace Bounds

/-- An integer lies in the range. -/
def Contains (b : Bounds) (n : Int) : Prop := (∀ m ∈ b.low, m ≤ n) ∧ ∀ m ∈ b.high, n ≤ m

/-- A bound in a range: nothing, or an integer. -/
def bound? : List Char → Option (Option Int)
  | [] => some none
  | s => (Decimal.integer? s).map some

/-- The range of a type expression for integers: two bounds with two dots between them, in braces
that end the expression. Without braces it is open on both sides. -/
def ofTypeExpression? (t : String) : Option Bounds :=
  match Text.cutOnce '\x7b' t.toList with
  | (label, none) => if label = "integer".toList then some ⟨none, none⟩ else none
  | (label, some range) => match Text.cutOnce '.' range with
    | (low, some ('.' :: rest)) => match Text.cutOnce '\x7d' rest with
      | (high, some []) =>
        if label = "integer".toList then do
          let l ← bound? low
          let h ← bound? high
          return ⟨l, h⟩
        else none
      | _ => none
    | _ => none

/-- A bound that is shown has digits and a sign only. -/
theorem not_mem_textOf {c : Char} (hdigit : c.isDigit = false) (hsign : c ≠ '-')
    (bound : Option Int) : c ∉ (Limit.textOf bound).toList := by
  cases bound with
  | none => exact List.not_mem_nil
  | some m =>
    rw [Limit.textOf, Option.elim_some, Decimal.integerText, String.toList_ofList]
    exact Decimal.not_mem_integer hdigit hsign m

theorem bound?_textOf (bound : Option Int) : bound? (Limit.textOf bound).toList = some bound := by
  cases bound with
  | none => rfl
  | some m =>
    rw [Limit.textOf, Option.elim_some, Decimal.integerText, String.toList_ofList]
    have hread := Decimal.integer?_integer m
    unfold bound?
    split
    · rename_i hempty
      rw [hempty] at hread
      cases hread
    · rw [hread, Option.map_some]

/-- **The range is read back from the type expression.** -/
theorem ofTypeExpression?_rangeText (low high : Option Int) :
    ofTypeExpression? ("integer" ++ Limit.rangeText low high) = some ⟨low, high⟩ := by
  unfold Limit.rangeText
  split
  · have htext : ("integer" ++
          ("\x7b" ++ Limit.textOf low ++ ".." ++ Limit.textOf high ++ "\x7d")).toList
        = "integer".toList ++ '\x7b' :: ((Limit.textOf low).toList ++
            '.' :: '.' :: ((Limit.textOf high).toList ++ '\x7d' :: [])) := by
      simp
    have hlow : '.' ∉ (Limit.textOf low).toList := not_mem_textOf rfl (by decide) low
    have hhigh : '\x7d' ∉ (Limit.textOf high).toList := not_mem_textOf rfl (by decide) high
    rw [ofTypeExpression?, htext, Text.cutOnce_append (by decide)]
    simp only [Text.cutOnce_append hlow, Text.cutOnce_append hhigh, if_pos, bound?_textOf]
    rfl
  · rename_i hnone
    simp only [Bool.or_eq_true, not_or, Bool.not_eq_true, Option.isSome_eq_false_iff,
      Option.isNone_iff_eq_none] at hnone
    rw [hnone.1, hnone.2]
    rfl

end Bounds

/-! ## §5 Integer fields -/

namespace Descriptor

variable {node : Value} {low high : Limit}

theorem kind_bare (v : Value) : v.bare.kind = v.kind := by
  fun_induction Value.bare v with
  | case1 mark body ih => exact ih
  | case2 => rfl

/-- Only mappings have something under a key. -/
theorem isMapping_of_get? {key : String} {v : Value} (h : node.get? key = some v) :
    node.isMapping = true := by
  unfold Value.get? at h
  split at h
  · rename_i entries hbare
    rw [Value.isMapping, ← kind_bare, hbare]
    rfl
  · cases h

/-- **The documented range of an integer field.** The field is documented if its bounds are not too
long and its description can be shown. Then its type expression shows a range that holds every
integer that the limits of the schema allow, and on each side no other one, unless the bound of this
side was dropped. -/
theorem bounds_of_ofLeaf (h : IsInteger node low high) (name depth : Value) (required : Bool) :
    ((∃ d, ofLeaf name node depth required = .ok d) ↔
      low.Fits 1 ∧ high.Fits (-1) ∧ ∃ description, descriptionOf node = .ok description) ∧
    ∀ d, ofLeaf name node depth required = .ok d →
      ∃ bounds, Bounds.ofTypeExpression? d.typeExpression = some bounds ∧
        (∀ n, low.AllowsFrom n → high.AllowsTo n → bounds.Contains n) ∧
        ∀ n, bounds.Contains n →
          (low.Dropped 1 ∨ low.AllowsFrom n) ∧ (high.Dropped (-1) ∨ high.AllowsTo n) := by
  have hleaf : ∀ d, ofLeaf name node depth required = .ok d ↔
      ∃ t, leafType node = .ok t ∧ ∃ description, descriptionOf node = .ok description ∧
        ⟨depth, name, required, t, node.get? "default", description⟩ = d := by
    intro d
    rw [ofLeaf, if_pos (isMapping_of_get? h.type)]
    simp only [bind_eq_ok, pure_eq_ok, Except.ok.injEq]
  constructor
  · simp only [hleaf, leafType_eq_ok h]
    constructor
    · rintro ⟨_, _, ⟨hlow, hhigh, -⟩, description, hdescription, -⟩
      exact ⟨hlow, hhigh, description, hdescription⟩
    · rintro ⟨hlow, hhigh, description, hdescription⟩
      exact ⟨_, _, ⟨hlow, hhigh, rfl⟩, description, hdescription, rfl⟩
  · intro d hd
    obtain ⟨t, ht, description, -, rfl⟩ := (hleaf d).mp hd
    obtain ⟨-, -, rfl⟩ := (leafType_eq_ok h).mp ht
    refine ⟨⟨low.shown 1, high.shown (-1)⟩, Bounds.ofTypeExpression?_rangeText _ _,
      fun n hlow hhigh => ⟨?_, ?_⟩, fun n hn => ⟨?_, ?_⟩⟩
    · exact Limit.forall_shown (Limit.allowsFrom_iff.mp hlow)
    · exact Limit.forall_shown (Limit.allowsTo_iff.mp hhigh)
    · exact (Limit.forall_bound hn.1).imp_right Limit.allowsFrom_iff.mpr
    · exact (Limit.forall_bound hn.2).imp_right Limit.allowsTo_iff.mpr

/-- A field with the bounds -1 and 10, both taken out. -/
def betweenExclusive : Value := .mapping [
  (.text "type", .text "integer"), (.text "minimum", .integer (-1)),
  (.text "exclusiveMinimum", .bool true), (.text "maximum", .integer 10),
  (.text "exclusiveMaximum", .bool true)]

/-- Its lower bound is moved to zero and dropped. So the range is open on this side, where it holds
integers that are not allowed, and right on the other one. -/
theorem bounds_of_ofLeaf_dropped : ∃ d bounds,
    ofLeaf (.text "n") betweenExclusive (.integer 0) false = .ok d ∧
    d.typeExpression = "integer\x7b..9\x7d" ∧
    Bounds.ofTypeExpression? d.typeExpression = some bounds ∧
    bounds.Contains (-5) ∧ ¬(⟨some (-1), some true⟩ : Limit).AllowsFrom (-5) ∧
    ∀ n, bounds.Contains n → (⟨some 10, some true⟩ : Limit).AllowsTo n := by
  have h : IsInteger betweenExclusive ⟨some (-1), some true⟩ ⟨some 10, some true⟩ :=
    ⟨rfl, rfl, rfl, rfl, rfl, rfl⟩
  have htype : (ofLeaf (.text "n") betweenExclusive (.integer 0) false).map typeExpression
      = .ok "integer\x7b..9\x7d" := toOption_eq_some.mp (by decide +kernel)
  obtain ⟨d, hd, ht⟩ := map_eq_ok.mp htype
  obtain ⟨bounds, hbounds, -, hright⟩ :=
    (bounds_of_ofLeaf h (.text "n") (.integer 0) false).2 d hd
  have hopen : bounds = ⟨none, some 9⟩ := by
    rw [ht] at hbounds
    exact (Option.some.inj hbounds).symm
  have hkept : ¬(⟨some 10, some true⟩ : Limit).Dropped (-1) := by
    simp [Limit.Dropped]
  refine ⟨d, bounds, hd, ht, hbounds, ?_, ?_, fun n hn => (hright n hn).2.resolve_left hkept⟩
  · rw [hopen]
    simp [Bounds.Contains]
  · simp [Limit.AllowsFrom]

end Descriptor

end SchemaDoc
