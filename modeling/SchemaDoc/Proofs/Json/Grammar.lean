/-
SchemaDoc.Proofs.Json.Grammar — what is printed in ASCII is JSON.

The grammar of JSON is stated on its own, over characters, with blanks allowed
wherever JSON allows them; neither the printer nor the reader has a part in it.
The spaced layout keeps to that grammar whatever the texts are that it prints
(`isValue_write`), and writes printable ASCII characters only, so that a value
takes one line (`printable_write`). Doubles are left out: no report holds any,
and what JSON has no number for would not keep to the grammar.

§1 strings, §2 numbers, §3 values, §4 characters, §5 strings that are printed,
§6 integers that are printed, §7 values that are printed.
-/
import Mathlib.Data.List.Basic
import SchemaDoc.Json.Printer
import SchemaDoc.Proofs.Number.Digits
import SchemaDoc.Proofs.Value.Every

namespace SchemaDoc.Json

/-! ## §1 Strings -/

/-- The characters that an escape names by a letter or by themselves. -/
def escapedChars : List Char := ['"', '\\', '/', 'b', 'f', 'n', 'r', 't']

/-- One character of a string, plain or escaped. -/
inductive IsPiece : List Char → Prop
  | plain {c : Char} (hlow : 0x20 ≤ c.toNat) (hquote : c ≠ '"') (hslash : c ≠ '\\') : IsPiece [c]
  | escaped {c : Char} (h : c ∈ escapedChars) : IsPiece ['\\', c]
  | numbered {ds : List Char} (hlength : ds.length = 4)
      (hdigits : ∀ d ∈ ds, (Text.hexValue? d).isSome = true) : IsPiece ('\\' :: 'u' :: ds)

/-- Characters of a string one behind the other. -/
def ArePieces (s : List Char) : Prop :=
  ∃ pieces : List (List Char), (∀ p ∈ pieces, IsPiece p) ∧ s = pieces.flatten

/-- A string in its quotes. -/
def IsString (s : List Char) : Prop := ∃ body, ArePieces body ∧ s = ['"'] ++ body ++ ['"']

/-! ## §2 Numbers -/

/-- Digits, at least one. -/
def AreDigits (s : List Char) : Prop := s ≠ [] ∧ ∀ c ∈ s, c.isDigit = true

/-- A whole number starts with a zero only if it is zero. -/
def IsWhole (s : List Char) : Prop := s = ['0'] ∨ (AreDigits s ∧ s.head? ≠ some '0')

/-- A fraction, if there is one. -/
def IsFraction (s : List Char) : Prop := s = [] ∨ ∃ ds, AreDigits ds ∧ s = '.' :: ds

/-- An exponent, if there is one. -/
def IsExponent (s : List Char) : Prop :=
  s = [] ∨ ∃ e sign ds, (e = 'e' ∨ e = 'E') ∧ (sign = [] ∨ sign = ['+'] ∨ sign = ['-']) ∧
    AreDigits ds ∧ s = e :: sign ++ ds

/-- A number. -/
def IsNumber (s : List Char) : Prop :=
  ∃ sign whole fraction exponent, (sign = [] ∨ sign = ['-']) ∧ IsWhole whole ∧
    IsFraction fraction ∧ IsExponent exponent ∧ s = sign ++ whole ++ fraction ++ exponent

/-! ## §3 Values -/

/-- Blanks between tokens. -/
def AreBlanks (s : List Char) : Prop := ∀ c ∈ s, c = ' ' ∨ c = '\t' ∨ c = '\n' ∨ c = '\r'

/-- Texts of one sort with commas between them, at least one. -/
inductive IsSeparated (p : List Char → Prop) : List Char → Prop
  | one {s : List Char} (h : p s) : IsSeparated p s
  | more {s t : List Char} (h : p s) (ht : IsSeparated p t) : IsSeparated p (s ++ ',' :: t)

mutual

/-- A value. -/
inductive IsValue : List Char → Prop
  | null : IsValue "null".toList
  | false : IsValue "false".toList
  | true : IsValue "true".toList
  | number {s : List Char} (h : IsNumber s) : IsValue s
  | string {s : List Char} (h : IsString s) : IsValue s
  | emptyArray {s : List Char} (h : AreBlanks s) : IsValue (['['] ++ s ++ [']'])
  | array {s : List Char} (h : IsSeparated IsElement s) : IsValue (['['] ++ s ++ [']'])
  | emptyObject {s : List Char} (h : AreBlanks s) : IsValue (['\x7b'] ++ s ++ ['\x7d'])
  | object {s : List Char} (h : IsSeparated IsMember s) : IsValue (['\x7b'] ++ s ++ ['\x7d'])

/-- A value with blanks around it. -/
inductive IsElement : List Char → Prop
  | padded {before s after : List Char} (hbefore : AreBlanks before) (h : IsValue s)
      (hafter : AreBlanks after) : IsElement (before ++ s ++ after)

/-- A member of an object: a string, a colon and a value, with blanks around each. -/
inductive IsMember : List Char → Prop
  | padded {before k after s : List Char} (hbefore : AreBlanks before) (hk : IsString k)
      (hafter : AreBlanks after) (h : IsElement s) : IsMember (before ++ k ++ after ++ ':' :: s)

end

/-- The text of one object, with blanks around it: no value but an object starts with a brace. -/
def IsObjectText (s : List Char) : Prop :=
  ∃ before o after, AreBlanks before ∧ (IsValue o ∧ o.head? = some '\x7b') ∧ AreBlanks after ∧
    s = before ++ o ++ after

theorem areBlanks_nil : AreBlanks [] := nofun

theorem areBlanks_space : AreBlanks [' '] := fun _ h => Or.inl (List.mem_singleton.mp h)

theorem AreBlanks.append {s t : List Char} (hs : AreBlanks s) (ht : AreBlanks t) :
    AreBlanks (s ++ t) := fun c h => (List.mem_append.mp h).elim (hs c) (ht c)

theorem IsValue.isElement {s : List Char} (h : IsValue s) : IsElement s := by
  simpa using IsElement.padded areBlanks_nil h areBlanks_nil

theorem IsElement.space {s : List Char} (h : IsElement s) : IsElement (' ' :: s) := by
  cases h with
  | padded hbefore h hafter => exact .padded (areBlanks_space.append hbefore) h hafter

theorem IsMember.space {s : List Char} (h : IsMember s) : IsMember (' ' :: s) := by
  cases h with
  | padded hbefore hk hafter h => exact .padded (areBlanks_space.append hbefore) hk hafter h

/-- Texts with a comma and a blank between them are separated, if a blank may stand before each. -/
theorem isSeparated_intercalate {p : List Char → Prop} (hspace : ∀ s, p s → p (' ' :: s)) :
    ∀ {xs : List (List Char)}, xs ≠ [] → (∀ x ∈ xs, p x) →
      IsSeparated p ([',', ' '].intercalate xs)
  | [], hne, _ => absurd rfl hne
  | [x], _, h => by simpa using IsSeparated.one (h x (List.mem_singleton_self x))
  | x :: y :: rest, _, h => by
    obtain ⟨hx, h⟩ := List.forall_mem_cons.mp h
    have hrest := isSeparated_intercalate hspace (List.cons_ne_nil y rest) h
    have hpadded : ∀ {t}, IsSeparated p t → IsSeparated p (' ' :: t) := by
      rintro t (⟨ht⟩ | ⟨ht, hmore⟩)
      · exact .one (hspace _ ht)
      · exact .more (s := ' ' :: _) (hspace _ ht) hmore
    rw [List.intercalate_cons_cons, List.append_assoc]
    exact .more hx (hpadded hrest)

theorem isObjectText_of_isValue {s : List Char} (h : IsValue s) (hbrace : s.head? = some '\x7b') :
    IsObjectText s :=
  ⟨[], s, [], areBlanks_nil, ⟨h, hbrace⟩, areBlanks_nil, by simp⟩

/-- The text of an object starts with a blank or a brace. -/
theorem IsObjectText.head {c : Char} {s : List Char} (h : IsObjectText (c :: s)) :
    c = ' ' ∨ c = '\t' ∨ c = '\n' ∨ c = '\r' ∨ c = '\x7b' := by
  obtain ⟨before, o, after, hbefore, ⟨-, ho⟩, -, heq⟩ := h
  cases before with
  | nil =>
    obtain ⟨rest, rfl⟩ := List.head?_eq_some_iff.mp ho
    obtain ⟨rfl, -⟩ := List.cons.inj heq
    simp
  | cons b before =>
    obtain ⟨rfl, -⟩ := List.cons.inj heq
    have := hbefore c (List.mem_cons_self ..)
    tauto

/-! ## §4 Characters -/

/-- Printable ASCII characters, a blank among them. -/
def Printable (s : List Char) : Prop := ∀ c ∈ s, 0x20 ≤ c.toNat ∧ c.toNat < 0x7F

instance (s : List Char) : Decidable (Printable s) :=
  @List.decidableBAll Char (fun c => 0x20 ≤ c.toNat ∧ c.toNat < 0x7F) inferInstance s

theorem printable_append {s t : List Char} : Printable (s ++ t) ↔ Printable s ∧ Printable t :=
  List.forall_mem_append

theorem printable_intercalate {sep : List Char} (hsep : Printable sep) :
    ∀ {xs : List (List Char)}, (∀ x ∈ xs, Printable x) → Printable (sep.intercalate xs)
  | [], _ => by simp [Printable]
  | [x], h => by simpa using h
  | x :: y :: rest, h => by
    obtain ⟨hx, h⟩ := List.forall_mem_cons.mp h
    rw [List.intercalate_cons_cons]
    exact printable_append.mpr ⟨printable_append.mpr ⟨hx, hsep⟩, printable_intercalate hsep h⟩

theorem Printable.not_mem_lf {s : List Char} (h : Printable s) : '\n' ∉ s :=
  fun hmem => absurd (h _ hmem).1 (by decide)

/-! ## §5 Strings that are printed -/

theorem arePieces_append {s t : List Char} (hs : ArePieces s) (ht : ArePieces t) :
    ArePieces (s ++ t) := by
  obtain ⟨ps, hps, rfl⟩ := hs
  obtain ⟨qs, hqs, rfl⟩ := ht
  exact ⟨ps ++ qs, List.forall_mem_append.mpr ⟨hps, hqs⟩, List.flatten_append.symm⟩

theorem IsPiece.arePieces {s : List Char} (h : IsPiece s) : ArePieces s :=
  ⟨[s], List.forall_mem_singleton.mpr h, by simp⟩

theorem arePieces_flatMap {α : Type} {f : α → List Char} (h : ∀ a, ArePieces (f a)) :
    ∀ as : List α, ArePieces (as.flatMap f)
  | [] => ⟨[], nofun, rfl⟩
  | a :: as => arePieces_append (h a) (arePieces_flatMap h as)

theorem hexDigit_spec {n : Nat} (h : n < 16) : (Text.hexValue? (Text.hexDigit n)).isSome = true ∧
    0x20 ≤ (Text.hexDigit n).toNat ∧ (Text.hexDigit n).toNat < 0x7F := by
  have hall : ∀ m : Fin 16, (Text.hexValue? (Text.hexDigit m)).isSome = true ∧
      0x20 ≤ (Text.hexDigit m).toNat ∧ (Text.hexDigit m).toNat < 0x7F := by decide
  exact hall ⟨n, h⟩

theorem mem_hex {c : Char} : ∀ {width n : Nat}, c ∈ Text.hex width n →
    ∃ d < 16, c = Text.hexDigit d
  | 0, _, h => nomatch h
  | width + 1, n, h => by
    rw [Text.hex] at h
    rcases List.mem_append.mp h with h | h
    · exact mem_hex h
    · exact ⟨n % 16, Nat.mod_lt n (by decide), List.mem_singleton.mp h⟩

theorem isPiece_unit (n : Nat) : IsPiece ('\\' :: 'u' :: Text.hex 4 n) := by
  refine .numbered (Text.length_hex 4 n) fun d hd => ?_
  obtain ⟨m, hm, rfl⟩ := mem_hex hd
  exact (hexDigit_spec hm).1

theorem printable_unit (n : Nat) : Printable ('\\' :: 'u' :: Text.hex 4 n) := by
  refine List.forall_mem_cons.mpr ⟨by decide, List.forall_mem_cons.mpr ⟨by decide, ?_⟩⟩
  intro c hc
  obtain ⟨m, hm, rfl⟩ := mem_hex hc
  exact (hexDigit_spec hm).2

theorem escapeUnits_spec (n : Nat) : ArePieces (escapeUnits n) ∧ Printable (escapeUnits n) := by
  unfold escapeUnits
  split
  · exact ⟨(isPiece_unit n).arePieces, printable_unit n⟩
  · rw [List.append_assoc]
    exact ⟨arePieces_append (isPiece_unit _).arePieces (isPiece_unit _).arePieces,
      printable_append.mpr ⟨printable_unit _, printable_unit _⟩⟩

/-- A code point is printed as one character of a string or as two, in printable ASCII. -/
theorem escapeCode_spec (n : Nat) :
    ArePieces (escapeCode true n) ∧ Printable (escapeCode true n) := by
  have hescaped : ∀ c ∈ escapedChars, ArePieces ['\\', c] ∧ Printable ['\\', c] := by
    intro c hc
    refine ⟨(IsPiece.escaped hc).arePieces, ?_⟩
    have hall : escapedChars.all (fun c => decide (Printable ['\\', c])) = true := by decide
    exact of_decide_eq_true (List.all_eq_true.mp hall c hc)
  unfold escapeCode
  dsimp only
  split; · exact hescaped _ (by decide)
  split; · exact hescaped _ (by decide)
  split; · exact hescaped _ (by decide)
  split; · exact hescaped _ (by decide)
  split; · exact hescaped _ (by decide)
  split; · exact hescaped _ (by decide)
  split; · exact hescaped _ (by decide)
  split
  · exact escapeUnits_spec n
  · rename_i hquote hslash _ _ _ _ _ hplain
    simp only [Bool.true_and, Bool.or_eq_true, decide_eq_true_eq, not_or,
      Nat.not_lt] at hplain
    have hspell : Text.spell n = [Char.ofNat n] := by
      unfold Text.spell Text.isHalf Text.needsMark
      rw [if_neg (by simp; omega), if_neg (by simp; omega)]
    have hn : (Char.ofNat n).toNat = n := Text.toNat_ofNat (Or.inl (by omega))
    rw [hspell]
    refine ⟨(IsPiece.plain (by omega) hquote hslash).arePieces, ?_⟩
    exact List.forall_mem_singleton.mpr (by omega)

theorem string_spec (s : List Char) : IsString (string true s) ∧ Printable (string true s) := by
  constructor
  · exact ⟨_, arePieces_flatMap (fun n => (escapeCode_spec n).1) _, rfl⟩
  · refine printable_append.mpr ⟨printable_append.mpr ⟨by decide, ?_⟩, by decide⟩
    intro c hc
    obtain ⟨n, -, hn⟩ := List.mem_flatMap.mp hc
    exact (escapeCode_spec n).2 c hn

/-! ## §6 Integers that are printed -/

theorem isWhole_digits (n : Nat) : IsWhole (Decimal.digits n) := by
  rcases Nat.eq_zero_or_pos n with rfl | h
  · exact Or.inl rfl
  · exact Or.inr ⟨⟨Decimal.digits_ne_nil n, fun _ => Decimal.isDigit_of_mem_digits⟩,
      Decimal.head_digits h⟩

theorem isNumber_integer (n : Int) : IsNumber (Decimal.integer n) := by
  have hfraction : IsFraction [] := Or.inl rfl
  have hexponent : IsExponent [] := Or.inl rfl
  unfold Decimal.integer
  split
  · exact ⟨['-'], _, [], [], Or.inr rfl, isWhole_digits n.natAbs, hfraction, hexponent, by simp⟩
  · exact ⟨[], _, [], [], Or.inl rfl, isWhole_digits n.natAbs, hfraction, hexponent, by simp⟩

theorem printable_integer (n : Int) : Printable (Decimal.integer n) := by
  have hdigits : Printable (Decimal.digits n.natAbs) := by
    intro c hc
    have := Decimal.isDigit_of_mem_digits hc
    simp only [Char.isDigit, Bool.and_eq_true, decide_eq_true_eq, UInt32.le_iff_toNat_le] at this
    exact ⟨Nat.le_trans (by decide) this.1, Nat.lt_of_le_of_lt this.2 (by decide)⟩
  unfold Decimal.integer
  split
  · exact List.forall_mem_cons.mpr ⟨by decide, hdigits⟩
  · exact hdigits

/-! ## §7 Values that are printed -/

/-- A scalar other than a double. -/
def isExact : Scalar → Bool
  | .number _ => false
  | _ => true

/-- A value that is no double, and has none among its members or keys. -/
def noDouble : Value → Bool
  | .scalar s => isExact s
  | .set members => members.all isExact
  | .mapping entries => entries.all fun e => isExact e.1
  | _ => true

theorem scalar_spec {s : Scalar} (h : isExact s = true) :
    IsValue (scalar spaced s) ∧ Printable (scalar spaced s) := by
  have hstring : ∀ t : List Char, IsValue (string true t) ∧ Printable (string true t) :=
    fun t => ⟨.string (string_spec t).1, (string_spec t).2⟩
  cases s with
  | null => exact ⟨.null, by decide⟩
  | bool b => cases b with
    | false => exact ⟨.false, by decide⟩
    | true => exact ⟨.true, by decide⟩
  | integer n => exact ⟨.number (isNumber_integer n), printable_integer n⟩
  | number x => cases h
  | text t => exact hstring _
  | bytes bs => exact hstring _
  | date d => exact hstring _
  | timestamp t => exact hstring _

/-- Characters that need no escape are a string when they stand in quotes. -/
theorem quoted_spec {s : List Char} (h : Printable s) (hplain : '"' ∉ s ∧ '\\' ∉ s) :
    IsString (['"'] ++ s ++ ['"']) ∧ Printable (['"'] ++ s ++ ['"']) := by
  refine ⟨⟨s, ?_, rfl⟩, ?_⟩
  · refine ⟨s.map fun c => [c], ?_, (List.flatMap_singleton' s).symm⟩
    rintro _ hmem
    obtain ⟨c, hc, rfl⟩ := List.mem_map.mp hmem
    exact .plain (h c hc).1 (fun heq => hplain.1 (heq ▸ hc)) fun heq => hplain.2 (heq ▸ hc)
  · exact printable_append.mpr ⟨printable_append.mpr ⟨by decide, h⟩, by decide⟩

theorem plain_integer (n : Int) : '"' ∉ Decimal.integer n ∧ '\\' ∉ Decimal.integer n :=
  ⟨Decimal.not_mem_integer rfl (by decide) n, Decimal.not_mem_integer rfl (by decide) n⟩

/-- Every key is printed as a string. -/
theorem key_spec {s : Scalar} (h : isExact s = true) :
    IsString (key spaced s) ∧ Printable (key spaced s) := by
  cases s with
  | null => exact quoted_spec (by decide) (by decide)
  | bool b => cases b <;> exact quoted_spec (by decide) (by decide)
  | integer n => exact quoted_spec (printable_integer n) (plain_integer n)
  | number x => cases h
  | text t => exact string_spec _
  | bytes bs => exact string_spec _
  | date d => exact string_spec _
  | timestamp t => exact string_spec _

/-- Texts in brackets of either kind, with commas and blanks between them. -/
theorem printable_bracketed {xs : List (List Char)} {opening closing : Char}
    (h : ∀ x ∈ xs, Printable x) (hopening : Printable [opening]) (hclosing : Printable [closing]) :
    Printable ([opening] ++ [',', ' '].intercalate xs ++ [closing]) :=
  printable_append.mpr
    ⟨printable_append.mpr ⟨hopening, printable_intercalate (by decide) h⟩, hclosing⟩

theorem array_spec {xs : List (List Char)} (h : ∀ x ∈ xs, IsElement x ∧ Printable x) :
    IsValue (['['] ++ [',', ' '].intercalate xs ++ [']']) ∧
      Printable (['['] ++ [',', ' '].intercalate xs ++ [']']) := by
  refine ⟨?_, printable_bracketed (fun x hx => (h x hx).2) (by decide) (by decide)⟩
  by_cases hne : xs = []
  · rw [hne]
    exact .emptyArray areBlanks_nil
  · exact .array
      (isSeparated_intercalate (p := IsElement) (fun _ => .space) hne fun x hx => (h x hx).1)

theorem object_spec {xs : List (List Char)} (h : ∀ x ∈ xs, IsMember x ∧ Printable x) :
    IsValue (['\x7b'] ++ [',', ' '].intercalate xs ++ ['\x7d']) ∧
      Printable (['\x7b'] ++ [',', ' '].intercalate xs ++ ['\x7d']) := by
  refine ⟨?_, printable_bracketed (fun x hx => (h x hx).2) (by decide) (by decide)⟩
  by_cases hne : xs = []
  · rw [hne]
    exact .emptyObject areBlanks_nil
  · exact .object
      (isSeparated_intercalate (p := IsMember) (fun _ => .space) hne fun x hx => (h x hx).1)

theorem member_spec {k v : List Char} (hk : IsString k ∧ Printable k)
    (hv : IsValue v ∧ Printable v) :
    IsMember (k ++ [':', ' '] ++ v) ∧ Printable (k ++ [':', ' '] ++ v) := by
  constructor
  · rw [List.append_assoc]
    simpa using IsMember.padded areBlanks_nil hk.1 areBlanks_nil hv.1.isElement.space
  · exact printable_append.mpr ⟨printable_append.mpr ⟨hk.2, by decide⟩, hv.2⟩

open Value

mutual

/-- **A value without doubles is printed as JSON**, in printable ASCII characters, whatever texts
are in it. -/
theorem write_spec : ∀ v : Value, v.every noDouble = true →
    IsValue (write spaced v) ∧ Printable (write spaced v)
  | .scalar s, h => scalar_spec h
  | .sequence items, h => by
    rw [every, Bool.and_eq_true] at h
    exact array_spec (writeItems_spec items h.2)
  | .pair first second, h => by
    simp only [every, Bool.and_eq_true] at h
    have hpair : write spaced (.pair first second)
        = ['['] ++ [',', ' '].intercalate [write spaced first, write spaced second] ++ [']'] := by
      simp [write, spaced]
    obtain ⟨hfirst, hsecond⟩ := (⟨write_spec first h.1.2, write_spec second h.2⟩ : _ ∧ _)
    rw [hpair]
    refine array_spec (List.forall_mem_cons.mpr ⟨⟨hfirst.1.isElement, hfirst.2⟩, ?_⟩)
    exact List.forall_mem_singleton.mpr ⟨hsecond.1.isElement, hsecond.2⟩
  | .set members, h => by
    refine array_spec fun x hx => ?_
    obtain ⟨s, hs, rfl⟩ := List.mem_map.mp hx
    have hscalar := scalar_spec (List.all_eq_true.mp h s hs)
    exact ⟨hscalar.1.isElement, hscalar.2⟩
  | .mapping entries, h => by
    rw [every, Bool.and_eq_true] at h
    exact object_spec (writeEntries_spec entries h.1 h.2)
  | .looped _ body, _ => ⟨.string (string_spec _).1, (string_spec _).2⟩

theorem writeItems_spec : ∀ items : List Value, everyItem noDouble items = true →
    ∀ x ∈ writeItems spaced items, IsElement x ∧ Printable x
  | [], _ => nofun
  | v :: rest, h => by
    rw [everyItem, Bool.and_eq_true] at h
    have hv := write_spec v h.1
    exact List.forall_mem_cons.mpr ⟨⟨hv.1.isElement, hv.2⟩, writeItems_spec rest h.2⟩

theorem writeEntries_spec : ∀ entries : List (Scalar × Value),
    (entries.all fun e => isExact e.1) = true → everyEntry noDouble entries = true →
    ∀ x ∈ writeEntries spaced entries, IsMember x ∧ Printable x
  | [], _, _ => nofun
  | (k, v) :: rest, hkeys, h => by
    rw [everyEntry, Bool.and_eq_true] at h
    rw [List.all_cons, Bool.and_eq_true] at hkeys
    exact List.forall_mem_cons.mpr ⟨member_spec (key_spec hkeys.1) (write_spec v h.1),
      writeEntries_spec rest hkeys.2 h.2⟩

end

/-- A mapping without doubles is printed as one JSON object on one line. -/
theorem isObjectText_write {entries : List (Scalar × Value)}
    (h : (Value.mapping entries).every noDouble = true) :
    IsObjectText (write spaced (.mapping entries)) ∧
      Printable (write spaced (.mapping entries)) :=
  ⟨isObjectText_of_isValue (write_spec _ h).1 rfl, (write_spec _ h).2⟩

end SchemaDoc.Json
