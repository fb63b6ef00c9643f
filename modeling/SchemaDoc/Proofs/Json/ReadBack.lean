/-
SchemaDoc.Proofs.Json.ReadBack — compact JSON is read as what it was written for.

The reader takes a text from its start and gives back what it leaves, so a part
of a text is read back if it is read so in front of whatever may follow it. For
a part of a string that is anything (`StandsFor`); for a value it is the end, a
comma or a closing bracket, because digits would go on in digits, a point or an
exponent (`Follows`). A value is read back if its parts are: there is one lemma
for each kind of value (`readsBack_text`, `readsBack_integer`,
`readsBack_sequence`, `readsBack_mapping`), and a value that is read back as a
part is read back as a document (`ReadsBack.read_write`).

Doubles are not dealt with, and neither are values that compact JSON shows as
something else, among them keys that are no texts.

§1 strings, §2 numbers, §3 values that are read back, §4 scalars, §5 arrays,
§6 objects, §7 documents.
-/
import SchemaDoc.Proofs.Json.Extent
import SchemaDoc.Proofs.Number.Digits
import SchemaDoc.Proofs.Text.Spelled
import SchemaDoc.Proofs.Value.Json

namespace SchemaDoc.Json

/-! ## §1 Strings -/

/-- Characters inside a string are read as a text, whatever comes behind them in it. -/
def StandsFor (cs s : List Char) : Prop :=
  ∃ ps, (∀ qs, joinPieces (ps ++ qs) = s ++ joinPieces qs) ∧ ∀ start rest, rest ≠ [] →
    pieces start (cs ++ rest) = (pieces start rest).map fun (qs, left) => (ps ++ qs, left)

theorem standsFor_nil : StandsFor [] [] := by
  refine ⟨[], fun _ => rfl, fun start rest _ => ?_⟩
  rw [List.nil_append]
  cases pieces start rest with
  | error stop => rfl
  | ok r => rfl

theorem StandsFor.append {cs ds s t : List Char} (hc : StandsFor cs s) (hd : StandsFor ds t) :
    StandsFor (cs ++ ds) (s ++ t) := by
  obtain ⟨ps, hps, hcs⟩ := hc
  obtain ⟨qs, hqs, hds⟩ := hd
  refine ⟨ps ++ qs, fun rs => by rw [List.append_assoc, hps, hqs, List.append_assoc],
    fun start rest hrest => ?_⟩
  rw [List.append_assoc, hcs start _ (List.append_ne_nil_of_right_ne_nil ds hrest),
    hds start rest hrest]
  cases pieces start rest with
  | error stop => rfl
  | ok r => simp [Except.map]

theorem standsFor_flatMap {α : Type} {f g : α → List Char} : ∀ {as : List α},
    (∀ a ∈ as, StandsFor (f a) (g a)) → StandsFor (as.flatMap f) (as.flatMap g)
  | [], _ => standsFor_nil
  | a :: as, h => by
    obtain ⟨ha, has⟩ := List.forall_mem_cons.mp h
    exact ha.append (standsFor_flatMap has)

/-- Characters that are read as one character. -/
theorem standsFor_char {cs : List Char} {d : Char} (h : ∀ start rest,
    pieces start (cs ++ rest) = (pieces start rest).map fun (qs, left) => (.char d :: qs, left)) :
    StandsFor cs [d] :=
  ⟨[.char d], fun _ => rfl, fun start rest _ => h start rest⟩

theorem standsFor_plain {c : Char} (hquote : c ≠ '"') (hslash : c ≠ '\\') (hc : 0x20 ≤ c.toNat) :
    StandsFor [c] [c] := by
  refine standsFor_char fun start rest => ?_
  rw [List.singleton_append, pieces]
  · exact if_neg (by omega)
  all_goals simp_all

theorem standsFor_escaped {c d : Char} (h : unescape? c = some d) : StandsFor ['\\', c] [d] := by
  have hunit : c ≠ 'u' := by
    rintro rfl
    cases h
  refine standsFor_char fun start rest => ?_
  rw [List.cons_append, List.singleton_append, pieces]
  · rw [h]
  all_goals simp_all

/-- A unit that is no first half of a pair stands for itself, whatever comes behind it. -/
theorem joinPieces_unit {n : Nat} (h : isHigh n = false) (qs : List Piece) :
    joinPieces (.unit n :: qs) = Text.spell n ++ joinPieces qs := by
  match qs with
  | [] => rfl
  | .char _ :: _ => rfl
  | .unit m :: rest => rw [joinPieces, h, Bool.false_and, if_neg Bool.false_ne_true]

/-- A control character is escaped by its number. -/
theorem standsFor_control {n : Nat} (h : n < 0x20) : StandsFor (escapeUnits n) (Text.spell n) := by
  obtain ⟨a, b, c, d, hhex⟩ : ∃ a b c d, Text.hex 4 n = [a, b, c, d] := ⟨_, _, _, _, rfl⟩
  have hunits : escapeUnits n = ['\\', 'u', a, b, c, d] := by
    rw [escapeUnits, if_pos (by omega), hhex]
    rfl
  have hunit : unit? a b c d = some n := by
    have hall : ∀ m : Fin 0x20, Text.readHex? (Text.hex 4 m) = some m.val := by decide
    rw [unit?, ← hhex]
    exact hall ⟨n, h⟩
  have hhigh : isHigh n = false := by
    simp only [isHigh, Bool.and_eq_false_iff, decide_eq_false_iff_not]
    omega
  refine ⟨[.unit n], joinPieces_unit hhigh, fun start rest hrest => ?_⟩
  -- An escape by number is read only if something follows it.
  obtain ⟨e, rest, rfl⟩ := List.exists_cons_of_ne_nil hrest
  have hstep : pieces start ('\\' :: 'u' :: a :: b :: c :: d :: e :: rest)
      = (pieces start (e :: rest)).map fun (ps, left) => (.unit n :: ps, left) := by
    rw [pieces]
    exact hunit
  rw [hunits]
  exact hstep

theorem standsFor_spell {n : Nat} (hn : Text.IsCode n) (hquote : Char.ofNat n ≠ '"')
    (hslash : Char.ofNat n ≠ '\\') (hc : 0x20 ≤ n) : StandsFor (Text.spell n) (Text.spell n) := by
  by_cases hascii : n < 0x80
  · rw [Text.spell_ascii hascii]
    exact standsFor_plain hquote hslash (by rwa [Text.toNat_ofNat (Or.inl (by omega))])
  · have hplain : ∀ c ∈ Text.spell n, StandsFor [c] [c] := by
      intro c hmem
      have hhigh := Text.not_ascii_of_mem_spell hn (by omega) c hmem
      refine standsFor_plain ?_ ?_ (by omega)
      · rintro rfl
        exact absurd hhigh (by decide)
      · rintro rfl
        exact absurd hhigh (by decide)
    have hflat := standsFor_flatMap hplain
    rwa [List.flatMap_singleton'] at hflat

/-- **A code point is read back from its notation**, be it an escape, a number or the code point
itself. -/
theorem standsFor_escapeCode {n : Nat} (hn : Text.IsCode n) :
    StandsFor (escapeCode false n) (Text.spell n) := by
  have hescaped : ∀ {c d : Char}, Char.ofNat n = d → unescape? c = some d →
      d ≠ Char.ofNat 0xD800 → Text.spell d.toNat = [d] → StandsFor ['\\', c] (Text.spell n) := by
    intro c d hd hc hvalid hspell
    obtain rfl : n = d.toNat := by
      by_contra hne
      exact ofNat_ne hne hvalid hd
    rw [hspell]
    exact standsFor_escaped hc
  unfold escapeCode
  dsimp only
  split; · rename_i h; exact hescaped h (by decide) (by decide) (by decide)
  split; · rename_i h; exact hescaped h (by decide) (by decide) (by decide)
  split; · rename_i h; exact hescaped h (by decide) (by decide) (by decide)
  split; · rename_i h; exact hescaped h (by decide) (by decide) (by decide)
  split; · rename_i h; exact hescaped h (by decide) (by decide) (by decide)
  split; · rename_i h; exact hescaped h (by decide) (by decide) (by decide)
  split; · rename_i h; exact hescaped h (by decide) (by decide) (by decide)
  rename_i hquote hslash _ _ _ _ _
  rw [Bool.false_and, Bool.or_false]
  split
  · rename_i h
    exact standsFor_control (of_decide_eq_true h)
  · rename_i h
    exact standsFor_spell hn hquote hslash (by simpa using h)

/-- **The characters of a string are read back up to its closing quote.** -/
theorem stringBody_codes {s : List Char} (h : Text.Spelled s) (start rest : List Char) :
    stringBody start ((Text.codes s).flatMap (escapeCode false) ++ '"' :: rest)
      = .ok (s, rest) := by
  obtain ⟨ps, hps, hread⟩ := standsFor_flatMap fun n hn => standsFor_escapeCode (h.isCode n hn)
  have hjoin : joinPieces ps = s := by
    have hnone := hps []
    rw [joinPieces, List.append_nil, List.append_nil] at hnone
    exact hnone.trans h.ofCodes_codes
  rw [stringBody, hread start _ (List.cons_ne_nil _ _), pieces]
  simp [Except.map, hjoin]

/-! ## §2 Numbers -/

/-- What may follow a value: nothing, a comma or a closing bracket. -/
def Follows (rest : List Char) : Prop := ∀ c ∈ rest.head?, c = ',' ∨ c = ']' ∨ c = '\x7d'

theorem follows_nil : Follows [] := nofun

theorem follows_comma (rest : List Char) : Follows (',' :: rest) := by simp [Follows]

theorem follows_bracket (rest : List Char) : Follows (']' :: rest) := by simp [Follows]

theorem follows_brace (rest : List Char) : Follows ('\x7d' :: rest) := by simp [Follows]

theorem Follows.cases {rest : List Char} (h : Follows rest) :
    rest = [] ∨ ∃ c left, rest = c :: left ∧ (c = ',' ∨ c = ']' ∨ c = '\x7d') := by
  cases rest with
  | nil => exact Or.inl rfl
  | cons c left => exact Or.inr ⟨c, left, rfl, h c rfl⟩

/-- A character of a class is none that is not of it. -/
theorem ne_of_apart {p : Char → Bool} {c d : Char} (hc : p c = true) (hd : p d = false) :
    c ≠ d := by
  rintro rfl
  rw [hd] at hc
  cases hc

section Numbers

variable {rest : List Char}

theorem isDigit_of_mem_digits {n : Nat} {c : Char} (h : c ∈ Decimal.digits n) : isDigit c = true :=
  Decimal.isDigit_iff.mp (Decimal.isDigit_of_mem_digits h)

/-- The digits of a number start with one. -/
theorem exists_digits (n : Nat) : ∃ c ds, Decimal.digits n = c :: ds ∧ isDigit c = true := by
  obtain ⟨c, ds, hds⟩ := List.exists_cons_of_ne_nil (Decimal.digits_ne_nil n)
  exact ⟨c, ds, hds, isDigit_of_mem_digits (hds ▸ List.mem_cons_self ..)⟩

/-- The digits of a number are the whole digits of a text that starts with them. -/
theorem wholeDigits_digits (n : Nat) (h : Follows rest) :
    wholeDigits (Decimal.digits n ++ rest) = some (Decimal.digits n, rest) := by
  have hrest : rest.takeWhile isDigit = [] ∧ rest.dropWhile isDigit = rest := by
    obtain rfl | ⟨c, left, rfl, rfl | rfl | rfl⟩ := h.cases <;> exact ⟨rfl, rfl⟩
  rcases Nat.eq_zero_or_pos n with rfl | hpos
  · rfl
  · obtain ⟨c, ds, hds, hc⟩ := exists_digits n
    have hzero : c ≠ '0' := fun heq => Decimal.head_digits hpos (by rw [hds, heq]; rfl)
    have hmore : ∀ d ∈ ds, isDigit d = true := fun d hd =>
      isDigit_of_mem_digits (hds ▸ List.mem_cons_of_mem c hd)
    rw [hds, List.cons_append, wholeDigits]
    · rw [if_pos hc, List.takeWhile_append_of_pos hmore, List.dropWhile_append_of_pos hmore,
        hrest.1, hrest.2, List.append_nil]
    · exact fun heq => hzero heq

/-- The digits of an integer are read back, and the sign is put in front of what they write. -/
theorem numberAfterSign_digits {n : Int} (hn : Decimal.isTooLong n = false) (h : Follows rest)
    (start : List Char) (negative : Bool) :
    numberAfterSign start negative (Decimal.digits n.natAbs ++ rest)
      = .ok (.integer (if negative then -(n.natAbs : Int) else n.natAbs), rest) := by
  have hfraction : fractionDigits rest = ([], rest) := by
    obtain rfl | ⟨c, left, rfl, rfl | rfl | rfl⟩ := h.cases <;> rfl
  have hexponent : exponentPart rest = (none, rest) := by
    obtain rfl | ⟨c, left, rfl, rfl | rfl | rfl⟩ := h.cases <;> rfl
  rw [numberAfterSign, wholeDigits_digits _ h]
  simp only [hfraction, hexponent, List.isEmpty_nil, Option.isNone_none, Bool.and_true, if_true]
  rw [if_pos (Decimal.length_digits hn), Decimal.ofDigits_digits]

/-- No name starts with a digit, or with a minus sign and a digit. -/
theorem name?_digits (n : Nat) (rest : List Char) : name? (Decimal.digits n ++ rest) = none ∧
    name? ('-' :: (Decimal.digits n ++ rest)) = none := by
  obtain ⟨c, ds, hds, hc⟩ := exists_digits n
  have hne : ∀ {w : Char}, isDigit w = false → w ≠ c := fun hw => (ne_of_apart hc hw).symm
  have hnames : 'n' ≠ c ∧ 't' ≠ c ∧ 'f' ≠ c ∧ 'N' ≠ c ∧ 'I' ≠ c ∧ '-' ≠ c :=
    ⟨hne rfl, hne rfl, hne rfl, hne rfl, hne rfl, hne rfl⟩
  rw [hds]
  constructor <;> simp [name?, names, afterWord?, hnames]

/-- A minus sign that starts no name is the sign of a number. -/
theorem value_minus {s : List Char} (h : name? ('-' :: s) = none) (fuel : Nat) :
    value (fuel + 1) ('-' :: s) = numberAfterSign ('-' :: s) true s := by
  rw [value, h]
  · simp only [if_true]
  all_goals simp

theorem value_digit {c : Char} {s : List Char} (hc : isDigit c = true)
    (h : name? (c :: s) = none) (fuel : Nat) :
    value (fuel + 1) (c :: s) = numberAfterSign (c :: s) false (c :: s) := by
  rw [value, h]
  · exact if_neg (ne_of_apart hc rfl)
  · exact ne_of_apart hc rfl
  · exact ne_of_apart hc rfl
  · exact ne_of_apart hc rfl

theorem value_integer {n : Int} (hn : Decimal.isTooLong n = false) (h : Follows rest)
    (fuel : Nat) : value (fuel + 1) (Decimal.integer n ++ rest) = .ok (.integer n, rest) := by
  obtain ⟨hname, hminus⟩ := name?_digits n.natAbs rest
  unfold Decimal.integer
  split
  · have habs : -(n.natAbs : Int) = n := by clear hn; omega
    rw [List.cons_append, value_minus hminus, numberAfterSign_digits hn h, if_pos rfl, habs]
  · obtain ⟨c, ds, hds, hc⟩ := exists_digits n.natAbs
    have habs : (n.natAbs : Int) = n := by clear hn; omega
    have hread := numberAfterSign_digits hn h (Decimal.digits n.natAbs ++ rest) false
    rw [if_neg Bool.false_ne_true, habs] at hread
    rw [hds, List.cons_append] at hname hread ⊢
    rw [value_digit hc hname, hread]

end Numbers

/-! ## §3 Values that are read back -/

/-- A character that the compact JSON of a value may start with. -/
def opens (c : Char) : Bool := isDigit c || ['"', '[', '\x7b', '-', 'n', 't', 'f'].contains c

theorem skipSpace_opens {c : Char} (h : opens c = true) (s : List Char) :
    skipSpace (c :: s) = c :: s := by
  have hspace : isSpace c = false := by
    have hne : c ≠ ' ' ∧ c ≠ '\t' ∧ c ≠ '\n' ∧ c ≠ '\r' :=
      ⟨ne_of_apart h rfl, ne_of_apart h rfl, ne_of_apart h rfl, ne_of_apart h rfl⟩
    simp [isSpace, hne]
  rw [skipSpace, List.dropWhile_cons_of_neg (by rw [hspace]; exact Bool.false_ne_true)]

/-- A value has compact JSON, and is read from it in front of whatever may follow a value. There is
fuel enough if there is as much as the text is long. -/
structure ReadsBack (w : Value) : Prop where
  fault : fault? w = none
  head : ∃ c cs, write compact w = c :: cs ∧ opens c = true
  read : ∀ (fuel : Nat) {rest : List Char}, (write compact w).length ≤ fuel → Follows rest →
    value fuel (write compact w ++ rest) = .ok (w, rest)

theorem ReadsBack.skipSpace {w : Value} (h : ReadsBack w) (rest : List Char) :
    skipSpace (write compact w ++ rest) = write compact w ++ rest := by
  obtain ⟨c, cs, hwrite, hc⟩ := h.head
  rw [hwrite]
  exact skipSpace_opens hc _

/-- The first character leaves fuel for one step more than the rest of the text needs. -/
theorem ReadsBack.of_head {w : Value} {c : Char} {cs : List Char} (hfault : fault? w = none)
    (hwrite : write compact w = c :: cs) (hc : opens c = true)
    (hread : ∀ (fuel : Nat) {rest : List Char}, cs.length ≤ fuel → Follows rest →
      value (fuel + 1) (write compact w ++ rest) = .ok (w, rest)) : ReadsBack w where
  fault := hfault
  head := ⟨c, cs, hwrite, hc⟩
  read := by
    intro fuel rest hfuel hrest
    rw [hwrite, List.length_cons] at hfuel
    cases fuel with
    | zero => exact absurd hfuel (Nat.not_succ_le_zero _)
    | succ fuel => exact hread fuel (Nat.le_of_succ_le_succ hfuel) hrest

/-! ## §4 Scalars -/

theorem readsBack_null : ReadsBack .null := .of_head rfl rfl rfl fun _ _ _ _ => rfl

theorem readsBack_bool (b : Bool) : ReadsBack (.bool b) := by
  cases b with
  | false => exact .of_head rfl rfl rfl fun _ _ _ _ => rfl
  | true => exact .of_head rfl rfl rfl fun _ _ _ _ => rfl

theorem readsBack_integer {n : Int} (h : Decimal.isTooLong n = false) :
    ReadsBack (.integer n) := by
  have hfault : fault? (.integer n) = none := by
    rw [fault?, scalarFault?, if_neg (by rw [h]; exact Bool.false_ne_true)]
  obtain ⟨c, cs, hwrite, hc⟩ : ∃ c cs, Decimal.integer n = c :: cs ∧ opens c = true := by
    unfold Decimal.integer
    split
    · exact ⟨_, _, rfl, rfl⟩
    · obtain ⟨c, ds, hds, hc⟩ := exists_digits n.natAbs
      exact ⟨c, ds, hds, by rw [opens, hc, Bool.true_or]⟩
  exact .of_head hfault hwrite hc fun fuel _ _ hrest => value_integer h hrest fuel

theorem readsBack_text {t : String} (h : Text.Spelled t.toList) : ReadsBack (.text t) := by
  refine .of_head rfl rfl rfl fun fuel rest _ _ => ?_
  have hstring : write compact (.text t) ++ rest
      = '"' :: ((Text.codes t.toList).flatMap (escapeCode false) ++ '"' :: rest) := by
    simp [write, scalar, string, compact]
  rw [hstring, value, stringBody_codes h]
  exact congrArg (fun s => Except.ok (Value.text s, rest)) String.ofList_toList

/-! ## §5 Arrays -/

/-- Texts that are put together start as the first of them does. -/
theorem intercalate_head (sep : List Char) (c : Char) (cs : List Char) (xs : List (List Char)) :
    ∃ ds, sep.intercalate ((c :: cs) :: xs) = c :: ds := by
  cases xs with
  | nil => exact ⟨cs, by simp⟩
  | cons y ys => exact ⟨_, by rw [List.intercalate_cons_cons]; rfl⟩

theorem ReadsBack.items_head {w : Value} (h : ReadsBack w) (ws : List Value) :
    ∃ c ds, [','].intercalate (writeItems compact (w :: ws)) = c :: ds ∧ opens c = true := by
  obtain ⟨c, cs, hwrite, hc⟩ := h.head
  obtain ⟨ds, hds⟩ := intercalate_head [','] c cs (writeItems compact ws)
  exact ⟨c, ds, by rw [writeItems, hwrite, hds], hc⟩

theorem value_array {c : Char} (hc : opens c = true) (fuel : Nat) (s : List Char) :
    value (fuel + 1) ('[' :: c :: s)
      = (items fuel (c :: s)).map fun (vs, left) => (.sequence vs, left) := by
  rw [value, skipSpace_opens hc]
  split
  · rename_i heq
    exact absurd (List.cons.inj heq).1 (ne_of_apart hc rfl)
  · rfl

section Items

variable {fuel : Nat} {s left rest : List Char} {v : Value} {vs : List Value}

theorem items_last (h : value fuel s = .ok (v, ']' :: rest)) :
    items (fuel + 1) s = .ok ([v], rest) := by
  rw [items, h]
  rfl

theorem items_more (h : value fuel s = .ok (v, ',' :: left)) (hspace : skipSpace left = left)
    (hmore : items fuel left = .ok (vs, rest)) : items (fuel + 1) s = .ok (v :: vs, rest) := by
  have hcomma : skipSpace (',' :: left) = ',' :: left := rfl
  rw [items, h, ok_bind]
  simp only [hcomma, hspace, hmore]
  rfl

end Items

/-- Items that are read back one by one are read back with commas between them. -/
theorem items_write : ∀ {ws : List Value}, ws ≠ [] → (∀ w ∈ ws, ReadsBack w) →
    ∀ (fuel : Nat) (rest : List Char),
      ([','].intercalate (writeItems compact ws)).length < fuel →
      items fuel ([','].intercalate (writeItems compact ws) ++ ']' :: rest) = .ok (ws, rest)
  | [], hne, _, _, _, _ => absurd rfl hne
  | _, _, _, 0, _, hfuel => absurd hfuel (Nat.not_lt_zero _)
  | [w], _, h, fuel + 1, rest, hfuel => by
    obtain ⟨hw, -⟩ := List.forall_mem_cons.mp h
    have hone : [','].intercalate (writeItems compact [w]) = write compact w := by
      simp [writeItems]
    rw [hone] at hfuel ⊢
    exact items_last (hw.read fuel (Nat.le_of_lt_succ hfuel) (follows_bracket rest))
  | w :: w' :: ws, _, h, fuel + 1, rest, hfuel => by
    obtain ⟨hw, hmore⟩ := List.forall_mem_cons.mp h
    obtain ⟨c, ds, hhead, hc⟩ := (hmore w' (List.mem_cons_self ..)).items_head ws
    have htwo : [','].intercalate (writeItems compact (w :: w' :: ws))
        = write compact w ++ ',' :: [','].intercalate (writeItems compact (w' :: ws)) := by
      simp [writeItems]
    rw [htwo, List.length_append, List.length_cons] at hfuel
    rw [htwo, List.append_assoc, List.cons_append]
    refine items_more (hw.read fuel (by omega) (follows_comma _)) ?_
      (items_write (List.cons_ne_nil _ _) hmore fuel rest (by omega))
    rw [hhead]
    exact skipSpace_opens hc _

/-- **A sequence is read back if its items are.** -/
theorem readsBack_sequence {ws : List Value} (h : ∀ w ∈ ws, ReadsBack w) :
    ReadsBack (.sequence ws) := by
  have hfault : itemsFault? ws = none := by
    induction ws with
    | nil => rfl
    | cons w rest ih =>
      obtain ⟨hw, hrest⟩ := List.forall_mem_cons.mp h
      rw [itemsFault?, hw.fault, ih hrest]
      rfl
  have hwrite : write compact (.sequence ws)
      = '[' :: ([','].intercalate (writeItems compact ws) ++ [']']) := rfl
  refine .of_head hfault hwrite rfl fun fuel rest hfuel _ => ?_
  rw [List.length_append, List.length_singleton] at hfuel
  rw [hwrite, List.cons_append, List.append_assoc, List.singleton_append]
  cases ws with
  | nil => rfl
  | cons w ws =>
    have hitems := items_write (List.cons_ne_nil w ws) h fuel rest hfuel
    obtain ⟨c, ds, hhead, hc⟩ := (h w (List.mem_cons_self ..)).items_head ws
    rw [hhead, List.cons_append] at hitems ⊢
    rw [value_array hc, hitems]
    rfl

/-! ## §6 Objects -/

/-- A member of an object whose name is a text, and whose value is read back. -/
structure MemberReadsBack (e : Scalar × Value) : Prop where
  name : ∃ t : String, e.1 = .text t ∧ Text.Spelled t.toList
  value : ReadsBack e.2

theorem MemberReadsBack.members_head {e : Scalar × Value} (h : MemberReadsBack e)
    (es : List (Scalar × Value)) :
    ∃ ds, [','].intercalate (writeEntries compact (e :: es)) = '"' :: ds := by
  obtain ⟨k, w⟩ := e
  obtain ⟨t, ht, -⟩ := h.name
  obtain rfl : k = .text t := ht
  exact intercalate_head _ _ _ _

theorem value_object (fuel : Nat) (s : List Char) : value (fuel + 1) ('\x7b' :: '"' :: s)
    = (members fuel ('"' :: s)).map fun (es, left) => (.mapping (Entries.ofList es), left) := rfl

section Members

variable {fuel : Nat} {s left more rest k : List Char} {v : Value} {es : List (Scalar × Value)}

theorem members_last (hk : stringBody ('"' :: s) s = .ok (k, ':' :: left))
    (hspace : skipSpace left = left) (h : value fuel left = .ok (v, '\x7d' :: rest)) :
    members (fuel + 1) ('"' :: s) = .ok ([(.text (String.ofList k), v)], rest) := by
  have hcolon : skipSpace (':' :: left) = ':' :: left := rfl
  rw [members, hk, ok_bind]
  simp only [hcolon, hspace, h]
  rfl

theorem members_more (hk : stringBody ('"' :: s) s = .ok (k, ':' :: left))
    (hspace : skipSpace left = left) (h : value fuel left = .ok (v, ',' :: more))
    (hspace' : skipSpace more = more) (hmore : members fuel more = .ok (es, rest)) :
    members (fuel + 1) ('"' :: s) = .ok ((.text (String.ofList k), v) :: es, rest) := by
  have hcolon : skipSpace (':' :: left) = ':' :: left := rfl
  have hcomma : skipSpace (',' :: more) = ',' :: more := rfl
  rw [members, hk, ok_bind]
  simp only [hcolon, hspace, h, ok_bind, hcomma, hspace', hmore]
  rfl

end Members

/-- Members that are read back one by one are read back with commas between them. -/
theorem members_write : ∀ {es : List (Scalar × Value)}, es ≠ [] →
    (∀ e ∈ es, MemberReadsBack e) → ∀ (fuel : Nat) (rest : List Char),
      ([','].intercalate (writeEntries compact es)).length < fuel →
      members fuel ([','].intercalate (writeEntries compact es) ++ '\x7d' :: rest)
        = .ok (es, rest)
  | [], hne, _, _, _, _ => absurd rfl hne
  | _, _, _, 0, _, hfuel => absurd hfuel (Nat.not_lt_zero _)
  | (k, w) :: es, _, h, fuel + 1, rest, hfuel => by
    obtain ⟨⟨⟨t, ht, hspelled⟩, (hw : ReadsBack w)⟩, hmore⟩ := List.forall_mem_cons.mp h
    obtain rfl : k = .text t := ht
    have hname : ∀ tail, key compact (.text t) ++ [':'] ++ write compact w ++ tail = '"' ::
        ((Text.codes t.toList).flatMap (escapeCode false) ++ '"' :: ':' ::
          (write compact w ++ tail)) := by
      intro tail
      simp [key, scalar, string, compact]
    cases es with
    | nil =>
      have hone : [','].intercalate (writeEntries compact [(.text t, w)])
          = key compact (.text t) ++ [':'] ++ write compact w := by
        simp [writeEntries, compact]
      rw [hone, List.length_append] at hfuel
      have hread := members_last (stringBody_codes hspelled _ _) (hw.skipSpace _)
        (hw.read fuel (by omega) (follows_brace rest))
      rw [hone, hname, hread, String.ofList_toList]
    | cons e es =>
      obtain ⟨ds, hhead⟩ := (hmore e (List.mem_cons_self ..)).members_head es
      have htwo : [','].intercalate (writeEntries compact ((.text t, w) :: e :: es))
          = key compact (.text t) ++ [':'] ++ write compact w
            ++ ',' :: [','].intercalate (writeEntries compact (e :: es)) := by
        simp [writeEntries, compact]
      rw [htwo, List.length_append, List.length_append, List.length_cons] at hfuel
      have hrest := members_write (List.cons_ne_nil e es) hmore fuel rest (by omega)
      have hread := members_more (stringBody_codes hspelled _ _) (hw.skipSpace _)
        (hw.read fuel (by omega) (follows_comma _)) (by rw [hhead]; rfl) hrest
      rw [htwo, List.append_assoc, hname, List.cons_append, hread, String.ofList_toList]

/-- **A mapping from different texts is read back if its values are**, its keys in their order. -/
theorem readsBack_mapping {es : List (Scalar × Value)} (h : ∀ e ∈ es, MemberReadsBack e)
    (hnodup : (es.map (·.1)).Nodup) : ReadsBack (.mapping es) := by
  have hfault : entriesFault? es = none := by
    clear hnodup
    induction es with
    | nil => rfl
    | cons e rest ih =>
      obtain ⟨⟨⟨t, ht, -⟩, hw⟩, hrest⟩ := List.forall_mem_cons.mp h
      rw [entriesFault?, ht, hw.fault, ih hrest]
      rfl
  have hofList : Entries.ofList es = es :=
    Entries.ofList_of_nodup (fun e he => (h e he).name.imp fun _ ht => ht.1) hnodup
  have hwrite : write compact (.mapping es)
      = '\x7b' :: ([','].intercalate (writeEntries compact es) ++ ['\x7d']) := rfl
  refine .of_head hfault hwrite rfl fun fuel rest hfuel _ => ?_
  rw [List.length_append, List.length_singleton] at hfuel
  rw [hwrite, List.cons_append, List.append_assoc, List.singleton_append]
  cases es with
  | nil => rfl
  | cons e es =>
    have hmembers := members_write (List.cons_ne_nil e es) h fuel rest hfuel
    obtain ⟨ds, hhead⟩ := (h e (List.mem_cons_self ..)).members_head es
    rw [hhead, List.cons_append] at hmembers ⊢
    rw [value_object, hmembers]
    exact congrArg (fun es => Except.ok (Value.mapping es, rest)) hofList

/-! ## §7 Documents -/

/-- **A value that is read back as a part is read back as a document.** -/
theorem ReadsBack.read_write {w : Value} (h : ReadsBack w) :
    Json.read (write compact w) = .ok w := by
  obtain ⟨c, cs, hwrite, hc⟩ := h.head
  have hmark : ¬(write compact w).head? = some '\uFEFF' := by
    rw [hwrite]
    exact fun heq => ne_of_apart hc rfl (Option.some.inj heq)
  have hstart := h.skipSpace []
  have hvalue := h.read (fuelFor (write compact w)) (by rw [fuelFor]; omega) follows_nil
  rw [List.append_nil] at hstart hvalue
  rw [Json.read, if_neg hmark]
  simp only [hstart, hvalue]
  rfl

end SchemaDoc.Json
