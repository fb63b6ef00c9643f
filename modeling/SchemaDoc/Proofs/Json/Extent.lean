/-
SchemaDoc.Proofs.Json.Extent — where compact JSON ends.

Compact JSON has no blanks but inside strings, and closes every bracket that it
opens. So a scan that counts the open brackets, and knows whether it is inside a
string, passes over a whole value and comes out as it went in (`passes_write`),
while a blank or a closing bracket behind the value stops it. Of two values in
front of such characters neither ends inside the other
(`Passes.eq_of_append_eq`). Nothing is asked of the values; strings may hold
brackets, blanks and quotes.

§1 the scan, §2 strings, §3 numbers, §4 values.
-/
import SchemaDoc.Proofs.Json.Grammar

namespace SchemaDoc.Json

/-! ## §1 The scan -/

/-- What a scan is inside of: a value, a string in it, or a pair of a backslash and a character in
that. -/
inductive Inside where
  | value
  | string
  | escape

/-- Where a scan stands: the count of open brackets and what it is inside of. -/
structure Scan where
  opened : Nat
  inside : Inside

namespace Scan

/-- The scan behind one more character, unless this ends what is scanned. -/
def step : Scan → Char → Option Scan
  | ⟨n, .escape⟩, _ => some ⟨n, .string⟩
  | ⟨n, .string⟩, c =>
    some ⟨n, if c = '"' then .value else if c = '\\' then .escape else .string⟩
  | ⟨n, .value⟩, c =>
    if c = '"' then some ⟨n, .string⟩
    else if c = '[' ∨ c = '\x7b' then some ⟨n + 1, .value⟩
    else if c = ']' ∨ c = '\x7d' then if n = 0 then none else some ⟨n - 1, .value⟩
    else if c = ' ' then none
    else some ⟨n, .value⟩

/-- The scan behind a text. -/
def along (s : Scan) (t : List Char) : Option Scan := t.foldlM step s

theorem along_append (s : Scan) (t u : List Char) :
    s.along (t ++ u) = (s.along t).bind fun s => s.along u := List.foldlM_append

theorem along_cons (s : Scan) (c : Char) (t : List Char) :
    s.along (c :: t) = (s.step c).bind fun s => s.along t := List.foldlM_cons

end Scan

/-- A scan passes over a text and comes out as it went in. -/
def PassesIn (inside : Inside) (t : List Char) : Prop :=
  ∀ n, Scan.along ⟨n, inside⟩ t = some ⟨n, inside⟩

/-- A scan of a value passes over a text. -/
abbrev Passes (t : List Char) : Prop := PassesIn .value t

theorem passesIn_nil (inside : Inside) : PassesIn inside [] := fun _ => rfl

theorem PassesIn.append {inside : Inside} {t u : List Char} (ht : PassesIn inside t)
    (hu : PassesIn inside u) : PassesIn inside (t ++ u) := by
  intro n
  rw [Scan.along_append, ht n]
  exact hu n

theorem passesIn_of_forall {inside : Inside} {t : List Char} (h : ∀ c ∈ t, PassesIn inside [c]) :
    PassesIn inside t := by
  induction t with
  | nil => exact passesIn_nil inside
  | cons c t ih =>
    obtain ⟨hc, ht⟩ := List.forall_mem_cons.mp h
    exact PassesIn.append (t := [c]) hc (ih ht)

theorem passesIn_flatMap {α : Type} {inside : Inside} {f : α → List Char}
    (h : ∀ a, PassesIn inside (f a)) : ∀ as : List α, PassesIn inside (as.flatMap f)
  | [] => passesIn_nil inside
  | a :: as => (h a).append (passesIn_flatMap h as)

/-- The characters that a scan of a value does not pass over one by one. -/
def structural : List Char := ['"', '[', ']', '\x7b', '\x7d', ' ']

theorem passes_char {c : Char} (h : c ∉ structural) : Passes [c] := by
  intro n
  simp only [structural, List.mem_cons, List.not_mem_nil, or_false, not_or] at h
  simp [Scan.along, Scan.step, h]

theorem passes_bracketed {opening closing : Char} {t : List Char} (ht : Passes t)
    (h : opening = '[' ∧ closing = ']' ∨ opening = '\x7b' ∧ closing = '\x7d') :
    Passes ([opening] ++ t ++ [closing]) := by
  intro n
  rw [List.append_assoc, List.singleton_append, Scan.along_cons]
  have hopen : Scan.step ⟨n, .value⟩ opening = some ⟨n + 1, .value⟩ := by
    rcases h with ⟨rfl, -⟩ | ⟨rfl, -⟩ <;> rfl
  have hclose : Scan.step ⟨n + 1, .value⟩ closing = some ⟨n, .value⟩ := by
    rcases h with ⟨-, rfl⟩ | ⟨-, rfl⟩ <;> rfl
  rw [hopen, Option.bind_some, Scan.along_append, ht (n + 1), Option.bind_some, Scan.along_cons, hclose]
  rfl

theorem passes_intercalate {sep : List Char} (hsep : Passes sep) : ∀ {xs : List (List Char)},
    (∀ x ∈ xs, Passes x) → Passes (sep.intercalate xs)
  | [], _ => by simpa using passesIn_nil .value
  | [x], h => by simpa using h x (List.mem_singleton_self x)
  | x :: y :: rest, h => by
    obtain ⟨hx, h⟩ := List.forall_mem_cons.mp h
    rw [List.intercalate_cons_cons]
    exact (hx.append hsep).append (passes_intercalate hsep h)

/-- **What a scan passes over ends where it stops.** Of two texts that are passed over, in front of a
blank or a bracket that closes nothing, neither goes on where the other one ends. -/
theorem Passes.eq_of_append_eq {s t a b : List Char} {c d : Char} (hs : Passes s) (ht : Passes t)
    (hc : c = ' ' ∨ c = ']') (hd : d = ' ' ∨ d = ']') (h : s ++ c :: a = t ++ d :: b) :
    s = t ∧ c :: a = d :: b := by
  have hstop : ∀ {c : Char} (u : List Char), c = ' ' ∨ c = ']' →
      Scan.along ⟨0, .value⟩ (c :: u) = none := by
    rintro c u (rfl | rfl) <;> rfl
  -- The longer one would be passed over, with a character in it that stops the scan.
  have hlonger : ∀ {s u : List Char} {c : Char}, Passes s → Passes (s ++ c :: u) →
      ¬(c = ' ' ∨ c = ']') := by
    intro s u c hs hboth hc
    have := hboth 0
    rw [Scan.along_append, hs 0, Option.bind_some, hstop u hc] at this
    cases this
  rcases List.append_eq_append_iff.mp h with ⟨u, rfl, hu⟩ | ⟨u, rfl, hu⟩
  · cases u with
    | nil => exact ⟨(List.append_nil s).symm, hu⟩
    | cons e u =>
      obtain ⟨rfl, -⟩ := List.cons.inj hu
      exact absurd hc (hlonger hs ht)
  · cases u with
    | nil => exact ⟨List.append_nil t, hu.symm⟩
    | cons e u =>
      obtain ⟨rfl, -⟩ := List.cons.inj hu
      exact absurd hd (hlonger ht hs)

/-! ## §2 Strings -/

theorem passes_inString {c : Char} (h : c ≠ '"' ∧ c ≠ '\\') : PassesIn .string [c] := by
  intro n
  simp [Scan.along, Scan.step, h]

/-- A backslash and the character behind it stay inside the string. -/
theorem passes_escaped (c : Char) : PassesIn .string ['\\', c] := fun _ => rfl

theorem passes_unit (n : Nat) : PassesIn .string (['\\', 'u'] ++ Text.hex 4 n) := by
  refine (passes_escaped 'u').append (passesIn_of_forall fun c hc => passes_inString ?_)
  obtain ⟨d, hd, rfl⟩ := mem_hex hc
  have hall : ∀ d : Fin 16, Text.hexDigit d ≠ '"' ∧ Text.hexDigit d ≠ '\\' := by decide
  exact hall ⟨d, hd⟩

theorem passes_escapeUnits (n : Nat) : PassesIn .string (escapeUnits n) := by
  unfold escapeUnits
  split
  · exact passes_unit n
  · rw [List.append_assoc]
    exact (passes_unit _).append (passes_unit _)

/-- A code stands for a character only if it is its code. -/
theorem ofNat_ne {n : Nat} {c : Char} (hn : n ≠ c.toNat) (hc : c ≠ Char.ofNat 0xD800) :
    Char.ofNat n ≠ c := by
  intro h
  by_cases hv : n.isValidChar
  · exact hn (by rw [← h, Text.toNat_ofNat hv])
  · refine hc ?_
    rw [← h, Char.ofNat, dif_neg hv]
    rfl

/-- The spelling of a code point has no quote and no backslash, unless it is one. -/
theorem passes_spell {n : Nat} (hquote : Char.ofNat n ≠ '"') (hslash : Char.ofNat n ≠ '\\') :
    PassesIn .string (Text.spell n) := by
  have hfar : ∀ {m : Nat}, 0x80 ≤ m → PassesIn .string [Char.ofNat m] := by
    intro m hm
    refine passes_inString ⟨ofNat_ne ?_ (by decide), ofNat_ne ?_ (by decide)⟩
    · have : '"'.toNat < 0x80 := by decide
      omega
    · have : '\\'.toNat < 0x80 := by decide
      omega
  unfold Text.spell
  split
  · exact hfar (by unfold Text.halfShift; omega)
  · split
    · rename_i hmark
      simp only [Text.needsMark, Bool.and_eq_true, decide_eq_true_eq] at hmark
      refine PassesIn.append (t := [Text.mark]) (hfar (by decide)) (hfar ?_)
      unfold Text.markShift
      omega
    · exact passes_inString ⟨hquote, hslash⟩

theorem passes_escapeCode (ascii : Bool) (n : Nat) : PassesIn .string (escapeCode ascii n) := by
  unfold escapeCode
  dsimp only
  split; · exact passes_escaped _
  split; · exact passes_escaped _
  split; · exact passes_escaped _
  split; · exact passes_escaped _
  split; · exact passes_escaped _
  split; · exact passes_escaped _
  split; · exact passes_escaped _
  split
  · exact passes_escapeUnits n
  · rename_i hquote hslash _ _ _ _ _ _
    exact passes_spell hquote hslash

theorem passes_quoted {t : List Char} (ht : PassesIn .string t) : Passes (['"'] ++ t ++ ['"']) := by
  intro n
  have hopen : Scan.step ⟨n, .value⟩ '"' = some ⟨n, .string⟩ := rfl
  have hclose : Scan.along ⟨n, .string⟩ ['"'] = some ⟨n, .value⟩ := rfl
  rw [List.append_assoc, List.singleton_append, Scan.along_cons, hopen, Option.bind_some,
    Scan.along_append, ht n, Option.bind_some, hclose]

theorem passes_string (ascii : Bool) (s : List Char) : Passes (string ascii s) :=
  passes_quoted (passesIn_flatMap (passes_escapeCode ascii) _)

/-- A character that a scan passes over in a value as well as in a string. -/
def isInert (c : Char) : Bool := !('\\' :: structural).contains c

theorem passes_of_all {inside : Inside} (hin : inside ≠ .escape) {t : List Char}
    (h : t.all isInert = true) : PassesIn inside t := by
  refine passesIn_of_forall fun c hc => ?_
  have hno : c ≠ '\\' ∧ c ∉ structural := by
    simpa [isInert, not_or] using List.all_eq_true.mp h c hc
  cases inside with
  | value => exact passes_char hno.2
  | string => exact passes_inString ⟨fun e => hno.2 (e ▸ List.mem_cons_self ..), hno.1⟩
  | escape => exact absurd rfl hin

/-! ## §3 Numbers -/

/-- The characters of a number, digits apart. -/
def numeralMarks : List Char := ['.', 'e', '+', '-']

/-- A character of a number. -/
def IsNumeral (c : Char) : Prop := c.isDigit = true ∨ c ∈ numeralMarks

theorem IsNumeral.passes {c : Char} (h : IsNumeral c) {inside : Inside} (hin : inside ≠ .escape) :
    PassesIn inside [c] := by
  refine passes_of_all hin ?_
  rw [List.all_cons, List.all_nil, Bool.and_true]
  rcases h with h | h
  · have hall : ('\\' :: structural).all (fun d => !d.isDigit) = true := by decide
    have hc : c ∉ '\\' :: structural := fun hm => by simpa [h] using List.all_eq_true.mp hall c hm
    simpa [isInert] using hc
  · have hall : numeralMarks.all isInert = true := by decide
    exact List.all_eq_true.mp hall c h

theorem isNumeral_of_mem_digits {c : Char} {n : Nat} (h : c ∈ Decimal.digits n) : IsNumeral c :=
  Or.inl (Decimal.isDigit_of_mem_digits h)

theorem isNumeral_of_mem_integer {c : Char} {n : Int} (h : c ∈ Decimal.integer n) :
    IsNumeral c := by
  unfold Decimal.integer at h
  split at h
  · rcases List.mem_cons.mp h with rfl | h
    · exact Or.inr (by decide)
    · exact isNumeral_of_mem_digits h
  · exact isNumeral_of_mem_digits h

theorem isNumeral_of_mem_replicate {c : Char} {n : Nat} (h : c ∈ List.replicate n '0') :
    IsNumeral c := (List.eq_of_mem_replicate h) ▸ Or.inl rfl

theorem isNumeral_of_mem_padded {c : Char} {width n : Nat} (h : c ∈ Decimal.padded width n) :
    IsNumeral c := by
  rcases List.mem_append.mp h with h | h
  · exact isNumeral_of_mem_replicate h
  · exact isNumeral_of_mem_digits h

theorem isNumeral_of_mem_layout {c : Char} {ds : List Char} {point : Int}
    (hds : ∀ d ∈ ds, IsNumeral d) (h : c ∈ Decimal.layout ds point) : IsNumeral c := by
  have hzero : IsNumeral '0' := Or.inl rfl
  have hmark : ∀ d ∈ numeralMarks, IsNumeral d := fun d hd => Or.inr hd
  unfold Decimal.layout at h
  split at h
  · split at h
    · simp only [List.mem_append, List.mem_cons, List.not_mem_nil, or_false] at h
      rcases h with ((rfl | rfl) | h) | h
      · exact hzero
      · exact hmark _ (by decide)
      · exact isNumeral_of_mem_replicate h
      · exact hds c h
    · simp only [List.mem_append, List.mem_singleton] at h
      rcases h with ((h | h) | rfl) | h
      · exact hds c (List.mem_of_mem_take h)
      · exact isNumeral_of_mem_replicate h
      · exact hmark _ (by decide)
      · split at h
        · exact List.mem_singleton.mp h ▸ hzero
        · exact hds c (List.mem_of_mem_drop h)
  · simp only [List.mem_append, List.mem_cons, List.not_mem_nil, or_false] at h
    rcases h with (h | rfl | rfl) | h
    · split at h
      · exact List.mem_singleton.mp h ▸ hzero
      · exact hds c h
      · simp only [List.mem_cons] at h
        rcases h with rfl | rfl | h
        · exact hds _ (List.mem_cons_self ..)
        · exact hmark _ (by decide)
        · exact hds c (List.mem_cons_of_mem _ h)
    · exact hmark _ (by decide)
    · split
      · exact hmark _ (by decide)
      · exact hmark _ (by decide)
    · exact isNumeral_of_mem_padded h

theorem isNumeral_of_mem_shortest {c : Char} {mantissa : Nat} {exponent : Int}
    (h : c ∈ (Decimal.shortest mantissa exponent).1) : IsNumeral c := by
  have hmem := (List.dropWhile_suffix _).subset (List.mem_reverse.mp h)
  exact isNumeral_of_mem_digits (List.mem_reverse.mp hmem)

/-- What a double is written as, in a string or not: digits and marks, or one of the names. -/
theorem passes_number {inside : Inside} (hin : inside ≠ .escape) (x : Binary64) :
    PassesIn inside (number x) := by
  unfold number
  split
  · exact passes_of_all hin (by decide)
  · split
    · exact passes_of_all hin (by decide)
    · exact passes_of_all hin (by decide)
  · rename_i x hnan hinfinite
    refine passesIn_of_forall fun c hc => IsNumeral.passes ?_ hin
    unfold Decimal.ofBinary64 at hc
    split at hc
    · exact absurd rfl (hnan _)
    · exact absurd rfl (hinfinite _)
    · rcases List.mem_append.mp hc with hc | hc
      · split at hc
        · exact List.mem_singleton.mp hc ▸ Or.inr (by decide)
        · cases hc
      · split at hc
        · simp only [List.mem_cons, List.not_mem_nil, or_false] at hc
          rcases hc with rfl | rfl | rfl
          · exact Or.inl rfl
          · exact Or.inr (by decide)
          · exact Or.inl rfl
        · exact isNumeral_of_mem_layout (fun d hd => isNumeral_of_mem_shortest hd) hc

/-! ## §4 Values -/

theorem passes_integer {inside : Inside} (hin : inside ≠ .escape) (n : Int) :
    PassesIn inside (Decimal.integer n) :=
  passesIn_of_forall fun _ hc => (isNumeral_of_mem_integer hc).passes hin

theorem passes_scalar (layout : Layout) (s : Scalar) : Passes (scalar layout s) := by
  cases s with
  | null => exact passes_of_all (t := "null".toList) (by nofun) (by decide)
  | bool b => cases b with
    | false => exact passes_of_all (t := "false".toList) (by nofun) (by decide)
    | true => exact passes_of_all (t := "true".toList) (by nofun) (by decide)
  | integer n => exact passes_integer (by nofun) n
  | number x => exact passes_number (by nofun) x
  | text t => exact passes_string _ _
  | bytes bs => exact passes_string _ _
  | date d => exact passes_string _ _
  | timestamp t => exact passes_string _ _

theorem passes_key (layout : Layout) (s : Scalar) : Passes (key layout s) := by
  cases s with
  | null => exact passes_quoted (passes_of_all (t := "null".toList) (by nofun) (by decide))
  | bool b => cases b with
    | false => exact passes_quoted (passes_of_all (t := "false".toList) (by nofun) (by decide))
    | true => exact passes_quoted (passes_of_all (t := "true".toList) (by nofun) (by decide))
  | integer n => exact passes_quoted (passes_integer (by nofun) n)
  | number x => exact passes_quoted (passes_number (by nofun) x)
  | text t => exact passes_string _ _
  | bytes bs => exact passes_string _ _
  | date d => exact passes_string _ _
  | timestamp t => exact passes_string _ _

theorem passes_comma : Passes compact.betweenItems := fun _ => rfl

theorem passes_colon : Passes compact.afterKey := fun _ => rfl

mutual

/-- **A scan passes over compact JSON**, whatever value it is that is written. -/
theorem passes_write : ∀ v : Value, Passes (write compact v)
  | .scalar s => passes_scalar compact s
  | .sequence items =>
    passes_bracketed (passes_intercalate passes_comma (passes_writeItems items)) (Or.inl ⟨rfl, rfl⟩)
  | .pair first second => by
    have hboth := ((passes_write first).append passes_comma).append (passes_write second)
    simpa [write] using passes_bracketed hboth (Or.inl ⟨rfl, rfl⟩)
  | .set members => by
    refine passes_bracketed (passes_intercalate passes_comma fun x hx => ?_) (Or.inl ⟨rfl, rfl⟩)
    obtain ⟨s, -, rfl⟩ := List.mem_map.mp hx
    exact passes_scalar compact s
  | .mapping entries =>
    passes_bracketed (passes_intercalate passes_comma (passes_writeEntries entries))
      (Or.inr ⟨rfl, rfl⟩)
  | .looped _ _ => passes_string _ _

theorem passes_writeItems : ∀ items : List Value, ∀ x ∈ writeItems compact items, Passes x
  | [] => nofun
  | v :: rest => List.forall_mem_cons.mpr ⟨passes_write v, passes_writeItems rest⟩

theorem passes_writeEntries : ∀ entries : List (Scalar × Value),
    ∀ x ∈ writeEntries compact entries, Passes x
  | [] => nofun
  | (k, v) :: rest => List.forall_mem_cons.mpr
    ⟨((passes_key compact k).append passes_colon).append (passes_write v),
      passes_writeEntries rest⟩

end

end SchemaDoc.Json
