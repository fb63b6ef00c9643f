/-
SchemaDoc.Text.Code — the code points of a text.

An escape of sixteen bits may write one half of a surrogate pair without the
other, and a text keeps such a half beside its characters. So a text is
spelled: a half is written as a character of the last plane, U+10D800 up to
U+10DFFF, and a character that would be mistaken for a half or for the mark is
written as the mark U+10E000 and a character of the plane before. All other
characters, all of ASCII among them, stand for themselves. `codes` reads the
code points back (`codes_ofCodes`); whatever counts, orders, shows or encodes
the letters of a text goes through it.

§1 halves, §2 spelling, §3 reading, §4 letters, §5 halves in a text, §6 order.
-/

namespace SchemaDoc.Text

/-! ## §1 Halves -/

/-- A unit that is half of a surrogate pair. -/
def isHalf (n : Nat) : Bool := 0xD800 ≤ n && n ≤ 0xDFFF

/-- The distance from a half to the character that spells it. -/
def halfShift : Nat := 0x100000

/-! ## §2 Spelling -/

/-- The mark in front of a character that does not stand for itself. -/
def mark : Char := Char.ofNat 0x10E000

/-- The distance from a marked character to the one that stands behind the mark. -/
def markShift : Nat := 0x10000

/-- The code of a character that has to be marked. -/
def needsMark (n : Nat) : Bool := 0x10D800 ≤ n && n ≤ 0x10E000

/-- The spelling of a code point. -/
def spell (n : Nat) : List Char :=
  if isHalf n then [Char.ofNat (n + halfShift)]
  else if needsMark n then [mark, Char.ofNat (n - markShift)]
  else [Char.ofNat n]

/-- The text of code points. -/
def ofCodes (ns : List Nat) : List Char := ns.flatMap spell

/-- The text of characters. -/
def ofChars (cs : List Char) : List Char := cs.flatMap fun c => spell c.toNat

/-! ## §3 Reading -/

/-- The code point that a character stands for without a mark. -/
def codeOf (c : Char) : Nat :=
  if isHalf (c.toNat - halfShift) then c.toNat - halfShift else c.toNat

/-- The code points of a text. -/
def codes : List Char → List Nat
  | [] => []
  | [c] => [codeOf c]
  | c :: d :: rest =>
    if c = mark then (d.toNat + markShift) :: codes rest else codeOf c :: codes (d :: rest)

/-- A code point: a character or a half. -/
def IsCode (n : Nat) : Prop := n < 0x110000

theorem toNat_ofNat {n : Nat} (h : n.isValidChar) : (Char.ofNat n).toNat = n := by
  rw [Char.ofNat, dif_pos h]
  rfl

theorem toNat_mark : mark.toNat = 0x10E000 := toNat_ofNat (Or.inr ⟨by decide, by decide⟩)

theorem ne_mark_of_toNat {c : Char} (h : c.toNat ≠ 0x10E000) : c ≠ mark := by
  intro e
  rw [e, toNat_mark] at h
  exact h rfl

theorem codes_cons {c : Char} (h : c ≠ mark) (s : List Char) :
    codes (c :: s) = codeOf c :: codes s := by
  cases s with
  | nil => rfl
  | cons d rest => rw [codes, if_neg h]

theorem codes_mark (d : Char) (s : List Char) :
    codes (mark :: d :: s) = (d.toNat + markShift) :: codes s := by rw [codes, if_pos rfl]

/-- A code point is read back from its spelling. -/
theorem codes_spell_append {n : Nat} (h : IsCode n) (s : List Char) :
    codes (spell n ++ s) = n :: codes s := by
  unfold IsCode at h
  by_cases hh : isHalf n = true
  · have hb : 0xD800 ≤ n ∧ n ≤ 0xDFFF := by simpa [isHalf] using hh
    have hc : (Char.ofNat (n + halfShift)).toNat = n + halfShift :=
      toNat_ofNat (Or.inr ⟨by unfold halfShift; omega, by unfold halfShift; omega⟩)
    have hm : Char.ofNat (n + halfShift) ≠ mark :=
      ne_mark_of_toNat (by rw [hc]; unfold halfShift; omega)
    rw [spell, if_pos hh, List.singleton_append, codes_cons hm, codeOf, hc, Nat.add_sub_cancel,
      if_pos hh]
  · have hb : ¬(0xD800 ≤ n ∧ n ≤ 0xDFFF) := by simpa [isHalf] using hh
    by_cases hn : needsMark n = true
    · have hb : 0x10D800 ≤ n ∧ n ≤ 0x10E000 := by simpa [needsMark] using hn
      have hc : (Char.ofNat (n - markShift)).toNat = n - markShift :=
        toNat_ofNat (Or.inr ⟨by unfold markShift; omega, by unfold markShift; omega⟩)
      have hs : n - markShift + markShift = n := by unfold markShift; omega
      rw [spell, if_neg hh, if_pos hn, List.cons_append, List.singleton_append, codes_mark, hc, hs]
    · have hb' : ¬(0x10D800 ≤ n ∧ n ≤ 0x10E000) := by simpa [needsMark] using hn
      have hc : (Char.ofNat n).toNat = n := by
        refine toNat_ofNat ?_
        by_cases hl : n < 0xD800
        · exact Or.inl hl
        · exact Or.inr ⟨by omega, by omega⟩
      have hm : Char.ofNat n ≠ mark := ne_mark_of_toNat (by rw [hc]; omega)
      have hk : ¬isHalf (n - halfShift) = true := by
        rw [isHalf, Bool.and_eq_true, decide_eq_true_eq, decide_eq_true_eq]
        unfold halfShift
        omega
      rw [spell, if_neg hh, if_neg hn, List.singleton_append, codes_cons hm, codeOf, hc, if_neg hk]

/-- Code points are read back from the text that they make. -/
theorem codes_ofCodes {ns : List Nat} (h : ∀ n ∈ ns, IsCode n) : codes (ofCodes ns) = ns := by
  induction ns with
  | nil => rfl
  | cons n rest ih =>
    rw [ofCodes, List.flatMap_cons, codes_spell_append (h n (List.mem_cons_self ..))]
    exact congrArg _ (ih fun m hm => h m (List.mem_cons_of_mem _ hm))

/-- The characters of a text; a half has none and is left as it is spelled. -/
def toChars (s : List Char) : List Char :=
  (codes s).map fun n => Char.ofNat (if isHalf n then n + halfShift else n)

/-! ## §4 Letters -/

/-- A text cut into the spellings of its code points. -/
def letters : List Char → List (List Char)
  | [] => []
  | [c] => [[c]]
  | c :: d :: rest => if c = mark then [c, d] :: letters rest else [c] :: letters (d :: rest)

/-- The count of the letters of a text. -/
def count (s : List Char) : Nat := (codes s).length

/-! ## §5 Halves in a text -/

/-- The character spells a half. -/
def spellsHalf (c : Char) : Bool := isHalf (c.toNat - halfShift)

/-- Halves that stand one behind the other: the first one, its place, and the place behind the
last. -/
structure Halves where
  first : Nat
  start : Nat
  stop : Nat

/-- The first halves among code points, from the first one on that is not let pass. -/
def halves? (passes : Nat → Bool) (ns : List Nat) : Option Halves :=
  let before := ns.takeWhile fun n => !isHalf n || passes n
  let found := (ns.drop before.length).takeWhile isHalf
  found.head?.map fun n => ⟨n, before.length, before.length + found.length⟩

/-! ## §6 Order -/

/-- One list of numbers comes before another, by the first numbers that differ, or is its start. -/
def numbersLe : List Nat → List Nat → Bool
  | [], _ => true
  | _ :: _, [] => false
  | a :: as, b :: bs => a < b || (a == b && numbersLe as bs)

/-- One text comes before another, by code points. -/
def codesLe (s t : List Char) : Bool := numbersLe (codes s) (codes t)

end SchemaDoc.Text
