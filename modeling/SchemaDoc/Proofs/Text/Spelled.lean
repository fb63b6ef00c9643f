/-
SchemaDoc.Proofs.Text.Spelled — texts that spell code points.

A text that spells code points leaves no mark open, so what follows it is read
as if it stood alone (`codes_append`). ASCII is spelled as it is, and nothing
else is spelled with it. In names of files, too, ASCII codes have one byte and
all others only bytes above.

§1 spelled texts, §2 characters, §3 names of files.
-/
import SchemaDoc.Proofs.Files.Namable
import SchemaDoc.Proofs.Text.Lossy

namespace SchemaDoc.Text

variable {s t : List Char} {n : Nat}

/-! ## §1 Spelled texts -/

/-- A text spells code points. -/
def Spelled (s : List Char) : Prop := ∃ ns, (∀ n ∈ ns, IsCode n) ∧ s = ofCodes ns

theorem spelled_ofChars (cs : List Char) : Spelled (ofChars cs) := by
  refine ⟨cs.map Char.toNat, fun n hn => ?_, ofChars_eq cs⟩
  obtain ⟨c, -, rfl⟩ := List.mem_map.mp hn
  exact isCode_toNat c

/-- No mark is left open for what follows. -/
theorem codes_append (h : Spelled s) (t : List Char) : codes (s ++ t) = codes s ++ codes t := by
  obtain ⟨ns, hns, rfl⟩ := h
  rw [codes_ofCodes hns]
  induction ns with
  | nil => rfl
  | cons n rest ih =>
    obtain ⟨hn, hrest⟩ := List.forall_mem_cons.mp hns
    have hcons : ofCodes (n :: rest) = spell n ++ ofCodes rest := rfl
    rw [hcons, List.append_assoc, codes_spell_append hn, ih hrest]
    rfl

/-- A spelled text is made of its code points. -/
theorem Spelled.ofCodes_codes (h : Spelled s) : ofCodes (codes s) = s := by
  obtain ⟨ns, hns, rfl⟩ := h
  rw [codes_ofCodes hns]

theorem Spelled.isCode (h : Spelled s) : ∀ n ∈ codes s, IsCode n := by
  obtain ⟨ns, hns, rfl⟩ := h
  rwa [codes_ofCodes hns]

/-! ## §2 Characters -/

theorem spell_ascii (h : n < 0x80) : spell n = [Char.ofNat n] := by
  have hhalf : ¬isHalf n = true := by
    simp only [isHalf, Bool.and_eq_true, decide_eq_true_eq]
    omega
  have hmark : ¬needsMark n = true := by
    simp only [needsMark, Bool.and_eq_true, decide_eq_true_eq]
    omega
  rw [spell, if_neg hhalf, if_neg hmark]

/-- Nothing else is spelled with ASCII characters. -/
theorem not_ascii_of_mem_spell (hn : IsCode n) (h : 0x80 ≤ n) : ∀ c ∈ spell n, 0x80 ≤ c.toNat := by
  unfold IsCode at hn
  unfold spell
  split
  · rename_i hh
    simp only [isHalf, Bool.and_eq_true, decide_eq_true_eq] at hh
    rw [List.forall_mem_singleton, toNat_ofNat (Or.inr (by unfold halfShift; omega))]
    omega
  · rename_i hh
    simp only [isHalf, Bool.and_eq_true, decide_eq_true_eq] at hh
    split
    · rename_i hm
      simp only [needsMark, Bool.and_eq_true, decide_eq_true_eq] at hm
      refine List.forall_mem_cons.mpr ⟨by rw [toNat_mark]; omega, ?_⟩
      rw [List.forall_mem_singleton, toNat_ofNat (Or.inr (by unfold markShift; omega))]
      unfold markShift
      omega
    · have hvalid : n.isValidChar := by
        unfold Nat.isValidChar
        omega
      rw [List.forall_mem_singleton, toNat_ofNat hvalid]
      exact h

/-- An ASCII character of a spelled text is a code point of it. -/
theorem mem_codes_of_ascii (h : Spelled s) {c : Char} (hc : c.toNat < 0x80) (hm : c ∈ s) :
    c.toNat ∈ codes s := by
  rw [← h.ofCodes_codes] at hm
  obtain ⟨n, hn, hcn⟩ := List.mem_flatMap.mp hm
  by_cases hascii : n < 0x80
  · rw [spell_ascii hascii, List.mem_singleton] at hcn
    rwa [hcn, toNat_ofNat (Or.inl (by omega))]
  · have := not_ascii_of_mem_spell (h.isCode n hn) (by omega) c hcn
    omega

theorem mem_of_mem_codes (h : Spelled s) {c : Char} (hc : c.toNat < 0x80) (hm : c.toNat ∈ codes s) :
    c ∈ s := by
  rw [← h.ofCodes_codes]
  refine List.mem_flatMap.mpr ⟨c.toNat, hm, ?_⟩
  rw [spell_ascii hc, Char.ofNat_toNat]
  exact List.mem_singleton_self c

theorem mem_of_mem_ofChars {c : Char} (hc : c.toNat < 0x80) {cs : List Char} (h : c ∈ ofChars cs) :
    c ∈ cs := by
  have hm := mem_codes_of_ascii (spelled_ofChars cs) hc h
  rw [codes_ofChars] at hm
  obtain ⟨d, hd, he⟩ := List.mem_map.mp hm
  rwa [← Char.toNat_inj.mp he]

theorem ofChars_inj {cs ds : List Char} : ofChars cs = ofChars ds ↔ cs = ds := by
  refine ⟨fun h => ?_, congrArg ofChars⟩
  have hcodes := congrArg codes h
  rw [codes_ofChars, codes_ofChars] at hcodes
  exact List.map_injective_iff.mpr (fun c d h => Char.toNat_inj.mp h) hcodes

/-- A text of ASCII characters is spelled as it is. -/
theorem ofChars_ascii {cs : List Char} (h : ∀ c ∈ cs, c.toNat < 0x80) : ofChars cs = cs := by
  induction cs with
  | nil => rfl
  | cons c rest ih =>
    obtain ⟨hc, hrest⟩ := List.forall_mem_cons.mp h
    have hcons : ofChars (c :: rest) = spell c.toNat ++ ofChars rest := rfl
    rw [hcons, spell_ascii hc, Char.ofNat_toNat, ih hrest]
    rfl

/-! ## §3 Names of files -/

/-- The bytes of a code point in the name of a file. -/
def nameBytes (n : Nat) : List UInt8 :=
  if standsForByte n then [UInt8.ofNat (n - 0xDC00)] else encodeCode n

theorem encodeName_eq (s : String) : encodeName s = (codes s.toList).flatMap nameBytes := rfl

theorem nameBytes_ascii (h : n < 0x80) : nameBytes n = [UInt8.ofNat n] := by
  have hbyte : ¬standsForByte n = true := by
    simp only [standsForByte, Bool.and_eq_true, decide_eq_true_eq]
    omega
  have hhalf : ¬isHalf n = true := by
    simp only [isHalf, Bool.and_eq_true, decide_eq_true_eq]
    omega
  have hb : UInt8.ofNat n < 0x80 := by
    rw [UInt8.lt_iff_toNat_lt, toNat_byte (by omega)]
    exact h
  have hone := encode_one hb
  rw [toNat_byte (by omega)] at hone
  rw [nameBytes, if_neg hbyte, encodeCode, if_neg hhalf, hone]

/-- A character above ASCII has no byte of ASCII. -/
theorem encode_high {c : Char} (h : 0x80 ≤ c.toNat) :
    String.utf8EncodeChar c ≠ [] ∧ ∀ b ∈ String.utf8EncodeChar c, 0x80 ≤ b.toNat := by
  have hvalid : c.val.toNat.isValidChar := c.valid
  have hv : 0x80 ≤ c.val.toNat := h
  unfold Nat.isValidChar at hvalid
  have hlast : 0x80 ≤ (UInt8.ofNat (c.val.toNat % 64 + 128)).toNat := by
    rw [toNat_byte (by omega)]
    omega
  have hmid : 0x80 ≤ (UInt8.ofNat (c.val.toNat / 64 % 64 + 128)).toNat := by
    rw [toNat_byte (by omega)]
    omega
  have hfirst : 0x80 ≤ (UInt8.ofNat (c.val.toNat / 4096 % 64 + 128)).toNat := by
    rw [toNat_byte (by omega)]
    omega
  unfold String.utf8EncodeChar
  dsimp only
  rw [if_neg (by omega)]
  refine ⟨by split <;> [skip; split] <;> exact List.cons_ne_nil _ _, ?_⟩
  split
  · refine List.forall_mem_cons.mpr ⟨?_, List.forall_mem_singleton.mpr hlast⟩
    rw [toNat_byte (by omega)]
    omega
  · split
    · refine List.forall_mem_cons.mpr
        ⟨?_, List.forall_mem_cons.mpr ⟨hmid, List.forall_mem_singleton.mpr hlast⟩⟩
      rw [toNat_byte (by omega)]
      omega
    · refine List.forall_mem_cons.mpr ⟨?_, List.forall_mem_cons.mpr
        ⟨hfirst, List.forall_mem_cons.mpr ⟨hmid, List.forall_mem_singleton.mpr hlast⟩⟩⟩
      rw [toNat_byte (by omega)]
      omega

/-- Nor has any other code point that a name can have. -/
theorem nameBytes_high (hn : IsCode n) (h : 0x80 ≤ n)
    (hhalf : isHalf n = true → standsForByte n = true) :
    nameBytes n ≠ [] ∧ ∀ b ∈ nameBytes n, 0x80 ≤ b.toNat := by
  unfold nameBytes
  split
  · rename_i hs
    simp only [standsForByte, Bool.and_eq_true, decide_eq_true_eq] at hs
    refine ⟨List.cons_ne_nil _ _, List.forall_mem_singleton.mpr ?_⟩
    rw [toNat_byte (by omega)]
    omega
  · rename_i hs
    have hno : ¬isHalf n = true := fun hh => hs (hhalf hh)
    rw [encodeCode, if_neg hno]
    unfold IsCode at hn
    simp only [isHalf, Bool.and_eq_true, decide_eq_true_eq] at hno
    refine encode_high ?_
    rw [toNat_ofNat]
    · exact h
    · unfold Nat.isValidChar
      omega

/-- A text that the name of a file can have, and that spells code points. -/
structure IsName (s : List Char) : Prop where
  spelled : Spelled s
  namable : Namable s

theorem isName_ofChars (cs : List Char) : IsName (ofChars cs) where
  spelled := spelled_ofChars cs
  namable := by
    intro n hn
    rw [codes_ofChars] at hn
    obtain ⟨hmem, hhalf⟩ := List.mem_filter.mp hn
    obtain ⟨c, -, rfl⟩ := List.mem_map.mp hmem
    rw [isHalf_toNat] at hhalf
    cases hhalf

theorem IsName.nameBytes_high (h : IsName s) (hn : n ∈ codes s) (hhigh : 0x80 ≤ n) :
    nameBytes n ≠ [] ∧ ∀ b ∈ nameBytes n, 0x80 ≤ b.toNat :=
  Text.nameBytes_high (h.spelled.isCode n hn) hhigh fun hh =>
    h.namable n (List.mem_filter.mpr ⟨hn, hh⟩)

/-- An ASCII byte of a name comes from its character. -/
theorem IsName.mem_of_mem_encodeName {name : String} (h : IsName name.toList) {b : UInt8}
    (hb : b < 0x80) (hm : b ∈ encodeName name) : Char.ofNat b.toNat ∈ name.toList := by
  have hb : b.toNat < 128 := UInt8.lt_iff_toNat_lt.mp hb
  obtain ⟨n, hn, hbn⟩ := List.mem_flatMap.mp (encodeName_eq name ▸ hm)
  by_cases hascii : n < 0x80
  · rw [nameBytes_ascii hascii, List.mem_singleton] at hbn
    have hcode : (Char.ofNat b.toNat).toNat = n := by
      rw [hbn, toNat_byte (by omega), toNat_ofNat (Or.inl (by omega))]
    refine mem_of_mem_codes h.spelled ?_ ?_ <;> rw [hcode]
    · exact hascii
    · exact hn
  · have := (h.nameBytes_high hn (by omega)).2 b hbn
    omega

/-- A name of ASCII bytes is a text of ASCII characters. -/
theorem IsName.toList_of_ascii {name : String} (h : IsName name.toList)
    (hb : ∀ b ∈ encodeName name, b < 0x80) :
    name.toList = (encodeName name).map fun b => Char.ofNat b.toNat := by
  rw [encodeName_eq] at hb ⊢
  have hall : ∀ n ∈ codes name.toList, n < 0x80 := by
    intro n hn
    by_contra hhigh
    obtain ⟨hne, hbytes⟩ := h.nameBytes_high hn (by omega)
    obtain ⟨b, bs, hcons⟩ := List.exists_cons_of_ne_nil hne
    have hlow := UInt8.lt_iff_toNat_lt.mp
      (hb b (List.mem_flatMap.mpr ⟨n, hn, hcons ▸ List.mem_cons_self ..⟩))
    have hhigh := hbytes b (hcons ▸ List.mem_cons_self ..)
    simp only [UInt8.reduceToNat] at hlow
    omega
  rw [List.map_flatMap, ← h.spelled.ofCodes_codes, codes_ofCodes h.spelled.isCode, ofCodes]
  refine List.flatMap_congr fun n hn => ?_
  rw [spell_ascii (hall n hn), nameBytes_ascii (hall n hn), List.map_singleton,
    toNat_byte (Nat.lt_trans (hall n hn) (by omega))]

/-- The bytes of names with slashes between them. -/
theorem encodeName_slash {s : List Char} (h : Spelled s) (t : List Char) :
    encodeName (String.ofList (s ++ '/' :: t))
      = encodeName (String.ofList s) ++ 0x2F :: encodeName (String.ofList t) := by
  simp only [encodeName_eq, String.toList_ofList, codes_append h, Reference.codes_slash,
    List.flatMap_append, List.flatMap_cons]
  rfl

theorem encodeName_intercalate : ∀ {names : List String}, (∀ n ∈ names, Spelled n.toList) →
    encodeName ("/".intercalate names) = [0x2F].intercalate (names.map encodeName)
  | [], _ => rfl
  | [n], _ => by simp
  | n :: next :: rest, h => by
    obtain ⟨hn, hrest⟩ := List.forall_mem_cons.mp h
    have htext : "/".intercalate (n :: next :: rest)
        = String.ofList (n.toList ++ '/' :: ("/".intercalate (next :: rest)).toList) := by
      rw [String.intercalate_cons_cons]
      simp [← String.toList_inj]
    rw [htext, encodeName_slash hn, String.ofList_toList, String.ofList_toList,
      encodeName_intercalate hrest, List.map_cons, List.map_cons, List.map_cons,
      List.intercalate_cons_cons, List.append_assoc]
    rfl

/-- A name of ASCII characters has as many bytes. -/
theorem length_encodeName_ascii {s : List Char} (h : ∀ c ∈ s, c.toNat < 0x80) :
    (encodeName (String.ofList s)).length = s.length := by
  have hcodes : codes s = s.map Char.toNat := by
    rw [← codes_ofChars s, ofChars_ascii h]
  rw [encodeName_eq, String.toList_ofList, hcodes, List.flatMap_map, List.length_flatMap,
    List.map_congr_left fun c hc => congrArg List.length (nameBytes_ascii (h c hc))]
  simp

end SchemaDoc.Text
