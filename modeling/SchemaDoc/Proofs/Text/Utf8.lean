/-
SchemaDoc.Proofs.Text.Utf8 — bytes that are read are written back.

Strict reading admits one form of each character, the one that is written. So
the encoding of a text that was decoded from bytes is these bytes
(`encode_of_decode`). While a character is read, its bytes and bits are such
that whatever completes them completes its encoding.

§1 characters, §2 open characters, §3 texts.
-/
import Mathlib.Data.List.Forall2
import SchemaDoc.Proofs.Failing
import SchemaDoc.Text.Utf8

namespace SchemaDoc.Text

/-! ## §1 Characters -/

theorem ofNat_eq_byte {b : UInt8} {n : Nat} (h : n = b.toNat) : UInt8.ofNat n = b := by
  rw [h, UInt8.ofNat_toNat]

theorem encode_one {b : UInt8} (h : b < 0x80) :
    String.utf8EncodeChar (Char.ofNat b.toNat) = [b] := by
  have hb : b.toNat < 128 := h
  have hc : (Char.ofNat b.toNat).val.toNat = b.toNat := toNat_ofNat (Or.inl (by omega))
  unfold String.utf8EncodeChar
  simp only [hc]
  rw [if_pos (by omega), UInt8.ofNat_toNat]

theorem encode_two {a b : UInt8} (ha : 0xC2 ≤ a ∧ a ≤ 0xDF) (hb : 0x80 ≤ b ∧ b ≤ 0xBF) :
    String.utf8EncodeChar (Char.ofNat (a.toNat % 32 * 64 + b.toNat % 64)) = [a, b] := by
  have ha' : 194 ≤ a.toNat ∧ a.toNat ≤ 223 := ha
  have hb' : 128 ≤ b.toNat ∧ b.toNat ≤ 191 := hb
  have hc : (Char.ofNat (a.toNat % 32 * 64 + b.toNat % 64)).val.toNat
      = a.toNat % 32 * 64 + b.toNat % 64 := toNat_ofNat (Or.inl (by omega))
  unfold String.utf8EncodeChar
  simp only [hc]
  rw [if_neg (by omega), if_pos (by omega), ofNat_eq_byte (b := a) (by omega),
    ofNat_eq_byte (b := b) (by omega)]

theorem encode_three {a b c : UInt8} (ha : 0xE0 ≤ a ∧ a ≤ 0xEF) (hb : 0x80 ≤ b ∧ b ≤ 0xBF)
    (hc : 0x80 ≤ c ∧ c ≤ 0xBF) (hlow : a = 0xE0 → 0xA0 ≤ b) (hhalf : a = 0xED → b ≤ 0x9F) :
    String.utf8EncodeChar
      (Char.ofNat ((a.toNat % 16 * 64 + b.toNat % 64) * 64 + c.toNat % 64)) = [a, b, c] := by
  have ha' : 224 ≤ a.toNat ∧ a.toNat ≤ 239 := ha
  have hb' : 128 ≤ b.toNat ∧ b.toNat ≤ 191 := hb
  have hc' : 128 ≤ c.toNat ∧ c.toNat ≤ 191 := hc
  have hlow' : a.toNat = 224 → 160 ≤ b.toNat := fun h => hlow (UInt8.toNat_inj.mp h)
  have hhalf' : a.toNat = 237 → b.toNat ≤ 159 := fun h => hhalf (UInt8.toNat_inj.mp h)
  have hn : (Char.ofNat ((a.toNat % 16 * 64 + b.toNat % 64) * 64 + c.toNat % 64)).val.toNat
      = (a.toNat % 16 * 64 + b.toNat % 64) * 64 + c.toNat % 64 := by
    refine toNat_ofNat ?_
    by_cases hd : a.toNat ≤ 237
    · exact Or.inl (by omega)
    · exact Or.inr ⟨by omega, by omega⟩
  unfold String.utf8EncodeChar
  simp only [hn]
  rw [if_neg (by omega), if_neg (by omega), if_pos (by omega), ofNat_eq_byte (b := a) (by omega),
    ofNat_eq_byte (b := b) (by omega), ofNat_eq_byte (b := c) (by omega)]

theorem encode_four {a b c d : UInt8} (ha : 0xF0 ≤ a ∧ a ≤ 0xF4) (hb : 0x80 ≤ b ∧ b ≤ 0xBF)
    (hc : 0x80 ≤ c ∧ c ≤ 0xBF) (hd : 0x80 ≤ d ∧ d ≤ 0xBF) (hlow : a = 0xF0 → 0x90 ≤ b)
    (hhigh : a = 0xF4 → b ≤ 0x8F) :
    String.utf8EncodeChar (Char.ofNat
      (((a.toNat % 8 * 64 + b.toNat % 64) * 64 + c.toNat % 64) * 64 + d.toNat % 64))
        = [a, b, c, d] := by
  have ha' : 240 ≤ a.toNat ∧ a.toNat ≤ 244 := ha
  have hb' : 128 ≤ b.toNat ∧ b.toNat ≤ 191 := hb
  have hc' : 128 ≤ c.toNat ∧ c.toNat ≤ 191 := hc
  have hd' : 128 ≤ d.toNat ∧ d.toNat ≤ 191 := hd
  have hlow' : a.toNat = 240 → 144 ≤ b.toNat := fun h => hlow (UInt8.toNat_inj.mp h)
  have hhigh' : a.toNat = 244 → b.toNat ≤ 143 := fun h => hhigh (UInt8.toNat_inj.mp h)
  have hn : (Char.ofNat
      (((a.toNat % 8 * 64 + b.toNat % 64) * 64 + c.toNat % 64) * 64 + d.toNat % 64)).val.toNat
      = ((a.toNat % 8 * 64 + b.toNat % 64) * 64 + c.toNat % 64) * 64 + d.toNat % 64 :=
    toNat_ofNat (Or.inr ⟨by omega, by omega⟩)
  unfold String.utf8EncodeChar
  simp only [hn]
  rw [if_neg (by omega), if_neg (by omega), if_neg (by omega), ofNat_eq_byte (b := a) (by omega),
    ofNat_eq_byte (b := b) (by omega), ofNat_eq_byte (b := c) (by omega),
    ofNat_eq_byte (b := d) (by omega)]

/-! ## §2 Open characters -/

/-- A byte in a range. -/
def Within (b : UInt8) (range : UInt8 × UInt8) : Prop := range.1 ≤ b ∧ b ≤ range.2

/-- Whatever bytes complete a character, it is written as the bytes read and these. -/
def OpenChar.Completes (o : OpenChar) : Prop :=
  ∀ bs, List.Forall₂ Within bs (o.next :: o.later) →
    String.utf8EncodeChar (Char.ofNat (bs.foldl (fun n b => n * 64 + b.toNat % 64) o.bits))
      = o.bytes ++ bs

theorem OpenChar.Completes.last {o : OpenChar} (h : o.Completes) {b : UInt8}
    (hb : Within b o.next) (hlater : o.later = []) :
    String.utf8EncodeChar (Char.ofNat (o.bits * 64 + b.toNat % 64)) = o.bytes ++ [b] :=
  h [b] (.cons hb (hlater ▸ .nil))

theorem OpenChar.Completes.step {o : OpenChar} (h : o.Completes) {b : UInt8}
    {next : UInt8 × UInt8} {later : List (UInt8 × UInt8)} (hb : Within b o.next)
    (hlater : o.later = next :: later) :
    OpenChar.Completes
      ⟨o.start, o.bytes ++ [b], o.bits * 64 + b.toNat % 64, next, later⟩ := by
  intro bs hbs
  rw [List.append_assoc]
  exact h (b :: bs) (.cons hb (hlater ▸ hbs))

/-- Behind some lead bytes the next byte has a narrower range. -/
theorem Within.second {b c lead low lead' high : UInt8}
    (h : Within c (if b = lead then (low, 0xBF) else if b = lead' then (0x80, high)
      else anyContinuation))
    (hlow : 0x80 ≤ low) (hhigh : high ≤ 0xBF) (hne : lead ≠ lead') :
    (0x80 ≤ c ∧ c ≤ 0xBF) ∧ (b = lead → low ≤ c) ∧ (b = lead' → c ≤ high) := by
  split at h
  · rename_i hb
    exact ⟨⟨UInt8.le_trans hlow h.1, h.2⟩, fun _ => h.1, fun hb' => absurd (hb.symm.trans hb') hne⟩
  · rename_i hb
    split at h
    · exact ⟨⟨h.1, UInt8.le_trans h.2 hhigh⟩, fun hb' => absurd hb' hb, fun _ => h.2⟩
    · rename_i hb'
      exact ⟨h, fun h => absurd h hb, fun h => absurd h hb'⟩

/-- A lead byte opens a character that is written as it is read. -/
theorem completes_openChar {position : Nat} {b : UInt8} {o : OpenChar}
    (h : openChar position b = some o) : o.bytes = [b] ∧ o.Completes := by
  unfold openChar at h
  split at h
  · rename_i hb
    cases h
    refine ⟨rfl, ?_⟩
    rintro _ (_ | ⟨h₁, _ | _⟩)
    exact encode_two (by simpa using hb) h₁
  · split at h
    · rename_i hb
      cases h
      refine ⟨rfl, ?_⟩
      rintro _ (_ | ⟨h₁, _ | ⟨h₂, _ | _⟩⟩)
      obtain ⟨hany, hlow, hhalf⟩ := h₁.second (by decide) (by decide) (by decide)
      exact encode_three (by simpa using hb) hany h₂ hlow hhalf
    · split at h
      · rename_i hb
        cases h
        refine ⟨rfl, ?_⟩
        rintro _ (_ | ⟨h₁, _ | ⟨h₂, _ | ⟨h₃, _ | _⟩⟩⟩)
        obtain ⟨hany, hlow, hhigh⟩ := h₁.second (by decide) (by decide) (by decide)
        exact encode_four (by simpa using hb) hany h₂ h₃ hlow hhigh
      · cases h

/-! ## §3 Texts -/

/-- The bytes of a character that is being read. -/
def pending : Option OpenChar → List UInt8
  | some o => o.bytes
  | none => []

/-- What is read is written as the bytes that were pending, and those that were read. -/
theorem flatMap_of_collect : ∀ {bs : List UInt8} {o : Option OpenChar} {position : Nat}
    {cs : List Char}, (∀ c ∈ o, c.Completes) → collect (scanFrom o position bs) = .ok cs →
      cs.flatMap String.utf8EncodeChar = pending o ++ bs
  | [], none, position, cs, _, h => by
    cases h
    rfl
  | [], some o, position, cs, _, h => by cases h
  | b :: rest, none, position, cs, ho, h => by
    rw [scanFrom, firstByte] at h
    split at h
    · rename_i items next hfirst
      split at hfirst
      · rename_i hb
        cases hfirst
        obtain ⟨cs, hcs, rfl⟩ := map_eq_ok.mp h
        rw [List.flatMap_cons, encode_one hb, flatMap_of_collect (by simp) hcs]
        rfl
      · split at hfirst
        · cases hfirst
          cases h
        · rename_i o hopen
          cases hfirst
          obtain ⟨hbytes, hcompletes⟩ := completes_openChar hopen
          rw [flatMap_of_collect (by simpa using hcompletes) h, pending, hbytes]
          rfl
  | b :: rest, some o, position, cs, ho, h => by
    have hcompletes := ho o rfl
    rw [scanFrom] at h
    split at h
    · rename_i hb
      have hwithin : Within b o.next := by simpa [Within] using hb
      simp only at h
      split at h
      · rename_i hlater
        obtain ⟨cs, hcs, rfl⟩ := map_eq_ok.mp h
        rw [List.flatMap_cons, hcompletes.last hwithin hlater, flatMap_of_collect (by simp) hcs,
          List.append_assoc]
        rfl
      · rename_i next later hlater
        rw [flatMap_of_collect (by simpa using hcompletes.step hwithin hlater) h, pending, pending,
          List.append_assoc]
        rfl
    · cases h

/-- No character is a half. -/
theorem isHalf_toNat (c : Char) : isHalf c.toNat = false := by
  have hvalid : c.toNat.isValidChar := c.valid
  rw [isHalf, Bool.and_eq_false_imp, decide_eq_true_eq, decide_eq_false_iff_not]
  unfold Nat.isValidChar at hvalid
  omega

theorem encodeCode_toNat (c : Char) : encodeCode c.toNat = String.utf8EncodeChar c := by
  rw [encodeCode, if_neg (by simp [isHalf_toNat]), Char.ofNat_toNat]

theorem isCode_toNat (c : Char) : IsCode c.toNat := by
  have hvalid : c.toNat.isValidChar := c.valid
  unfold Nat.isValidChar at hvalid
  unfold IsCode
  omega

theorem ofChars_eq (cs : List Char) : ofChars cs = ofCodes (cs.map Char.toNat) := by
  rw [ofChars, ofCodes, List.flatMap_map]

/-- The characters of a text are read back. -/
theorem codes_ofChars (cs : List Char) : codes (ofChars cs) = cs.map Char.toNat := by
  rw [ofChars_eq, codes_ofCodes]
  intro n hn
  obtain ⟨c, -, rfl⟩ := List.mem_map.mp hn
  exact isCode_toNat c

/-- The encoding of a text of characters. -/
theorem encode_ofChars (cs : List Char) :
    encode (String.ofList (ofChars cs)) = cs.flatMap String.utf8EncodeChar := by
  rw [encode, String.toList_ofList, codes_ofChars, List.flatMap_map]
  exact List.flatMap_congr fun c _ => encodeCode_toNat c

/-- **Bytes that are read as a text are its encoding.** -/
theorem encode_of_decode {bs : List UInt8} {s : String} (h : decode bs = .ok s) :
    encode s = bs := by
  obtain ⟨cs, hcs, rfl⟩ := map_eq_ok.mp h
  rw [encode_ofChars, flatMap_of_collect (by simp) hcs]
  rfl

end SchemaDoc.Text
