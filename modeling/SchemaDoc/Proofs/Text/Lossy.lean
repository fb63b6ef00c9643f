/-
SchemaDoc.Proofs.Text.Lossy — bytes that are read as a text, whatever they are.

What is written is read back character by character, whatever follows
(`scanFrom_encode`). An ASCII byte always stands for itself: it ends what was
being read, so that bytes on both of its sides are read apart
(`lossy_append_ascii`), and it comes from nothing else (`mem_of_mem_lossy`).

§1 single steps, §2 characters read back, §3 around an ASCII byte, §4 where
characters come from.
-/
import SchemaDoc.Proofs.Text.Utf8

namespace SchemaDoc.Text

variable {o : OpenChar} {position : Nat} {b : UInt8} {rest : List UInt8}

/-! ## §1 Single steps -/

theorem toNat_byte {n : Nat} (h : n < 256) : (UInt8.ofNat n).toNat = n := by
  rw [UInt8.toNat_ofNat', Nat.mod_eq_of_lt h]

theorem within_iff {range : UInt8 × UInt8} :
    Within b range ↔ range.1.toNat ≤ b.toNat ∧ b.toNat ≤ range.2.toNat := by
  rw [Within, UInt8.le_iff_toNat_le, UInt8.le_iff_toNat_le]

/-- A lead byte is read and the next one waited for. -/
theorem scanFrom_lead (hb : 0x80 ≤ b.toNat) (h : openChar position b = some o) :
    scanFrom none position (b :: rest) = scanFrom (some o) (position + 1) rest := by
  have hlead : ¬b < 0x80 := by
    rw [UInt8.lt_iff_toNat_lt]
    exact Nat.not_lt.mpr hb
  rw [scanFrom, firstByte, if_neg hlead, h]
  rfl

variable {start bits : Nat} {bytes : List UInt8} {next : UInt8 × UInt8}
  {later : List (UInt8 × UInt8)}

/-- The last byte of a character. -/
theorem scanFrom_last (hb : Within b next) :
    scanFrom (some ⟨start, bytes, bits, next, []⟩) position (b :: rest)
      = .ok (Char.ofNat (bits * 64 + b.toNat % 64)) :: scanFrom none (position + 1) rest := by
  rw [scanFrom, if_pos (by simpa [Within] using hb)]

/-- A byte inside a character. -/
theorem scanFrom_inner (hb : Within b next) {next' : UInt8 × UInt8} :
    scanFrom (some ⟨start, bytes, bits, next, next' :: later⟩) position (b :: rest)
      = scanFrom (some ⟨start, bytes ++ [b], bits * 64 + b.toNat % 64, next', later⟩)
          (position + 1) rest := by
  rw [scanFrom, if_pos (by simpa [Within] using hb)]

/-- A byte that does not continue a character is read as if none were open. -/
theorem scanFrom_out (hb : ¬Within b o.next) :
    scanFrom (some o) position (b :: rest)
      = .error ⟨o.start, o.bytes, .badContinuation⟩ :: scanFrom none position (b :: rest) := by
  have hout : ¬(o.next.1 ≤ b && b ≤ o.next.2) = true := by simpa [Within] using hb
  simp only [scanFrom, if_neg hout, List.cons_append]

/-! ## §2 Characters read back -/

/-- The byte of a continuation. -/
theorem within_continuation (n : Nat) : Within (UInt8.ofNat (n % 64 + 128)) anyContinuation := by
  rw [within_iff, toNat_byte (by omega)]
  simp only [anyContinuation, UInt8.reduceToNat]
  omega

theorem scanFrom_two {n : Nat} (hlow : 0x80 ≤ n) (hhigh : n ≤ 0x7FF) :
    scanFrom none position
        (UInt8.ofNat (n / 64 % 32 + 192) :: UInt8.ofNat (n % 64 + 128) :: rest)
      = .ok (Char.ofNat n) :: scanFrom none (position + 2) rest := by
  have hlead : (UInt8.ofNat (n / 64 % 32 + 192)).toNat = n / 64 % 32 + 192 := toNat_byte (by omega)
  have hcont : (UInt8.ofNat (n % 64 + 128)).toNat = n % 64 + 128 := toNat_byte (by omega)
  have hopen : openChar position (UInt8.ofNat (n / 64 % 32 + 192))
      = some ⟨position, [UInt8.ofNat (n / 64 % 32 + 192)],
          (UInt8.ofNat (n / 64 % 32 + 192)).toNat % 32, anyContinuation, []⟩ := by
    rw [openChar, if_pos]
    simp only [Bool.and_eq_true, decide_eq_true_eq, UInt8.le_iff_toNat_le, hlead,
      UInt8.reduceToNat]
    omega
  rw [scanFrom_lead (by omega) hopen, scanFrom_last (within_continuation n)]
  simp only [hlead, hcont]
  congr 3
  omega

/-- The narrower ranges behind some lead bytes keep out overlong forms and halves, and nothing
else. -/
theorem within_second {c lead low lead' high : UInt8} (hc : 0x80 ≤ c.toNat ∧ c.toNat ≤ 0xBF)
    (hlow : b.toNat = lead.toNat → low.toNat ≤ c.toNat)
    (hhigh : b.toNat = lead'.toNat → c.toNat ≤ high.toNat) :
    Within c (if b = lead then (low, 0xBF) else if b = lead' then (0x80, high)
      else anyContinuation) := by
  rw [within_iff]
  split
  · rename_i h
    exact ⟨hlow (congrArg _ h), hc.2⟩
  · split
    · rename_i h
      exact ⟨hc.1, hhigh (congrArg _ h)⟩
    · exact hc

theorem openChar_three (hlow : 0xE0 ≤ b.toNat) (hhigh : b.toNat ≤ 0xEF) :
    openChar position b = some ⟨position, [b], b.toNat % 16,
      if b = 0xE0 then (0xA0, 0xBF) else if b = 0xED then (0x80, 0x9F) else anyContinuation,
      [anyContinuation]⟩ := by
  have htwo : ¬(0xC2 ≤ b && b ≤ 0xDF) = true := by
    simp only [Bool.and_eq_true, decide_eq_true_eq, UInt8.le_iff_toNat_le, UInt8.reduceToNat]
    omega
  have hthree : (0xE0 ≤ b && b ≤ 0xEF) = true := by
    simp only [Bool.and_eq_true, decide_eq_true_eq, UInt8.le_iff_toNat_le, UInt8.reduceToNat]
    omega
  rw [openChar, if_neg htwo, if_pos hthree]

theorem openChar_four (hlow : 0xF0 ≤ b.toNat) (hhigh : b.toNat ≤ 0xF4) :
    openChar position b = some ⟨position, [b], b.toNat % 8,
      if b = 0xF0 then (0x90, 0xBF) else if b = 0xF4 then (0x80, 0x8F) else anyContinuation,
      [anyContinuation, anyContinuation]⟩ := by
  have htwo : ¬(0xC2 ≤ b && b ≤ 0xDF) = true := by
    simp only [Bool.and_eq_true, decide_eq_true_eq, UInt8.le_iff_toNat_le, UInt8.reduceToNat]
    omega
  have hthree : ¬(0xE0 ≤ b && b ≤ 0xEF) = true := by
    simp only [Bool.and_eq_true, decide_eq_true_eq, UInt8.le_iff_toNat_le, UInt8.reduceToNat]
    omega
  have hfour : (0xF0 ≤ b && b ≤ 0xF4) = true := by
    simp only [Bool.and_eq_true, decide_eq_true_eq, UInt8.le_iff_toNat_le, UInt8.reduceToNat]
    omega
  rw [openChar, if_neg htwo, if_neg hthree, if_pos hfour]

theorem scanFrom_three {n : Nat} (hlow : 0x800 ≤ n) (hhigh : n ≤ 0xFFFF)
    (hhalf : n < 0xD800 ∨ 0xDFFF < n) :
    scanFrom none position (UInt8.ofNat (n / 4096 % 16 + 224) :: UInt8.ofNat (n / 64 % 64 + 128)
        :: UInt8.ofNat (n % 64 + 128) :: rest)
      = .ok (Char.ofNat n) :: scanFrom none (position + 3) rest := by
  have hlead : (UInt8.ofNat (n / 4096 % 16 + 224)).toNat = n / 4096 % 16 + 224 :=
    toNat_byte (by omega)
  have hmid : (UInt8.ofNat (n / 64 % 64 + 128)).toNat = n / 64 % 64 + 128 := toNat_byte (by omega)
  have hlast : (UInt8.ofNat (n % 64 + 128)).toNat = n % 64 + 128 := toNat_byte (by omega)
  have hsecond : Within (UInt8.ofNat (n / 64 % 64 + 128))
      (if UInt8.ofNat (n / 4096 % 16 + 224) = 0xE0 then (0xA0, 0xBF)
        else if UInt8.ofNat (n / 4096 % 16 + 224) = 0xED then (0x80, 0x9F)
        else anyContinuation) := by
    refine within_second (by omega) ?_ ?_ <;> simp only [hlead, hmid, UInt8.reduceToNat] <;> omega
  rw [scanFrom_lead (by omega) (openChar_three (by omega) (by omega)), scanFrom_inner hsecond,
    scanFrom_last (within_continuation n)]
  simp only [hlead, hmid, hlast]
  have hbits : (((n / 4096 % 16 + 224) % 16 * 64 + (n / 64 % 64 + 128) % 64) * 64
      + (n % 64 + 128) % 64) = n := by omega
  rw [hbits]

theorem scanFrom_four {n : Nat} (hlow : 0x10000 ≤ n) (hhigh : n ≤ 0x10FFFF) :
    scanFrom none position (UInt8.ofNat (n / 262144 % 8 + 240)
        :: UInt8.ofNat (n / 4096 % 64 + 128) :: UInt8.ofNat (n / 64 % 64 + 128)
        :: UInt8.ofNat (n % 64 + 128) :: rest)
      = .ok (Char.ofNat n) :: scanFrom none (position + 4) rest := by
  have hlead : (UInt8.ofNat (n / 262144 % 8 + 240)).toNat = n / 262144 % 8 + 240 :=
    toNat_byte (by omega)
  have hfirst : (UInt8.ofNat (n / 4096 % 64 + 128)).toNat = n / 4096 % 64 + 128 :=
    toNat_byte (by omega)
  have hmid : (UInt8.ofNat (n / 64 % 64 + 128)).toNat = n / 64 % 64 + 128 := toNat_byte (by omega)
  have hlast : (UInt8.ofNat (n % 64 + 128)).toNat = n % 64 + 128 := toNat_byte (by omega)
  have hsecond : Within (UInt8.ofNat (n / 4096 % 64 + 128))
      (if UInt8.ofNat (n / 262144 % 8 + 240) = 0xF0 then (0x90, 0xBF)
        else if UInt8.ofNat (n / 262144 % 8 + 240) = 0xF4 then (0x80, 0x8F)
        else anyContinuation) := by
    refine within_second (by omega) ?_ ?_ <;> simp only [hlead, hfirst, UInt8.reduceToNat] <;> omega
  rw [scanFrom_lead (by omega) (openChar_four (by omega) (by omega)), scanFrom_inner hsecond,
    scanFrom_inner (within_continuation (n / 64)), scanFrom_last (within_continuation n)]
  simp only [hlead, hfirst, hmid, hlast]
  have hbits : ((((n / 262144 % 8 + 240) % 8 * 64 + (n / 4096 % 64 + 128) % 64) * 64
      + (n / 64 % 64 + 128) % 64) * 64 + (n % 64 + 128) % 64) = n := by omega
  rw [hbits]

/-- **A character that is written is read back**, whatever follows. -/
theorem scanFrom_encode (c : Char) (position : Nat) (rest : List UInt8) :
    scanFrom none position (String.utf8EncodeChar c ++ rest)
      = .ok c :: scanFrom none (position + (String.utf8EncodeChar c).length) rest := by
  have hvalid : c.val.toNat.isValidChar := c.valid
  have hc : Char.ofNat c.val.toNat = c := Char.ofNat_toNat c
  unfold Nat.isValidChar at hvalid
  unfold String.utf8EncodeChar
  dsimp only
  split
  · rename_i h
    have hlt : UInt8.ofNat c.val.toNat < 0x80 := by
      rw [UInt8.lt_iff_toNat_lt, toNat_byte (by omega)]
      simp only [UInt8.reduceToNat]
      omega
    rw [List.singleton_append, scanFrom_ascii _ _ _ hlt, toNat_byte (by omega), hc]
    rfl
  · split
    · exact (scanFrom_two (by omega) (by omega)).trans (by rw [hc]; rfl)
    · split
      · exact (scanFrom_three (by omega) (by omega) (by omega)).trans (by rw [hc]; rfl)
      · exact (scanFrom_four (by omega) (by omega)).trans (by rw [hc]; rfl)

/-- The text of some characters is read back. -/
theorem scanFrom_encode_all (position : Nat) (cs : List Char) :
    scanFrom none position (cs.flatMap String.utf8EncodeChar) = cs.map Except.ok := by
  induction cs generalizing position with
  | nil => rfl
  | cons c cs ih => rw [List.flatMap_cons, scanFrom_encode, ih, List.map_cons]

/-! ## §3 Around an ASCII byte -/

/-- The character that an item is read as. -/
def charOf : Item → Char
  | .ok c => c
  | .error _ => '\uFFFD'

/-- The characters that bytes are read as. -/
def lossy (bs : List UInt8) : List Char := (scanFrom none 0 bs).map charOf

theorem toList_decodeLossy (bs : List UInt8) : (decodeLossy bs).toList = ofChars (lossy bs) := by
  rw [decodeLossy, String.toList_ofList, lossy]
  rfl

/-- What an open character waits for, and what it is made of so far. -/
def OpenChar.state (o : OpenChar) : Nat × (UInt8 × UInt8) × List (UInt8 × UInt8) :=
  (o.bits, o.next, o.later)

theorem state_openChar (position position' : Nat) (b : UInt8) :
    (openChar position b).map OpenChar.state = (openChar position' b).map OpenChar.state := by
  simp only [openChar]
  split
  · rfl
  · split
    · rfl
    · split <;> rfl

theorem state_firstByte (position position' : Nat) (b : UInt8) :
    (firstByte position b).1.map charOf = (firstByte position' b).1.map charOf ∧
      (firstByte position b).2.map OpenChar.state
        = (firstByte position' b).2.map OpenChar.state := by
  have hopen := state_openChar position position' b
  unfold firstByte
  split
  · exact ⟨rfl, rfl⟩
  · cases ho : openChar position b <;> cases ho' : openChar position' b <;> simp_all [charOf]

/-- Positions show in failures only. -/
theorem map_scanFrom_of_state {o o' : Option OpenChar} {position position' : Nat}
    {bs : List UInt8} (h : o.map OpenChar.state = o'.map OpenChar.state) :
    (scanFrom o position bs).map charOf = (scanFrom o' position' bs).map charOf := by
  induction bs generalizing o o' position position' with
  | nil => cases o <;> cases o' <;> first | rfl | cases h
  | cons b rest ih =>
    have hnone : (scanFrom none position (b :: rest)).map charOf
        = (scanFrom none position' (b :: rest)).map charOf := by
      obtain ⟨hitems, hnext⟩ := state_firstByte position position' b
      simp only [scanFrom, List.map_append]
      rw [hitems, ih hnext]
    cases o with
    | none =>
      cases o' with
      | none => exact hnone
      | some o' => cases h
    | some o =>
      cases o' with
      | none => cases h
      | some o' =>
        obtain ⟨start, bytes, bits, next, later⟩ := o
        obtain ⟨start', bytes', bits', next', later'⟩ := o'
        simp only [Option.map_some, OpenChar.state, Option.some.injEq, Prod.mk.injEq] at h
        obtain ⟨rfl, rfl, rfl⟩ := h
        by_cases hb : Within b next
        · cases later with
          | nil =>
            have hrest : ∀ position position' : Nat, (scanFrom none position rest).map charOf
                = (scanFrom none position' rest).map charOf := fun _ _ => ih rfl
            rw [scanFrom_last hb, scanFrom_last hb, List.map_cons, List.map_cons, hrest]
          | cons range later =>
            rw [scanFrom_inner hb, scanFrom_inner hb]
            exact ih rfl
        · rw [scanFrom_out hb, scanFrom_out hb, List.map_cons, List.map_cons, hnone]
          rfl

theorem map_scanFrom_none (position : Nat) (bs : List UInt8) :
    (scanFrom none position bs).map charOf = lossy bs := map_scanFrom_of_state rfl

/-- An open character waits for no ASCII byte. -/
def OpenChar.High (o : OpenChar) : Prop := ∀ range ∈ o.next :: o.later, 0x80 ≤ range.1.toNat

theorem high_openChar (h : openChar position b = some o) : o.High := by
  have hnarrow : ∀ lead low lead' high : UInt8, 0x80 ≤ low.toNat →
      0x80 ≤ (if b = lead then (low, 0xBF) else if b = lead' then (0x80, high)
        else anyContinuation).1.toNat := by
    intro lead low lead' high hlow
    split
    · exact hlow
    · split <;> exact Nat.le_refl _
  have hany : 0x80 ≤ anyContinuation.1.toNat := Nat.le_refl _
  unfold openChar at h
  split at h
  · cases h
    exact List.forall_mem_cons.mpr ⟨hany, fun _ h => nomatch h⟩
  · split at h
    · cases h
      exact List.forall_mem_cons.mpr ⟨hnarrow _ _ _ _ (by decide), by simp [hany]⟩
    · split at h
      · cases h
        exact List.forall_mem_cons.mpr ⟨hnarrow _ _ _ _ (by decide), by simp [hany]⟩
      · cases h

theorem high_firstByte : ∀ o ∈ (firstByte position b).2, o.High := by
  unfold firstByte
  split
  · exact fun _ h => nomatch h
  · split
    · exact fun _ h => nomatch h
    · rename_i o ho
      rintro _ ⟨⟩
      exact high_openChar ho

/-- **An ASCII byte stands for itself**, and what is on its sides is read apart. -/
theorem map_scanFrom_append_ascii {a : UInt8} (ha : a < 0x80) (cs : List UInt8) {bs : List UInt8}
    {o : Option OpenChar} {position : Nat} (ho : ∀ c ∈ o, c.High) :
    (scanFrom o position (bs ++ a :: cs)).map charOf
      = (scanFrom o position bs).map charOf ++ Char.ofNat a.toNat :: lossy cs := by
  induction bs generalizing o position with
  | nil =>
    have hnone : (scanFrom none position (a :: cs)).map charOf
        = Char.ofNat a.toNat :: lossy cs := by
      rw [scanFrom_ascii _ _ _ ha, List.map_cons, map_scanFrom_none]
      rfl
    cases o with
    | none => exact hnone
    | some o =>
      have hout : ¬Within a o.next := by
        have hhigh := ho o rfl o.next (List.mem_cons_self ..)
        have ha : a.toNat < 128 := UInt8.lt_iff_toNat_lt.mp ha
        rw [within_iff]
        omega
      rw [List.nil_append, scanFrom_out hout, List.map_cons, hnone]
      rfl
  | cons b rest ih =>
    have hnone : (scanFrom none position (b :: (rest ++ a :: cs))).map charOf
        = (scanFrom none position (b :: rest)).map charOf ++ Char.ofNat a.toNat :: lossy cs := by
      simp only [scanFrom, List.map_append, List.append_assoc, ih high_firstByte]
    rw [List.cons_append]
    cases o with
    | none => exact hnone
    | some o =>
      obtain ⟨start, bytes, bits, next, later⟩ := o
      by_cases hb : Within b next
      · cases later with
        | nil =>
          rw [scanFrom_last hb, scanFrom_last hb, List.map_cons, List.map_cons,
            ih (o := none) (by simp)]
          rfl
        | cons range later =>
          rw [scanFrom_inner hb, scanFrom_inner hb]
          refine ih ?_
          rintro _ ⟨⟩
          exact fun r hr => ho _ rfl r (List.mem_cons_of_mem _ hr)
      · rw [scanFrom_out hb, scanFrom_out hb, List.map_cons, List.map_cons, hnone]
        rfl

theorem lossy_append_ascii {a : UInt8} (ha : a < 0x80) (bs cs : List UInt8) :
    lossy (bs ++ a :: cs) = lossy bs ++ Char.ofNat a.toNat :: lossy cs :=
  map_scanFrom_append_ascii ha cs (by simp)

/-! ## §4 Where characters come from -/

theorem lossy_encode (cs : List Char) : lossy (cs.flatMap String.utf8EncodeChar) = cs := by
  rw [lossy, scanFrom_encode_all, List.map_map]
  exact List.map_id cs

theorem collect_of_not_mem : ∀ {items : List Item}, '\uFFFD' ∉ items.map charOf →
    collect items = .ok (items.map charOf)
  | [], _ => rfl
  | .error e :: rest, h => absurd (List.mem_cons_self ..) h
  | .ok c :: rest, h => by
    rw [collect, collect_of_not_mem fun hm => h (List.mem_cons_of_mem _ hm)]
    rfl

/-- Where nothing is replaced, the bytes are those of the text. -/
theorem eq_encode_of_lossy {bs : List UInt8} (h : '\uFFFD' ∉ lossy bs) :
    bs = (lossy bs).flatMap String.utf8EncodeChar :=
  (flatMap_of_collect (by simp) (collect_of_not_mem h)).symm

/-- The bytes of a character that is read are among those read. -/
theorem encode_subset_of_mem {c : Char} {bs : List UInt8} {o : Option OpenChar} {position : Nat}
    (ho : ∀ d ∈ o, d.Completes) (h : .ok c ∈ scanFrom o position bs) :
    String.utf8EncodeChar c ⊆ pending o ++ bs := by
  induction bs generalizing o position with
  | nil => cases o <;> simp [scanFrom] at h
  | cons b rest ih =>
    have hbehind : .ok c ∈ scanFrom none (position + 1) rest →
        String.utf8EncodeChar c ⊆ b :: rest := fun h =>
      List.Subset.trans (ih (o := none) (by simp) h) (List.subset_cons_self ..)
    have hnone : .ok c ∈ scanFrom none position (b :: rest) →
        String.utf8EncodeChar c ⊆ b :: rest := by
      intro h
      by_cases hb : b < 0x80
      · rw [scanFrom_ascii _ _ _ hb, List.mem_cons] at h
        rcases h with h | h
        · cases h
          rw [encode_one hb]
          simp
        · exact hbehind h
      · rw [scanFrom, firstByte, if_neg hb] at h
        cases hopen : openChar position b with
        | none =>
          rw [hopen] at h
          exact hbehind (by simpa using h)
        | some o =>
          rw [hopen] at h
          obtain ⟨hbytes, hcompletes⟩ := completes_openChar hopen
          have hsub := ih (o := some o) (by simpa using hcompletes) (by simpa using h)
          rwa [pending, hbytes] at hsub
    cases o with
    | none => exact hnone h
    | some o =>
      have hcompletes := ho o rfl
      obtain ⟨start, bytes, bits, next, later⟩ := o
      by_cases hb : Within b next
      · cases later with
        | nil =>
          rw [scanFrom_last hb, List.mem_cons] at h
          rcases h with h | h
          · cases h
            rw [hcompletes.last hb rfl]
            simp [pending]
          · exact List.Subset.trans (hbehind h) (List.subset_append_right ..)
        | cons range later =>
          rw [scanFrom_inner hb] at h
          have hsub := ih (by simpa using hcompletes.step hb rfl) h
          simpa [pending] using hsub
      · rw [scanFrom_out hb, List.mem_cons] at h
        exact List.Subset.trans (hnone (h.resolve_left (by simp))) (List.subset_append_right ..)

/-- An ASCII character comes from its byte. -/
theorem mem_of_mem_lossy {b : UInt8} (hb : b < 0x80) {bs : List UInt8}
    (h : Char.ofNat b.toNat ∈ lossy bs) : b ∈ bs := by
  obtain ⟨item, hitem, hc⟩ := List.mem_map.mp h
  cases item with
  | error e =>
    have hcode := congrArg Char.toNat hc
    have hlt : b.toNat < 128 := UInt8.lt_iff_toNat_lt.mp hb
    rw [toNat_ofNat (Or.inl (by omega))] at hcode
    have hmark : (charOf (.error e)).toNat = 0xFFFD := rfl
    omega
  | ok c =>
    obtain rfl : c = Char.ofNat b.toNat := hc
    have hsub := encode_subset_of_mem (by simp) hitem
    rw [encode_one hb] at hsub
    exact hsub (List.mem_singleton_self b)

end SchemaDoc.Text
