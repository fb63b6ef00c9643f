/-
SchemaDoc.Proofs.Uri.Percent — what is escaped is resolved again.

Escapes are read as UTF-8 within a run of ASCII, so what stands around one may
decide what it is read as. A slash keeps its two sides apart all the same: no
escape goes over it, and it ends every character that is being read
(`resolved_append_slash`). So a path can be resolved segment by segment.

§1 bytes, §2 runs, §3 around a slash, §4 texts without escapes, §5 names.
-/
import SchemaDoc.Proofs.Text.Spelled
import SchemaDoc.Proofs.Uri.Join
import SchemaDoc.Uri.Percent

namespace SchemaDoc.Uri

open Text

/-! ## §1 Bytes -/

theorem readHex?_hex (b : UInt8) : readHex? ((hex 2 b.toNat).map Char.toUpper) = some b.toNat := by
  have hall : ∀ n : Fin 256, readHex? ((hex 2 n).map Char.toUpper) = some n.val := by
    decide +kernel
  exact hall ⟨b.toNat, b.toNat_lt⟩

theorem unescapeBytes_of_ne {c : Char} (h : c ≠ '%') (rest : List Char) :
    unescapeBytes (c :: rest) = UInt8.ofNat c.toNat :: unescapeBytes rest := by
  rw [unescapeBytes]
  rintro a b rest rfl
  exact absurd rfl h

/-- A byte is read back, whatever follows. -/
theorem unescapeBytes_escapeByte (b : UInt8) (rest : List Char) :
    unescapeBytes (escapeByte b ++ rest) = b :: unescapeBytes rest := by
  unfold escapeByte
  split
  · rename_i hb
    simp only [isUnreserved, Bool.and_eq_true, decide_eq_true_eq] at hb
    have hlt : b.toNat < 128 := UInt8.lt_iff_toNat_lt.mp hb.1
    have hcode : (Char.ofNat b.toNat).toNat = b.toNat := toNat_ofNat (Or.inl (by omega))
    have hne : Char.ofNat b.toNat ≠ '%' := by
      intro he
      rw [he] at hb
      exact absurd hb.2 (by decide)
    rw [List.singleton_append, unescapeBytes_of_ne hne, hcode, UInt8.ofNat_toNat]
  · have hhex := readHex?_hex b
    simp only [hex, List.nil_append, List.map_cons, List.map_nil, List.cons_append] at hhex ⊢
    rw [unescapeBytes, hhex]
    simp only [UInt8.ofNat_toNat]

theorem unescapeBytes_escape (bs : List UInt8) : unescapeBytes (bs.flatMap escapeByte) = bs := by
  induction bs with
  | nil => rfl
  | cons b rest ih => rw [List.flatMap_cons, unescapeBytes_escapeByte, ih]

/-- No escape goes over a slash. -/
theorem unescapeBytes_append_slash (s t : List Char) :
    unescapeBytes (s ++ '/' :: t) = unescapeBytes s ++ 0x2F :: unescapeBytes t := by
  have hslash : unescapeBytes ('/' :: t) = 0x2F :: unescapeBytes t :=
    unescapeBytes_of_ne (by decide) t
  have hdigit : ∀ d, readHex? [d, '/'] = none := by
    intro d
    simp only [readHex?, List.foldl_cons, List.foldl_nil]
    cases hexValue? d <;> rfl
  fun_induction unescapeBytes s with
  | case1 a b rest n hn ih =>
    simp only [List.cons_append] at ih ⊢
    rw [unescapeBytes, hn]
    simp only [ih]
  | case2 a b rest hn ih =>
    simp only [List.cons_append] at ih ⊢
    rw [unescapeBytes, hn]
    simp only [ih]
  | case3 c rest hno ih =>
    rw [List.cons_append]
    by_cases hc : c = '%'
    · subst hc
      match rest, ih with
      | [], _ =>
        cases t with
        | nil => rfl
        | cons d t =>
          have hd : readHex? ['/', d] = none := rfl
          rw [List.nil_append, unescapeBytes, hd]
          simp only [hslash]
          rfl
      | [d], ih =>
        rw [List.singleton_append] at ih ⊢
        rw [unescapeBytes, hdigit]
        simp only [ih, List.cons_append]
      | a :: b :: rest, _ => exact absurd rfl (hno a b rest rfl)
    · rw [unescapeBytes_of_ne hc, ih]
      rfl
  | case4 => exact hslash

/-! ## §2 Runs -/

/-- The text of a run with its escapes resolved. -/
def runText (run : Bool × List Char) : List Char :=
  if run.1 then ofChars (lossy (unescapeBytes run.2)) else run.2

/-- A text with its escapes resolved. -/
def resolved (s : List Char) : List Char := (asciiRuns s).flatMap runText

theorem toList_unescape (s : String) : (unescape s).toList = resolved s.toList := by
  have hempty : ∀ texts : List (List Char), ([] : List Char).intercalate texts = texts.flatten := by
    intro texts
    induction texts with
    | nil => rfl
    | cons text rest ih =>
      cases rest with
      | nil => simp
      | cons next rest => rw [List.intercalate_cons_cons, ih]; simp
  rw [unescape, String.toList_intercalate, String.toList_empty, hempty, List.map_map, resolved,
    List.flatMap_def]
  congr 1
  refine List.map_congr_left fun run _ => ?_
  obtain ⟨ascii, run⟩ := run
  cases ascii with
  | false => simp [runText]
  | true => simp [runText, toList_decodeLossy]

/-- ASCII characters are one run. -/
theorem asciiRuns_ascii {s : List Char} (hne : s ≠ []) (h : ∀ c ∈ s, isAscii c = true) :
    asciiRuns s = [(true, s)] := by
  induction s with
  | nil => exact absurd rfl hne
  | cons c rest ih =>
    obtain ⟨hc, hrest⟩ := List.forall_mem_cons.mp h
    cases rest with
    | nil => simp [asciiRuns, hc]
    | cons d rest => rw [asciiRuns, ih (List.cons_ne_nil _ _) hrest]; simp [hc]

theorem resolved_ascii {s : List Char} (h : ∀ c ∈ s, isAscii c = true) :
    resolved s = ofChars (lossy (unescapeBytes s)) := by
  cases s with
  | nil => rfl
  | cons c rest => simp [resolved, asciiRuns_ascii (List.cons_ne_nil c rest) h, runText]

theorem runText_nil (ascii : Bool) : runText (ascii, []) = [] := by
  cases ascii <;> rfl

/-- The run that a character starts or goes on with. -/
theorem exists_asciiRuns_cons (c : Char) (s : List Char) : ∃ run runs,
    asciiRuns (c :: s) = (isAscii c, c :: run) :: runs ∧
      resolved s = runText (isAscii c, run) ++ runs.flatMap runText ∧ run <+: s := by
  have hflat : ∀ s : List Char, (asciiRuns s).flatMap (·.2) = s := by
    intro s
    induction s with
    | nil => rfl
    | cons c rest ih =>
      rw [asciiRuns]
      cases h : asciiRuns rest with
      | nil =>
        rw [h] at ih
        simpa using ih
      | cons first runs =>
        rw [h] at ih
        obtain ⟨kind, run⟩ := first
        dsimp only
        split <;> simpa using ih
  have hs := hflat s
  rw [asciiRuns, resolved]
  cases hr : asciiRuns s with
  | nil => exact ⟨[], [], rfl, by simp [runText_nil], List.nil_prefix⟩
  | cons first runs =>
    obtain ⟨kind, run⟩ := first
    by_cases hk : kind = isAscii c
    · subst hk
      rw [hr] at hs
      exact ⟨run, runs, by simp, rfl, ⟨runs.flatMap (·.2), by simpa using hs⟩⟩
    · exact ⟨[], (kind, run) :: runs, by simp [hk], by simp [runText_nil], List.nil_prefix⟩

/-! ## §3 Around a slash -/

/-- The run of a slash takes up the ASCII characters before it, and no others. -/
theorem exists_asciiRuns_append {t run : List Char} {runs : List (Bool × List Char)}
    (ht : asciiRuns ('/' :: t) = (true, '/' :: run) :: runs) : ∀ s : List Char, ∃ before last,
      asciiRuns s = before ++ (if last.isEmpty then [] else [(true, last)]) ∧
        asciiRuns (s ++ '/' :: t) = before ++ (true, last ++ '/' :: run) :: runs
  | [] => ⟨[], [], rfl, ht⟩
  | c :: s => by
    obtain ⟨before, last, hs, hst⟩ := exists_asciiRuns_append ht s
    rw [List.cons_append, asciiRuns, asciiRuns, hs, hst]
    cases before with
    | nil =>
      cases hc : isAscii c with
      | true =>
        refine ⟨[], c :: last, ?_, by simp⟩
        cases last <;> simp
      | false =>
        refine ⟨[(false, [c])], last, ?_, by simp⟩
        cases last <;> simp
    | cons first before =>
      obtain ⟨kind, text⟩ := first
      by_cases hk : kind = isAscii c
      · exact ⟨(kind, c :: text) :: before, last, by simp [hk], by simp [hk]⟩
      · exact ⟨(isAscii c, [c]) :: (kind, text) :: before, last, by simp [hk], by simp [hk]⟩

theorem ofChars_append (cs ds : List Char) : ofChars (cs ++ ds) = ofChars cs ++ ofChars ds :=
  List.flatMap_append

/-- **A slash keeps its sides apart.** -/
theorem resolved_append_slash (s t : List Char) :
    resolved (s ++ '/' :: t) = resolved s ++ '/' :: resolved t := by
  obtain ⟨run, runs, hslash, ht, -⟩ := exists_asciiRuns_cons '/' t
  have hascii : runText (isAscii '/', run) = ofChars (lossy (unescapeBytes run)) := rfl
  rw [hascii] at ht
  obtain ⟨before, last, hs, hst⟩ := exists_asciiRuns_append hslash s
  have hlast : (if last.isEmpty then [] else [(true, last)]).flatMap runText
      = ofChars (lossy (unescapeBytes last)) := by
    cases last <;> simp [runText, lossy, scanFrom, ofChars]
  have hrun : runText (true, last ++ '/' :: run)
      = ofChars (lossy (unescapeBytes last)) ++ '/' :: ofChars (lossy (unescapeBytes run)) := by
    have hbyte : (0x2F : UInt8) < 0x80 := by decide
    have hspell : ofChars ['/'] = ['/'] := by decide
    rw [runText, if_pos rfl, unescapeBytes_append_slash, lossy_append_ascii hbyte, ofChars_append]
    congr 1
  rw [resolved, resolved, hs, hst, ht, List.flatMap_append, List.flatMap_append, List.flatMap_cons,
    hlast, hrun]
  simp

theorem resolved_intercalate : ∀ segments : List (List Char),
    resolved (['/'].intercalate segments) = ['/'].intercalate (segments.map resolved)
  | [] => rfl
  | [s] => by simp
  | s :: next :: rest => by
    rw [List.intercalate_cons_cons, List.append_assoc, List.singleton_append,
      resolved_append_slash, resolved_intercalate (next :: rest)]
    simp [List.intercalate_cons_cons]

/-! ## §4 Texts without escapes -/

/-- A text has a percent sign with two digits behind it. -/
def hasEscape : List Char → Bool
  | '%' :: a :: b :: rest => (readHex? [a, b]).isSome || hasEscape (a :: b :: rest)
  | _ :: rest => hasEscape rest
  | [] => false

theorem hasEscape_cons {c : Char} {s : List Char} (h : hasEscape (c :: s) = false) :
    hasEscape s = false ∧ ∀ a b rest, c = '%' → s = a :: b :: rest → readHex? [a, b] = none := by
  by_cases hc : ∃ a b rest, c = '%' ∧ s = a :: b :: rest
  · obtain ⟨a, b, rest, rfl, rfl⟩ := hc
    rw [hasEscape, Bool.or_eq_false_iff, Option.isSome_eq_false_iff, Option.isNone_iff_eq_none] at h
    refine ⟨h.2, ?_⟩
    rintro _ _ _ - ⟨⟩
    exact h.1
  · refine ⟨?_, fun a b rest hp hs => absurd ⟨a, b, rest, hp, hs⟩ hc⟩
    rwa [hasEscape] at h
    rintro a b rest rfl rfl
    exact hc ⟨a, b, rest, rfl, rfl⟩

/-- A percent sign without two digits behind it stands for itself. -/
theorem unescapeBytes_cons {c : Char} {s : List Char}
    (h : ∀ a b rest, c = '%' → s = a :: b :: rest → readHex? [a, b] = none) :
    unescapeBytes (c :: s) = UInt8.ofNat c.toNat :: unescapeBytes s := by
  by_cases hc : c = '%'
  · subst hc
    match s, h with
    | [], _ => rfl
    | [_], _ => rfl
    | a :: b :: rest, h =>
      rw [unescapeBytes, h a b rest rfl rfl]
  · exact unescapeBytes_of_ne hc s

/-- **A text without escapes stands for itself.** -/
theorem resolved_of_not_hasEscape : ∀ {s : List Char}, hasEscape s = false → resolved s = s
  | [], _ => rfl
  | c :: s, h => by
    obtain ⟨hs, hc⟩ := hasEscape_cons h
    obtain ⟨run, runs, hruns, hrest, hprefix⟩ := exists_asciiRuns_cons c s
    have ih := resolved_of_not_hasEscape hs
    have hcons : runText (isAscii c, c :: run) = c :: runText (isAscii c, run) := by
      cases ha : isAscii c with
      | false => rfl
      | true =>
        have ha : c.toNat < 128 := by simpa [isAscii] using ha
        have hbyte : UInt8.ofNat c.toNat < 0x80 := by
          rw [UInt8.lt_iff_toNat_lt, toNat_byte (by omega)]
          exact ha
        have hrun : unescapeBytes (c :: run) = UInt8.ofNat c.toNat :: unescapeBytes run := by
          refine unescapeBytes_cons ?_
          rintro a b rest hp rfl
          obtain ⟨behind, rfl⟩ := hprefix
          exact hc a b (rest ++ behind) hp rfl
        have hlossy : lossy (UInt8.ofNat c.toNat :: unescapeBytes run)
            = c :: lossy (unescapeBytes run) := by
          have := lossy_append_ascii hbyte [] (unescapeBytes run)
          rwa [toNat_byte (by omega), Char.ofNat_toNat] at this
        have hspell : ofChars [c] = [c] := ofChars_ascii (by simpa using ha)
        have hsplit : ofChars (c :: lossy (unescapeBytes run))
            = ofChars [c] ++ ofChars (lossy (unescapeBytes run)) := ofChars_append [c] _
        rw [runText, if_pos rfl, hrun, hlossy, hsplit, hspell]
        rfl
    rw [resolved, hruns, List.flatMap_cons, hcons, List.cons_append, ← hrest, ih]

/-! ## §5 Names -/

/-- A name of a file as it stands in a URI. -/
def escaped (name : String) : List Char := (encodeName name).flatMap escapeByte

theorem isAscii_of_isNameChar {c : Char} (h : isNameChar c = true) : isAscii c = true := by
  simp only [isNameChar, Char.isAlphanum] at h
  delta Char.isAlpha Char.isUpper Char.isLower Char.isDigit at h
  simp only [Bool.or_eq_true, Bool.and_eq_true, decide_eq_true_eq, beq_iff_eq, ge_iff_le,
    UInt32.le_iff_toNat_le] at h
  simp only [isAscii, decide_eq_true_eq, Char.toNat]
  rcases h with (((((((h | h) | h) | h) | h) | h) | h) | h)
  all_goals first | (subst h; decide) | skip
  all_goals (obtain ⟨-, h⟩ := h; exact Nat.lt_of_le_of_lt h (by decide))

/-- A slash is written for a slash alone. -/
theorem slash_mem_escapeByte {b : UInt8} (h : '/' ∈ escapeByte b) : b = 0x2F := by
  by_contra hne
  unfold escapeByte at h
  split at h
  · rename_i hb
    simp only [isUnreserved, Bool.and_eq_true, decide_eq_true_eq] at hb
    have hlt : b.toNat < 128 := UInt8.lt_iff_toNat_lt.mp hb.1
    have hcode : (Char.ofNat b.toNat).toNat = b.toNat := toNat_ofNat (Or.inl (by omega))
    rw [← List.mem_singleton.mp h] at hcode
    exact hne (UInt8.toNat_inj.mp hcode.symm)
  · have hdigit : ∀ n : Fin 16, (hexDigit n).toUpper ≠ '/' := by decide
    simp only [hex, List.nil_append, List.map_append, List.map_cons, List.map_nil, List.mem_cons,
      List.mem_append, List.not_mem_nil, or_false] at h
    rcases h with h | h | h
    · exact absurd h (by decide)
    · exact hdigit ⟨_, Nat.mod_lt _ (by decide)⟩ h.symm
    · exact hdigit ⟨_, Nat.mod_lt _ (by decide)⟩ h.symm

end SchemaDoc.Uri

namespace SchemaDoc.Path

/-- A name that leads one step down a tree. -/
structure Down (name : String) : Prop where
  isName : Text.IsName name.toList
  ne_empty : name ≠ ""
  unbroken : '/' ∉ name.toList
  not_dot : name ≠ "."
  not_doubleDot : name ≠ ".."

end SchemaDoc.Path

namespace SchemaDoc.Uri

open Text

variable {name : String}

/-- A segment that leads out of no directory, neither as it is written nor with its escapes
resolved. -/
structure Inward (s : List Char) : Prop where
  chars : ∀ c ∈ s, isPathChar c = true ∧ c ≠ '/'
  not_doubleDot : isDoubleDot s = false
  unbroken : '/' ∉ resolved s
  not_up : resolved s ≠ ['.', '.']
  resolved_ne_nil : s ≠ [] → resolved s ≠ []

theorem inward_of_not_hasEscape {s : List Char} (hchars : ∀ c ∈ s, isPathChar c = true ∧ c ≠ '/')
    (hup : isDoubleDot s = false) (h : hasEscape s = false) : Inward s := by
  have hs := resolved_of_not_hasEscape h
  refine ⟨hchars, hup, ?_, ?_, ?_⟩ <;> rw [hs]
  · exact fun hm => (hchars _ hm).2 rfl
  · rintro rfl
    cases hup
  · exact id

theorem slash_mem_of_mem_escaped (hn : IsName name.toList) (h : '/' ∈ escaped name) :
    '/' ∈ name.toList := by
  obtain ⟨b, hb, hslash⟩ := List.mem_flatMap.mp h
  rw [slash_mem_escapeByte hslash] at hb
  exact hn.mem_of_mem_encodeName (by decide) hb

/-- The text of a name that is written as ASCII bytes. -/
theorem toList_of_encodeName (hn : IsName name.toList) {bs : List UInt8} (h : encodeName name = bs)
    (hbs : ∀ b ∈ bs, b < 0x80) : name.toList = bs.map fun b => Char.ofNat b.toNat := by
  rw [hn.toList_of_ascii (h ▸ hbs), h]

theorem isNameChar_of_mem_escaped (hn : Path.Down name) :
    ∀ c ∈ escaped name, isNameChar c = true := fun _ hc =>
  (isNameChar_of_mem_escape hc).resolve_right fun he =>
    hn.unbroken (slash_mem_of_mem_escaped hn.isName (he ▸ hc))

theorem encodeName_ne_nil (hn : Path.Down name) : encodeName name ≠ [] := fun h =>
  hn.ne_empty (String.toList_inj.mp (toList_of_encodeName hn.isName h nofun))

/-- A name is written as a segment that names something. -/
theorem names_escaped (hn : Path.Down name) : Names (escaped name) := by
  have hback : ∀ s, escaped name = s → encodeName name = unescapeBytes s := by
    rintro s rfl
    exact (unescapeBytes_escape _).symm
  have hneither : ∀ s : String,
      s.toList = (unescapeBytes s.toList).map (fun b => Char.ofNat b.toNat) →
      (unescapeBytes s.toList).all (· < 0x80) = true → name ≠ s → escaped name ≠ s.toList := by
    intro s hs hascii hne he
    have htext := toList_of_encodeName hn.isName (hback _ he) fun b hb => by
      simpa using List.all_eq_true.mp hascii b hb
    exact hne (String.toList_inj.mp (htext.trans hs.symm))
  refine ⟨hneither "" rfl (by decide) hn.ne_empty, fun h =>
    hn.unbroken (slash_mem_of_mem_escaped hn.isName h), ?_, ?_⟩
  · have := hneither "." (by decide) (by decide) hn.not_dot
    simpa [isDot] using this
  · have := hneither ".." (by decide) (by decide) hn.not_doubleDot
    simpa [isDoubleDot] using this

theorem resolved_escaped (hn : Path.Down name) :
    resolved (escaped name) = ofChars (lossy (encodeName name)) := by
  rw [resolved_ascii fun c hc => isAscii_of_isNameChar (isNameChar_of_mem_escaped hn c hc), escaped,
    unescapeBytes_escape]

theorem inward_escaped (hn : Path.Down name) : Inward (escaped name) where
  chars c hc := ⟨isPathChar_of_isNameChar (isNameChar_of_mem_escaped hn c hc),
    fun he => (names_escaped hn).unbroken (he ▸ hc)⟩
  not_doubleDot := (names_escaped hn).not_doubleDot
  unbroken h := by
    rw [resolved_escaped hn] at h
    have hm : Char.ofNat (0x2F : UInt8).toNat ∈ lossy (encodeName name) :=
      mem_of_mem_ofChars (c := '/') (by decide) h
    exact hn.unbroken (hn.isName.mem_of_mem_encodeName (by decide) (mem_of_mem_lossy (by decide) hm))
  not_up h := by
    rw [resolved_escaped hn] at h
    have hdots : lossy (encodeName name) = ['.', '.'] := ofChars_inj.mp (h.trans (by decide))
    have hbytes : encodeName name = [0x2E, 0x2E] := by
      have hkept : '\uFFFD' ∉ lossy (encodeName name) := by
        rw [hdots]
        decide
      rw [eq_encode_of_lossy hkept, hdots]
      decide
    have hascii : ∀ b ∈ ([0x2E, 0x2E] : List UInt8), b < 0x80 := by simp
    exact hn.not_doubleDot (String.toList_inj.mp (toList_of_encodeName hn.isName hbytes hascii))
  resolved_ne_nil _ h := by
    rw [resolved_escaped hn] at h
    have hnil : lossy (encodeName name) = [] := ofChars_inj.mp (h.trans rfl)
    have hkept : '\uFFFD' ∉ lossy (encodeName name) := by
      rw [hnil]
      decide
    have hbytes := eq_encode_of_lossy hkept
    rw [hnil] at hbytes
    exact encodeName_ne_nil hn hbytes

/-- **A name of characters is read back.** -/
theorem resolved_escaped_chars (hn : Path.Down name) {cs : List Char}
    (h : name.toList = ofChars cs) : resolved (escaped name) = name.toList := by
  have hbytes : encodeName name = cs.flatMap String.utf8EncodeChar := by
    rw [encodeName_eq, h, codes_ofChars, List.flatMap_map]
    refine List.flatMap_congr fun c _ => ?_
    have hcode := isCode_toNat c
    have hvalid : c.toNat.isValidChar := c.valid
    have hbyte : ¬standsForByte c.toNat = true := by
      simp only [standsForByte, Bool.and_eq_true, decide_eq_true_eq]
      unfold Nat.isValidChar at hvalid
      omega
    rw [nameBytes, if_neg hbyte, encodeCode_toNat]
  rw [resolved_escaped hn, hbytes, lossy_encode, h]

end SchemaDoc.Uri
