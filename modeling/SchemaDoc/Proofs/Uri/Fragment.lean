/-
SchemaDoc.Proofs.Uri.Fragment — references into the document they stand in.

A reference that is only a fragment keeps everything of its base but the
fragment. What joining gives is the base put together again from its parts,
and that is not always the base as it was written: a path behind an empty
authority that itself starts like an authority is read as one from then on.
After the first reference the URI is settled.

§1 characters, §2 URIs of files taken apart, §3 joining, §4 the URI of a path.
-/
import SchemaDoc.Proofs.Failing
import SchemaDoc.Proofs.Files.Path
import SchemaDoc.Proofs.Text.Cut
import SchemaDoc.Reference.Expand

namespace SchemaDoc.Uri

/-! ## §1 Characters -/

/-- A character that an authority made from names can hold. -/
def isNameChar (c : Char) : Bool :=
  c.isAlphanum || c == '_' || c == '.' || c == '-' || c == '~' || c == '%'

/-- A character that does not end a path and is not dropped. -/
def isPathChar (c : Char) : Bool := c != '?' && c != '#' && !isDropped c

theorem isNameChar_of_hexDigit {n : Nat} (h : n < 16) :
    isNameChar (Text.hexDigit n).toUpper = true := by
  have : ∀ m : Fin 16, isNameChar (Text.hexDigit m).toUpper = true := by decide
  exact this ⟨n, h⟩

/-- A byte of a path is written with such characters and slashes. -/
theorem isNameChar_of_mem_escapeByte {b : UInt8} {c : Char} (h : c ∈ escapeByte b) :
    isNameChar c = true ∨ c = '/' := by
  unfold escapeByte at h
  split at h
  · rename_i hb
    simp only [List.mem_singleton] at h
    subst h
    simp only [isUnreserved, Bool.and_eq_true, Bool.or_eq_true, beq_iff_eq] at hb
    simp only [isNameChar, Bool.or_eq_true, beq_iff_eq]
    obtain ⟨-, hb⟩ := hb
    rcases hb with hb | hb
    · exact Or.inl (Or.inl hb)
    · exact Or.inr hb
  · simp only [Text.hex, List.nil_append, List.map_append, List.map_cons, List.map_nil,
      List.mem_cons, List.mem_append, List.not_mem_nil, or_false] at h
    rcases h with rfl | rfl | rfl
    · exact Or.inl (by decide)
    · exact Or.inl (isNameChar_of_hexDigit (Nat.mod_lt _ (by decide)))
    · exact Or.inl (isNameChar_of_hexDigit (Nat.mod_lt _ (by decide)))

theorem isNameChar_of_mem_escape {bs : List UInt8} {c : Char} (h : c ∈ bs.flatMap escapeByte) :
    isNameChar c = true ∨ c = '/' := by
  obtain ⟨b, -, hb⟩ := List.mem_flatMap.mp h
  exact isNameChar_of_mem_escapeByte hb

/-- A character of a name is none with a meaning in a URI. -/
theorem ne_of_isNameChar {c d : Char} (h : isNameChar c = true) (hd : isNameChar d = false) :
    c ≠ d := by
  rintro rfl
  rw [h] at hd
  cases hd

/-! ## §2 URIs of files taken apart -/

/-- The scheme of files. -/
def fileScheme : List Char := ['f', 'i', 'l', 'e']

/-- A fragment with its mark, which an empty one has not. -/
def marked (fragment : List Char) : List Char :=
  if fragment.isEmpty then [] else '#' :: fragment

/-- The parts of a file's URI: the authority is made of names, and the path is empty or starts at
the root. -/
structure FileParts (authority path : List Char) : Prop where
  names : ∀ c ∈ authority, isNameChar c = true
  unbroken : ∀ c ∈ path, isPathChar c = true
  rooted : path = [] ∨ path.head? = some '/'

theorem isPathChar_of_isNameChar {c : Char} (h : isNameChar c = true) : isPathChar c = true := by
  simp only [isPathChar, isDropped, Bool.and_eq_true, bne_iff_ne, Bool.not_eq_true',
    Bool.or_eq_false_iff, beq_eq_false_iff_ne]
  exact ⟨⟨ne_of_isNameChar h (by decide), ne_of_isNameChar h (by decide)⟩,
    ⟨ne_of_isNameChar h (by decide), ne_of_isNameChar h (by decide)⟩,
    ne_of_isNameChar h (by decide)⟩

theorem not_isDropped_of_isPathChar {c : Char} (h : isPathChar c = true) : isDropped c = false := by
  simp only [isPathChar, Bool.and_eq_true, Bool.not_eq_true'] at h
  exact h.2

/-- The part before a fragment and the fragment are found again. -/
theorem cutOnce_marked {s : List Char} (h : '#' ∉ s) (fragment : List Char) :
    (Text.cutOnce '#' (s ++ marked fragment)).1 = s ∧
      (Text.cutOnce '#' (s ++ marked fragment)).2.getD [] = fragment := by
  cases fragment with
  | nil => simp [marked, Text.cutOnce_of_not_mem h]
  | cons c rest => simp [marked, Text.cutOnce_append h]

/-- The text of a file's URI with a fragment. -/
def fileText (authority path fragment : List Char) : List Char :=
  fileScheme ++ ':' :: '/' :: '/' :: (authority ++ (path ++ marked fragment))

theorem endsAuthority_of_isNameChar {c : Char} (h : isNameChar c = true) :
    endsAuthority c = false := by
  simp only [endsAuthority, Bool.or_eq_false_iff, beq_eq_false_iff_ne]
  exact ⟨⟨ne_of_isNameChar h (by decide), ne_of_isNameChar h (by decide)⟩,
    ne_of_isNameChar h (by decide)⟩

/-- An authority goes up to the path or the fragment. -/
theorem takeWhile_authority {authority path : List Char} (h : FileParts authority path)
    (fragment : List Char) :
    (authority ++ (path ++ marked fragment)).takeWhile (!endsAuthority ·) = authority ∧
      (authority ++ (path ++ marked fragment)).dropWhile (!endsAuthority ·)
        = path ++ marked fragment := by
  have hnames : ∀ c ∈ authority, (!endsAuthority c) = true := fun c hc => by
    rw [endsAuthority_of_isNameChar (h.names c hc)]
    rfl
  have hrest : (path ++ marked fragment).takeWhile (!endsAuthority ·) = [] ∧
      (path ++ marked fragment).dropWhile (!endsAuthority ·) = path ++ marked fragment := by
    rcases h.rooted with rfl | hr
    · cases fragment with
      | nil => exact ⟨rfl, rfl⟩
      | cons c rest => exact ⟨rfl, rfl⟩
    · cases path with
      | nil => cases hr
      | cons c rest =>
        cases Option.some.inj hr
        exact ⟨rfl, rfl⟩
  rw [List.takeWhile_append_of_pos hnames, List.dropWhile_append_of_pos hnames, hrest.1, hrest.2,
    List.append_nil]
  exact ⟨rfl, rfl⟩

/-- Names have no brackets, and no character that turns into a delimiter. -/
theorem problem?_of_names {authority : List Char} (h : ∀ c ∈ authority, isNameChar c = true) :
    bracketProblem? authority = none ∧ characterProblem? authority = none := by
  have hnone : ∀ d, isNameChar d = false → authority.contains d = false := by
    intro d hd
    rw [List.contains_eq_mem, decide_eq_false_iff_not]
    exact fun hm => ne_of_isNameChar (h d hm) hd rfl
  have hunstable : unstable.all (!isNameChar ·) = true := by decide +kernel
  have hany : authority.any unstable.contains = false := by
    rw [List.any_eq_false]
    intro c hc hu
    rw [List.contains_eq_mem, decide_eq_true_eq] at hu
    have hc' := List.all_eq_true.mp hunstable c hu
    rw [h c hc] at hc'
    cases hc'
  constructor
  · rw [bracketProblem?, hnone '[' (by decide), hnone ']' (by decide)]
    rfl
  · rw [characterProblem?, hany]
    rfl

theorem cutScheme_file (fallback rest : List Char) :
    cutScheme fallback (fileScheme ++ ':' :: rest) = (fileScheme, rest) := by
  rw [cutScheme, Text.cutOnce_append (by decide)]
  rfl

/-- Nothing is dropped from a file's URI. -/
theorem filter_fileText {authority path fragment : List Char} (h : FileParts authority path)
    (hf : ∀ c ∈ fragment, isDropped c = false) :
    ((fileText authority path fragment).dropWhile isLeading).filter (!isDropped ·)
      = fileText authority path fragment := by
  show (fileText authority path fragment).filter (!isDropped ·) = _
  rw [List.filter_eq_self]
  have hmarked : ∀ c ∈ marked fragment, isDropped c = false := by
    intro c hc
    unfold marked at hc
    split at hc
    · cases hc
    · rcases List.mem_cons.mp hc with rfl | hc
      · decide
      · exact hf c hc
  have hstart : (fileScheme ++ [':', '/', '/']).all (!isDropped ·) = true := by decide +kernel
  intro c hc
  have hc : c ∈ fileScheme ++ [':', '/', '/'] ∨ c ∈ authority ∨ c ∈ path ∨ c ∈ marked fragment := by
    simpa [fileText, fileScheme, or_assoc] using hc
  have hfalse : isDropped c = false := by
    rcases hc with hc | hc | hc | hc
    · simpa using List.all_eq_true.mp hstart c hc
    · exact not_isDropped_of_isPathChar (isPathChar_of_isNameChar (h.names c hc))
    · exact not_isDropped_of_isPathChar (h.unbroken c hc)
    · exact hmarked c hc
  rw [hfalse]
  rfl

theorem not_mem_of_isPathChar {path : List Char} (h : ∀ c ∈ path, isPathChar c = true) :
    '#' ∉ path ∧ '?' ∉ path :=
  ⟨fun hm => absurd (h '#' hm) (by decide), fun hm => absurd (h '?' hm) (by decide)⟩

/-- Without a fragment there is no mark of one. -/
theorem not_mem_fileText {authority path : List Char} (h : FileParts authority path) :
    '#' ∉ fileText authority path [] := by
  simp only [fileText, fileScheme, marked, List.isEmpty_nil, if_true, List.append_nil,
    List.mem_append, List.mem_cons, List.not_mem_nil, or_false, not_or]
  refine ⟨by decide, by decide, by decide, by decide, fun hm => ?_,
    (not_mem_of_isPathChar h.unbroken).1⟩
  exact absurd (h.names '#' hm) (by decide)

/-- The URI of a file has the parts that it was made from. -/
theorem splitWith_fileText {authority path fragment : List Char} (h : FileParts authority path)
    (hf : ∀ c ∈ fragment, isDropped c = false) (scheme : List Char) :
    splitWith scheme (fileText authority path fragment)
      = .ok ⟨fileScheme, authority, path, [], fragment⟩ := by
  obtain ⟨htake, hdrop⟩ := takeWhile_authority h fragment
  obtain ⟨hbracket, hcharacter⟩ := problem?_of_names h.names
  obtain ⟨hhash, hquery⟩ := not_mem_of_isPathChar h.unbroken
  obtain ⟨hbefore, hfragment⟩ := cutOnce_marked hhash fragment
  rw [splitWith, filter_fileText h hf, fileText]
  simp only [cutScheme_file, htake, hdrop, hbefore, hfragment, Text.cutOnce_of_not_mem hquery, hbracket,
    hcharacter, Option.getD_none]

/-! ## §3 Joining -/

/-- The parts of a file's URI that joining leaves as they are: without an authority, the path does
not start as one. -/
structure Settled (authority path : List Char) : Prop extends FileParts authority path where
  plain : authority = [] → ['/', '/'].isPrefixOf path = false

/-- A rooted path is written behind its authority as it is. -/
theorem rooted_path {path : List Char} (h : path = [] ∨ path.head? = some '/') :
    (if (!path.isEmpty && path.head? != some '/') = true then '/' :: path else path) = path := by
  rcases h with rfl | h
  · rfl
  · rw [h]
    simp

theorem toList_settled {authority path : List Char} (h : Settled authority path)
    (fragment : List Char) :
    (Parts.mk fileScheme authority path [] fragment).toList = fileText authority path fragment := by
  have hbody : (!authority.isEmpty || (!fileScheme.isEmpty && schemeIn authoritySchemes fileScheme
      && !(['/', '/'].isPrefixOf path))) = true := by
    cases authority with
    | nil => rw [h.plain rfl]; decide
    | cons c rest => rfl
  simp only [Parts.toList, hbody, if_true, rooted_path h.rooted]
  simp [fileScheme, fileText, marked]

/-- A reference that is a fragment has no other part. -/
theorem splitWith_fragment {fragment : List Char} (hf : ∀ c ∈ fragment, isDropped c = false)
    (scheme : List Char) :
    splitWith scheme ('#' :: fragment) = .ok ⟨scheme, [], [], [], fragment⟩ := by
  have hfilter : (('#' :: fragment).dropWhile isLeading).filter (!isDropped ·) = '#' :: fragment := by
    show ('#' :: fragment).filter (!isDropped ·) = _
    rw [List.filter_eq_self]
    intro c hc
    rcases List.mem_cons.mp hc with rfl | hc
    · rfl
    · rw [hf c hc]
      rfl
  have hscheme : cutScheme scheme ('#' :: fragment) = (scheme, '#' :: fragment) := by
    unfold cutScheme
    split
    · rename_i before rest hcut
      have hstart : before.head? = some '#' := by
        obtain ⟨heq, -⟩ := Text.eq_of_cutOnce hcut
        cases before with
        | nil => simp at heq
        | cons c before =>
          obtain ⟨rfl, -⟩ := List.cons.inj heq
          rfl
      rw [hstart]
      rfl
    · rfl
  rw [splitWith, hfilter]
  simp only [hscheme]
  rfl

/-- A reference that is a fragment takes all its other parts from the base. -/
theorem joinList_fragment {authority path fragment : List Char} (h : FileParts authority path)
    (hf : ∀ c ∈ fragment, isDropped c = false) :
    joinList (fileText authority path []) ('#' :: fragment)
      = .ok (Parts.mk fileScheme authority path [] fragment).toList := by
  have hbase : split (fileText authority path []) = .ok ⟨fileScheme, authority, path, [], []⟩ :=
    splitWith_fileText h (by simp) []
  have hparameters : ∀ p : List Char, cutParameters fileScheme p = (p, []) := fun p => rfl
  have hkeep : ∀ p : List Char, withParameters p [] = p := fun p => rfl
  rw [joinList, if_neg (by simp [fileText, fileScheme]), if_neg (by simp), hbase, ok_bind]
  simp only [splitWith_fragment hf, ok_bind, hparameters, hkeep]
  rfl

/-- A settled URI is left as it is by references that are fragments. -/
theorem joinList_settled {authority path fragment : List Char} (h : Settled authority path)
    (hf : ∀ c ∈ fragment, isDropped c = false) :
    joinList (fileText authority path []) ('#' :: fragment)
      = .ok (fileText authority path fragment) := by
  rw [joinList_fragment h.toFileParts hf, toList_settled h]

/-- The fragment of a settled URI is cut off, and nothing else. -/
theorem cutFragment_settled {authority path fragment : List Char} (h : Settled authority path)
    (hf : ∀ c ∈ fragment, isDropped c = false) :
    cutFragment (String.ofList (fileText authority path fragment))
      = .ok (String.ofList (fileText authority path []), String.ofList fragment) := by
  have hkeep : ∀ p : List Char, cutParameters fileScheme p = (p, []) := fun p => rfl
  cases fragment with
  | nil =>
    have hno : (fileText authority path []).contains '#' = false := by
      rw [List.contains_eq_mem, decide_eq_false_iff_not]
      exact not_mem_fileText h.toFileParts
    rw [cutFragment, String.toList_ofList, hno]
    rfl
  | cons c rest =>
    have hhas : (fileText authority path (c :: rest)).contains '#' = true := by
      rw [List.contains_eq_mem, decide_eq_true_eq]
      simp [fileText, marked]
    have hsplit : split (fileText authority path (c :: rest))
        = .ok ⟨fileScheme, authority, path, [], c :: rest⟩ := splitWith_fileText h.toFileParts hf []
    rw [cutFragment, String.toList_ofList, hhas, if_pos rfl, hsplit, ok_bind]
    simp only [hkeep]
    rw [← toList_settled h]
    rfl

/-! ## §4 The URI of a path -/

/-- Nothing but a slash is written as one. -/
theorem head?_escapeByte {b : UInt8} (h : b ≠ 0x2F) : ∃ c rest, escapeByte b = c :: rest ∧ c ≠ '/' := by
  unfold escapeByte
  split
  · rename_i hb
    refine ⟨_, [], rfl, fun he => h ?_⟩
    simp only [isUnreserved, Bool.and_eq_true, decide_eq_true_eq] at hb
    have hlt : b.toNat < 0x80 := UInt8.lt_iff_toNat_lt.mp hb.1
    have hcode : (Char.ofNat b.toNat).toNat = b.toNat := Text.toNat_ofNat (Or.inl (by omega))
    rw [he] at hcode
    exact UInt8.toNat_inj.mp hcode.symm
  · exact ⟨_, _, rfl, by decide⟩

theorem ofNat_ne_slash {n : Nat} (hlt : n < 256) (hn : n ≠ 0x2F) : UInt8.ofNat n ≠ 0x2F := by
  intro he
  have := congrArg UInt8.toNat he
  simp only [UInt8.toNat_ofNat', UInt8.reduceToNat] at this
  omega

/-- No character but a slash is encoded with its byte in front. -/
theorem head?_utf8EncodeChar {c : Char} (h : c.toNat ≠ 0x2F) :
    ∃ b rest, String.utf8EncodeChar c = b :: rest ∧ b ≠ 0x2F := by
  have hv : c.val.toNat ≠ 0x2F := h
  unfold String.utf8EncodeChar
  simp only
  split
  · exact ⟨_, _, rfl, ofNat_ne_slash (by omega) hv⟩
  · split
    · exact ⟨_, _, rfl, ofNat_ne_slash (by omega) (by omega)⟩
    · split
      · exact ⟨_, _, rfl, ofNat_ne_slash (by omega) (by omega)⟩
      · exact ⟨_, _, rfl, ofNat_ne_slash (by omega) (by omega)⟩

/-- The first code of a text that does not start with a slash is none. -/
theorem head?_codes {c : Char} (h : c ≠ '/') (s : List Char) :
    ∃ n rest, Text.codes (c :: s) = n :: rest ∧ n ≠ 0x2F := by
  have hcode : Text.codeOf c ≠ 0x2F := by
    unfold Text.codeOf
    split
    · rename_i hh
      rintro he
      rw [he] at hh
      cases hh
    · exact fun he => h (Char.toNat_inj.mp he)
  cases s with
  | nil => exact ⟨_, _, rfl, hcode⟩
  | cons d rest =>
    by_cases hm : c = Text.mark
    · subst hm
      exact ⟨_, _, Text.codes_mark d rest, by unfold Text.markShift; omega⟩
    · exact ⟨_, _, Text.codes_cons hm _, hcode⟩

/-- The bytes of a code that has some in the name of a file. -/
theorem head?_encodeCode {n : Nat} (h : n ≠ 0x2F)
    (hh : Text.isHalf n = true → Text.standsForByte n = true) :
    ∃ b bs, (if Text.standsForByte n then [UInt8.ofNat (n - 0xDC00)] else Text.encodeCode n)
      = b :: bs ∧ b ≠ 0x2F := by
  split
  · rename_i hs
    simp only [Text.standsForByte, Bool.and_eq_true, decide_eq_true_eq] at hs
    exact ⟨_, [], rfl, ofNat_ne_slash (by omega) (by omega)⟩
  · rename_i hs
    rw [Text.encodeCode, if_neg fun he => hs (hh he)]
    refine head?_utf8EncodeChar ?_
    by_cases hv : n.isValidChar
    · rwa [Text.toNat_ofNat hv]
    · rw [Char.ofNat, dif_neg hv]
      decide

/-- A text in which no halves are found has none but those that are let pass. -/
theorem passes_of_halves? {passes : Nat → Bool} : ∀ {ns : List Nat},
    Text.halves? passes ns = none → ∀ n ∈ ns, Text.isHalf n = true → passes n = true
  | [], _, _, hn, _ => nomatch hn
  | m :: ns, h, n, hn, hhalf => by
    by_cases hm : (!Text.isHalf m || passes m) = true
    · have hrest : Text.halves? passes ns = none := by
        simpa [Text.halves?, List.takeWhile_cons_of_pos, hm] using h
      rcases List.mem_cons.mp hn with rfl | hn
      · simpa [hhalf] using hm
      · exact passes_of_halves? hrest n hn hhalf
    · simp only [Bool.or_eq_true, Bool.not_eq_true', not_or, Bool.not_eq_false,
        Bool.not_eq_true] at hm
      simp [Text.halves?, hm.1, hm.2] at h

/-- What does not start with a slash is not written with one in front, if it can be the name of a
file. -/
theorem head?_escape {s : List Char} (h : s.head? ≠ some '/')
    (hu : ∀ n ∈ Text.codes s, Text.isHalf n = true → Text.standsForByte n = true) :
    ((Text.encodeName (String.ofList s)).flatMap escapeByte).head? ≠ some '/' := by
  cases s with
  | nil => decide
  | cons c s =>
    have hc : c ≠ '/' := fun e => h (congrArg some e)
    obtain ⟨n, rest, hcodes, hn⟩ := head?_codes hc s
    have hh := hu n (hcodes ▸ List.mem_cons_self ..)
    obtain ⟨b, bs, hfirst, hb⟩ := head?_encodeCode hn hh
    obtain ⟨d, ds, hd, hslash⟩ := head?_escapeByte hb
    rw [Text.encodeName, String.toList_ofList, hcodes, List.flatMap_cons, hfirst]
    simp [hd, hslash]

/-- References that are fragments turn a URI into the settled one of some parts, with that
fragment. -/
structure SettlesTo (uri : String) (authority path : List Char) : Prop where
  settled : Settled authority path
  unmarked : '#' ∉ uri.toList
  joins : ∀ fragment, (∀ c ∈ fragment, isDropped c = false) →
    joinList uri.toList ('#' :: fragment) = .ok (fileText authority path fragment)

theorem settlesTo_self {authority path : List Char} (h : Settled authority path) :
    SettlesTo (String.ofList (fileText authority path [])) authority path :=
  ⟨h, by rw [String.toList_ofList]; exact not_mem_fileText h.toFileParts,
    fun fragment hf => by rw [String.toList_ofList, joinList_settled h hf]⟩

/-- What becomes of a reference that is a fragment. -/
theorem SettlesTo.joined {uri reference : String} {authority path fragment : List Char}
    (h : SettlesTo uri authority path) (hr : reference.toList = '#' :: fragment)
    (hf : ∀ c ∈ fragment, isDropped c = false) :
    Reference.joined uri reference = .ok (String.ofList (fileText authority path fragment)) := by
  rw [Reference.joined, Uri.join, hr, h.joins _ hf]
  rfl

/-- The characters that paths are written with do not break a URI. -/
theorem unbroken_of_chars {cs : List Char} (h : ∀ c ∈ cs, isNameChar c = true ∨ c = '/') :
    ∀ c ∈ cs, isPathChar c = true := by
  intro c hc
  rcases h c hc with h | rfl
  · exact isPathChar_of_isNameChar h
  · decide

theorem fileParts_of_chars {rest : List Char} (h : ∀ c ∈ rest, isNameChar c = true ∨ c = '/') :
    FileParts [] ('/' :: rest) where
  names := by simp
  unbroken := by
    intro c hc
    rcases List.mem_cons.mp hc with rfl | hc
    · decide
    · exact unbroken_of_chars h c hc
  rooted := Or.inr rfl

/-- A path that starts with one slash is settled as it is. -/
theorem settled_of_slash {rest : List Char} (h : ∀ c ∈ rest, isNameChar c = true ∨ c = '/')
    (hrest : rest.head? ≠ some '/') : Settled [] ('/' :: rest) where
  toFileParts := fileParts_of_chars h
  plain := by
    intro _
    cases rest with
    | nil => rfl
    | cons c rest =>
      have hc : c ≠ '/' := fun e => hrest (congrArg some e)
      simp [List.isPrefixOf, Ne.symm hc]

/-- An authority and the path behind it are settled. -/
theorem settled_of_authority {rest : List Char} (h : ∀ c ∈ rest, isNameChar c = true ∨ c = '/')
    (hrest : rest.head? ≠ some '/') :
    Settled (rest.takeWhile (· != '/')) (rest.dropWhile (· != '/')) where
  names := by
    intro c hc
    have hslash := List.all_eq_true.mp List.all_takeWhile c hc
    rcases h c (List.takeWhile_subset _ hc) with h | rfl
    · exact h
    · cases hslash
  unbroken := by
    intro c hc
    exact unbroken_of_chars h c (List.dropWhile_subset _ hc)
  rooted := by
    cases hd : rest.dropWhile (· != '/') with
    | nil => exact Or.inl rfl
    | cons c cs =>
      have hne : rest.dropWhile (· != '/') ≠ [] := by simp [hd]
      have hc := List.head_dropWhile_not (· != '/') hne
      simp only [hd, List.head_cons, bne_eq_false_iff_eq] at hc
      exact Or.inr (congrArg some hc)
  plain := by
    cases rest with
    | nil => exact fun _ => rfl
    | cons c rest =>
      have hc : c ≠ '/' := fun e => hrest (congrArg some e)
      simp [hc]

/-- A path that starts with two slashes is read as an authority and a path from the first reference
on. -/
theorem settlesTo_of_doubleSlash {rest : List Char}
    (h : ∀ c ∈ rest, isNameChar c = true ∨ c = '/') (hrest : rest.head? ≠ some '/') :
    SettlesTo (String.ofList (fileText [] ('/' :: '/' :: rest) []))
      (rest.takeWhile (· != '/')) (rest.dropWhile (· != '/')) := by
  have hbase : FileParts [] ('/' :: '/' :: rest) := by
    refine fileParts_of_chars fun c hc => ?_
    rcases List.mem_cons.mp hc with rfl | hc
    · exact Or.inr rfl
    · exact h c hc
  have hbody : (!(List.isEmpty ([] : List Char)) || (!fileScheme.isEmpty
      && schemeIn authoritySchemes fileScheme
      && !(['/', '/'].isPrefixOf ('/' :: '/' :: rest)))) = false := by
    simp [List.isPrefixOf]
  refine ⟨settled_of_authority h hrest, ?_, fun fragment hf => ?_⟩
  · rw [String.toList_ofList]
    exact not_mem_fileText hbase
  rw [String.toList_ofList, joinList_fragment hbase hf]
  simp only [Parts.toList, hbody]
  simp [fileText, fileScheme, marked, ← List.append_assoc]

end SchemaDoc.Uri

namespace SchemaDoc.Reference

open Uri

/-- The characters of the URI of a path are those of names and slashes. -/
theorem ofPath_eq {p : Path} {uri : String} (h : Uri.ofPath p = .ok uri) :
    uri.toList = fileText [] ((Text.encodeName p.toString).flatMap escapeByte) [] ∧
      ∀ n ∈ Text.codes p.toString.toList, Text.isHalf n = true → Text.standsForByte n = true := by
  unfold Uri.ofPath at h
  cases hu : Text.unnamable? p.toString with
  | some f =>
    rw [hu] at h
    cases h
  | none =>
    rw [hu] at h
    cases h
    refine ⟨?_, passes_of_halves? hu⟩
    simp [escape, fileText, fileScheme, marked]

theorem codes_slash (s : List Char) : Text.codes ('/' :: s) = 0x2F :: Text.codes s := by
  have hcode : Text.codeOf '/' = 0x2F := by simp [Text.codeOf, Text.isHalf, Text.halfShift]
  rw [Text.codes_cons (Text.ne_mark_of_toNat (by simp)) s, hcode]

/-- A slash in front of a text is written as it is. -/
theorem escape_slash (s : List Char) :
    (Text.encodeName (String.ofList ('/' :: s))).flatMap escapeByte
      = '/' :: (Text.encodeName (String.ofList s)).flatMap escapeByte := by
  rw [Text.encodeName, Text.encodeName, String.toList_ofList, String.toList_ofList, codes_slash]
  rfl

/-- The URI of a document in a directory settles with the first reference, if the directory's path
is made of names. -/
theorem settlesTo_of_rootUri {disk : Disk} {base : Path} {name uri : String}
    (hbase : (disk.full base).Named) (h : rootUri disk base name = .ok uri) :
    ∃ authority path, SettlesTo uri authority path := by
  unfold rootUri at h
  obtain ⟨directory, hd, hu⟩ := bind_eq_ok.mp h
  obtain ⟨hnamed, hroot⟩ := Path.Named.resolve hbase hd
  have hp : (directory.join (Path.ofString name)).Named := hnamed.join (Path.named_ofString name)
  have hfrom : (directory.join (Path.ofString name)).root ≠ .relative := by
    unfold Path.join Path.isAbsolute
    split
    · rename_i ha
      simpa using ha
    · rw [hroot]
      decide
  generalize directory.join (Path.ofString name) = p at hp hu hfrom
  obtain ⟨huri, hhalves⟩ := ofPath_eq hu
  have huri := congrArg String.ofList huri
  rw [String.ofList_toList] at huri
  have hhead := Path.head?_intercalate hp
  have hchars : ∀ s : List Char, ∀ c ∈ (Text.encodeName (String.ofList s)).flatMap escapeByte,
      isNameChar c = true ∨ c = '/' := fun s c hc => isNameChar_of_mem_escape hc
  have hslash : ∀ s : String, "/" ++ s = String.ofList ('/' :: s.toList) := by
    intro s
    rw [← String.toList_inj]
    simp
  unfold Path.toString at huri hhalves
  generalize "/".intercalate p.names = body at huri hhalves hhead
  cases hr : p.root with
  | relative => exact absurd hr hfrom
  | slash =>
    simp only [hr, hslash, String.toList_ofList, codes_slash, escape_slash] at huri hhalves
    rw [huri]
    exact ⟨[], _, settlesTo_self (settled_of_slash (hchars _) (head?_escape hhead fun n hn =>
      hhalves n (List.mem_cons_of_mem _ hn)))⟩
  | doubleSlash =>
    have htwo : "//" ++ body = "/" ++ ("/" ++ body) := by
      rw [← String.append_assoc]
      rfl
    simp only [hr, htwo, hslash, String.toList_ofList, codes_slash, escape_slash] at huri hhalves
    rw [huri]
    exact ⟨_, _, settlesTo_of_doubleSlash (hchars _) (head?_escape hhead fun n hn =>
      hhalves n (List.mem_cons_of_mem _ (List.mem_cons_of_mem _ hn)))⟩

end SchemaDoc.Reference
