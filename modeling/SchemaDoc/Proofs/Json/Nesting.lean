/-
SchemaDoc.Proofs.Json.Nesting — brackets open inside one another.

How deep a text nests is seen without reading it: a scan that knows whether it
is inside a string counts the brackets that are open (`opened`). What the
reader takes for a value is passed over by such a scan, which comes out with as
many brackets open as before (`Leads Scan.outside`); behind the opening bracket
of a value, what is read up to its closing one leaves one less
(`Leads Scan.entered`).

§1 the scan, §2 from a text to an end of it, §3 characters that keep the count,
§4 strings.
-/
import SchemaDoc.Proofs.Failing
import SchemaDoc.Proofs.Json.Extent
import SchemaDoc.Proofs.Number.Digits

namespace SchemaDoc.Json

/-! ## §1 The scan -/

namespace Scan

/-- The scan behind one more character; what would end the scan is passed over. -/
def next (s : Scan) (c : Char) : Scan := (s.step c).getD s

/-- The scan behind a text. -/
def behind (s : Scan) (t : List Char) : Scan := t.foldl next s

theorem behind_append (s : Scan) (t u : List Char) : s.behind (t ++ u) = (s.behind t).behind u :=
  List.foldl_append

theorem behind_cons (s : Scan) (c : Char) (t : List Char) :
    s.behind (c :: t) = (s.next c).behind t := rfl

/-- A place outside of strings, with a number of open brackets. -/
def outside (n : Nat) : Scan := ⟨n, .value⟩

/-- A place behind one bracket more. -/
def entered (n : Nat) : Scan := ⟨n + 1, .value⟩

/-- A place inside a string. -/
def quoted (n : Nat) : Scan := ⟨n, .string⟩

end Scan

/-- The brackets that are open behind a text, those in strings left out. -/
def opened (t : List Char) : Nat := ((Scan.outside 0).behind t).opened

/-- A text opens brackets inside one another, more of them than a number. -/
def NestsBeyond (s : List Char) (n : Nat) : Prop := ∃ t, t <+: s ∧ n < opened t

/-- A text opens more brackets than a number, however many are open before it. -/
def Deepens (s : List Char) (n : Nat) : Prop :=
  ∃ t, t <+: s ∧ ∀ d, d + n < ((Scan.outside d).behind t).opened

theorem Deepens.nestsBeyond {s : List Char} {n : Nat} (h : Deepens s n) : NestsBeyond s n := by
  obtain ⟨t, ht, hopened⟩ := h
  have h0 := hopened 0
  rw [Nat.zero_add] at h0
  exact ⟨t, ht, h0⟩

/-! ## §2 From a text to an end of it -/

/-- From places of a sort, a text leads outside of strings to an end of it. -/
def Leads (start : Nat → Scan) (s left : List Char) : Prop :=
  ∃ t, t ++ left = s ∧ ∀ n, (start n).behind t = Scan.outside n

section Leads

variable {start : Nat → Scan} {s t u : List Char} {c : Char} {n : Nat}

theorem Leads.suffix (h : Leads start s t) : t <:+ s := by
  obtain ⟨p, rfl, -⟩ := h
  exact List.suffix_append p t

theorem Leads.refl (s : List Char) : Leads Scan.outside s s := ⟨[], rfl, fun _ => rfl⟩

theorem Leads.trans (hst : Leads start s t) (htu : Leads Scan.outside t u) : Leads start s u := by
  obtain ⟨p, rfl, hp⟩ := hst
  obtain ⟨q, rfl, hq⟩ := htu
  exact ⟨p ++ q, List.append_assoc p q u, fun n => by rw [Scan.behind_append, hp, hq]⟩

/-- What keeps the count may stand before what closes a bracket. -/
theorem Leads.entered (hst : Leads Scan.outside s t) (htu : Leads Scan.entered t u) :
    Leads Scan.entered s u := by
  obtain ⟨p, rfl, hp⟩ := hst
  obtain ⟨q, rfl, hq⟩ := htu
  refine ⟨p ++ q, List.append_assoc p q u, fun n => ?_⟩
  rw [Scan.behind_append, Scan.entered, ← Scan.outside, hp (n + 1)]
  exact hq n

theorem Deepens.of_leads (h : Deepens t n) (hst : Leads Scan.outside s t) : Deepens s n := by
  obtain ⟨p, rfl, hp⟩ := hst
  obtain ⟨q, hq, hopened⟩ := h
  refine ⟨p ++ q, (List.prefix_append_right_inj p).mpr hq, fun d => ?_⟩
  rw [Scan.behind_append, hp]
  exact hopened d

/-- A bracket is open behind it. -/
theorem next_opening (hc : c = '[' ∨ c = '\x7b') (n : Nat) :
    (Scan.outside n).next c = Scan.entered n := by
  rcases hc with rfl | rfl <;> rfl

theorem deepens_opening (hc : c = '[' ∨ c = '\x7b') (s : List Char) : Deepens (c :: s) 0 := by
  refine ⟨[c], List.prefix_append [c] s, fun d => ?_⟩
  rw [Scan.behind_cons, next_opening hc]
  exact Nat.lt_succ_self d

/-- What is open behind a bracket is one more with it. -/
theorem Deepens.opening (h : Deepens s n) (hc : c = '[' ∨ c = '\x7b') :
    Deepens (c :: s) (n + 1) := by
  obtain ⟨p, hp, hopened⟩ := h
  refine ⟨c :: p, (List.prefix_cons_inj c).mpr hp, fun d => ?_⟩
  rw [Scan.behind_cons, next_opening hc]
  have hd := hopened (d + 1)
  rw [Nat.add_right_comm] at hd
  exact hd

/-- A value between brackets keeps the count. -/
theorem Leads.opening (h : Leads Scan.entered s t) (hc : c = '[' ∨ c = '\x7b') :
    Leads Scan.outside (c :: s) t := by
  obtain ⟨p, rfl, hp⟩ := h
  refine ⟨c :: p, rfl, fun n => ?_⟩
  rw [Scan.behind_cons, next_opening hc, hp]

theorem leads_closing (hc : c = ']' ∨ c = '\x7d') (s : List Char) :
    Leads Scan.entered (c :: s) s := by
  refine ⟨[c], rfl, fun n => ?_⟩
  rcases hc with rfl | rfl <;> rfl

end Leads

/-! ## §3 Characters that keep the count -/

/-- The characters that a scan outside of strings counts or is changed by. -/
def marks : List Char := ['"', '[', ']', '\x7b', '\x7d']

section Marks

variable {c : Char} {s left : List Char}

theorem next_of_not_mem_marks (hc : c ∉ marks) (n : Nat) :
    (Scan.outside n).next c = Scan.outside n := by
  simp only [marks, List.mem_cons, List.not_mem_nil, or_false, not_or] at hc
  by_cases hblank : c = ' '
  · subst hblank
    rfl
  · simp [Scan.outside, Scan.next, Scan.step, hc, hblank]

theorem leads_cons (hc : c ∉ marks) (s : List Char) : Leads Scan.outside (c :: s) s :=
  ⟨[c], rfl, fun n => by rw [Scan.behind_cons, next_of_not_mem_marks hc]; rfl⟩

theorem leads_dropWhile {p : Char → Bool} (hp : ∀ c, p c = true → c ∉ marks) :
    ∀ s : List Char, Leads Scan.outside s (s.dropWhile p)
  | [] => .refl []
  | c :: s => by
    rw [List.dropWhile_cons]
    split
    · rename_i hc
      exact (leads_cons (hp c hc) s).trans (leads_dropWhile hp s)
    · exact .refl _

theorem not_mem_marks_of_isDigit (hc : isDigit c = true) : c ∉ marks := by
  have hall : ∀ c ∈ marks, isDigit c = false := by simp [marks, isDigit]
  exact fun hmem => Bool.false_ne_true ((hall c hmem).symm.trans hc)

theorem leads_skipSpace (s : List Char) : Leads Scan.outside s (skipSpace s) := by
  have hall : ∀ c ∈ marks, isSpace c = false := by simp [marks, isSpace]
  exact leads_dropWhile (fun c hc hmem => Bool.false_ne_true ((hall c hmem).symm.trans hc)) s

theorem leads_of_skipSpace (h : skipSpace s = c :: left) (hc : c ∉ marks) :
    Leads Scan.outside s left := (leads_skipSpace s).trans (h ▸ leads_cons hc left)

theorem leads_of_skipSpace_closing (h : skipSpace s = c :: left) (hc : c = ']' ∨ c = '\x7d') :
    Leads Scan.entered s left := (leads_skipSpace s).entered (h ▸ leads_closing hc left)

theorem leads_afterWord? : ∀ {word s left : List Char}, (∀ c ∈ word, c ∉ marks) →
    afterWord? word s = some left → Leads Scan.outside s left
  | [], _, _, _, h => by
    cases h
    exact .refl _
  | _ :: _, [], _, _, h => nomatch h
  | w :: ws, c :: s, left, hword, h => by
    rw [afterWord?] at h
    obtain ⟨hw, hws⟩ := List.forall_mem_cons.mp hword
    split at h
    · rename_i hc
      exact (leads_cons (hc ▸ hw) s).trans (leads_afterWord? hws h)
    · cases h

theorem leads_name? {r : Value × List Char} (h : name? s = some r) :
    Leads Scan.outside s r.2 := by
  have hall : ∀ e ∈ names, ∀ c ∈ e.1, c ∉ marks := by simp [names, marks]
  obtain ⟨entry, hentry, h⟩ := List.exists_of_findSome?_eq_some h
  obtain ⟨left, hleft, rfl⟩ := Option.map_eq_some_iff.mp h
  exact leads_afterWord? (hall entry hentry) hleft

theorem isDigit_of_mem_takeWhile (h : c ∈ s.takeWhile isDigit) : isDigit c = true :=
  List.all_eq_true.mp List.all_takeWhile c h

/-- The whole digits of a number stand at the start of the text. -/
theorem wholeDigits_eq_some {whole : List Char} (h : wholeDigits s = some (whole, left)) :
    whole ++ left = s ∧ ∀ c ∈ whole, isDigit c = true := by
  unfold wholeDigits at h
  split at h
  · cases h
    exact ⟨rfl, List.forall_mem_singleton.mpr rfl⟩
  · rename_i c rest _
    split at h
    · rename_i hc
      cases h
      exact ⟨by rw [List.cons_append, List.takeWhile_append_dropWhile],
        List.forall_mem_cons.mpr ⟨hc, fun d => isDigit_of_mem_takeWhile⟩⟩
    · cases h
  · cases h

theorem leads_digits : ∀ {ds : List Char}, (∀ c ∈ ds, isDigit c = true) → ∀ left : List Char,
    Leads Scan.outside (ds ++ left) left
  | [], _, left => .refl left
  | d :: ds, h, left => by
    obtain ⟨hd, hds⟩ := List.forall_mem_cons.mp h
    exact (leads_cons (not_mem_marks_of_isDigit hd) _).trans (leads_digits hds left)

theorem leads_dropDigits (s : List Char) : Leads Scan.outside s (s.dropWhile isDigit) :=
  leads_dropWhile (fun _ => not_mem_marks_of_isDigit) s

theorem leads_fractionDigits (s : List Char) : Leads Scan.outside s (fractionDigits s).2 := by
  unfold fractionDigits
  split
  · split
    · rename_i hc
      exact (leads_cons (by decide) _).trans
        ((leads_cons (not_mem_marks_of_isDigit hc) _).trans (leads_dropDigits _))
    · exact .refl _
  · exact .refl _

theorem leads_exponentPart (s : List Char) : Leads Scan.outside s (exponentPart s).2 := by
  unfold exponentPart
  split
  · rename_i e rest
    split
    · rename_i he
      have he : e ∉ marks := by
        rcases Bool.or_eq_true _ _ |>.mp he with h | h
        · exact of_decide_eq_true h ▸ by decide
        · exact of_decide_eq_true h ▸ by decide
      dsimp only
      split
      · exact .refl _
      · -- The sign, if there is one, is passed over.
        refine (leads_cons he rest).trans (Leads.trans ?_ (leads_dropDigits _))
        split
        · exact leads_cons (by decide) _
        · exact leads_cons (by decide) _
        · exact .refl _
    · exact .refl _
  · exact .refl _

end Marks

/-! ## §4 Strings -/

section Strings

variable {c : Char} {s left : List Char}

theorem Leads.char (h : Leads Scan.quoted s left) (hquote : c ≠ '"') (hslash : c ≠ '\\') :
    Leads Scan.quoted (c :: s) left := by
  obtain ⟨p, rfl, hp⟩ := h
  refine ⟨c :: p, rfl, fun n => ?_⟩
  have hnext : (Scan.quoted n).next c = Scan.quoted n := by
    simp [Scan.quoted, Scan.next, Scan.step, hquote, hslash]
  rw [Scan.behind_cons, hnext, hp]

/-- A backslash and the character behind it stay inside the string. -/
theorem Leads.escaped (h : Leads Scan.quoted s left) (c : Char) :
    Leads Scan.quoted ('\\' :: c :: s) left := by
  obtain ⟨p, rfl, hp⟩ := h
  exact ⟨'\\' :: c :: p, rfl, hp⟩

theorem Leads.quote (h : Leads Scan.quoted s left) : Leads Scan.outside ('"' :: s) left := by
  obtain ⟨p, rfl, hp⟩ := h
  exact ⟨'"' :: p, rfl, hp⟩

/-- The digits of a unit are neither quotes nor backslashes. -/
theorem ne_of_unit? {a b c d e : Char} {n : Nat} (h : unit? a b c d = some n)
    (he : e ∈ [a, b, c, d]) : e ≠ '"' ∧ e ≠ '\\' := by
  have hhex := Text.isSome_of_readHex? h he
  constructor
  · rintro rfl
    cases hhex
  · rintro rfl
    cases hhex

/-- A string is passed over up to its closing quote, or complained about. -/
theorem gives_pieces (start s : List Char) : Gives (fun r => Leads Scan.quoted s r.2)
    (fun stop => ∃ c left, stop = .complaint c left) (pieces start s) := by
  fun_induction pieces start s with
  | case1 => exact .error ⟨_, _, rfl⟩
  | case2 rest => exact .ok ⟨['"'], rfl, fun _ => rfl⟩
  | case3 a b c d n _ _ hn ih =>
    refine ih.map fun r hr => ?_
    have hchar : ∀ {e s}, e ∈ [a, b, c, d] → Leads Scan.quoted s r.2 →
        Leads Scan.quoted (e :: s) r.2 := fun he hs =>
      hs.char (ne_of_unit? hn he).1 (ne_of_unit? hn he).2
    exact (hchar (by simp) (hchar (by simp) (hchar (by simp) (hchar (by simp) hr)))).escaped 'u'
  | case4 => exact .error ⟨_, _, rfl⟩
  | case5 => exact .error ⟨_, _, rfl⟩
  | case6 => exact .error ⟨_, _, rfl⟩
  | case7 c rest _ _ _ _ ih => exact ih.map fun r hr => hr.escaped c
  | case8 => exact .error ⟨_, _, rfl⟩
  | case9 => exact .error ⟨_, _, rfl⟩
  | case10 c rest hquote _ _ hlast hescape _ ih =>
    refine ih.map fun r hr => hr.char hquote fun hslash => ?_
    cases rest with
    | nil => exact hlast hslash rfl
    | cons d rest => exact hescape d rest hslash rfl

end Strings

end SchemaDoc.Json
