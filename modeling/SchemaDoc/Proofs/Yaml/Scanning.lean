/-
SchemaDoc.Proofs.Yaml.Scanning — the two texts that the scanner gives up on.

A text that makes no tokens is complained about, with two exceptions: a version
with more digits than an integer may have, and an escape by number beyond the
last character. Either stands in the text (`Unscannable`). For every reader of
tokens leaves an end of the text that it was given, and reads no character but
those of the text.

§1 cursors, §2 what is given up on, §3 names, tags and directives, §4 quoted
scalars, §5 plain and block scalars, §6 the lexer.
-/
import Mathlib.Algebra.GroupWithZero.Nat
import SchemaDoc.Proofs.Json.GivesUp
import SchemaDoc.Proofs.Number.Digits
import SchemaDoc.Yaml.Token.Lexer

namespace SchemaDoc.Yaml

/-! ## §1 Cursors -/

/-- What is left at a cursor is an end of a text. -/
abbrev Cursor.Within (s : List Char) (c : Cursor) : Prop := c.rest <:+ s

variable {s : List Char} {c : Cursor}

namespace Cursor

theorem Within.step (hc : c.Within s) : c.step.Within s := by
  unfold Cursor.step
  cases hrest : c.rest with
  | nil => exact hc
  | cons ch rest =>
    have hleft : rest <:+ s := (List.suffix_cons ch rest).trans (hrest ▸ hc)
    dsimp only
    split
    · split <;> exact hleft
    · split
      · exact hleft
      · split <;> exact hleft

theorem Within.skip (hc : c.Within s) : ∀ n : Nat, (c.skip n).Within s := by
  intro n
  induction n generalizing c with
  | zero => exact hc
  | succ n ih => exact ih hc.step

theorem Within.skipWhile (hc : c.Within s) (p : Char → Bool) : (c.skipWhile p).Within s :=
  hc.skip _

theorem Within.skipComment (hc : c.Within s) : c.skipComment.Within s := by
  unfold Cursor.skipComment
  split
  · exact hc.skipWhile _
  · exact hc

theorem Within.lineBreak? (hc : c.Within s) {ch : Char} {next : Cursor}
    (h : c.lineBreak? = some (ch, next)) : next.Within s := by
  unfold Cursor.lineBreak? at h
  split at h
  · cases h
    exact hc.skip 2
  · split at h
    · cases h
      exact hc.step
    · split at h
      · cases h
        exact hc.step
      · cases h
  · cases h

end Cursor

/-! ## §2 What is given up on -/

/-- A text holds an escape by number beyond the last character. -/
def HasFarEscape (s : List Char) : Prop :=
  ∃ digits n, '\\' :: 'U' :: digits <:+: s ∧ digits.length = 8 ∧
    Text.readHex? digits = some n ∧ 0x110000 ≤ n

/-- The scanner gives up on a text: it holds a run of more digits than an integer may have, or an
escape beyond the last character. -/
inductive Unscannable (s : List Char) : Fault → Prop
  | numeral {n : Nat} : Json.HasLongNumeral s n → Unscannable s (.tooManyDigits (some n))
  | tooFar : HasFarEscape s → Unscannable s .noCharacter
  | muchTooFar : HasFarEscape s → Unscannable s .noCharacterCode

/-- A trouble is a complaint, or what the scanner gives up on is in the text. -/
def Explained (s : List Char) (t : Trouble) : Prop := ∀ f, t = .fault f → Unscannable s f

theorem explained_complaint (s : List Char) (c : Complaint) : Explained s (.complaint c) := nofun

/-- A reader leaves an end of the text, and what it gives up on is in the text. -/
abbrev Scans {α : Type} (s : List Char) (x : Except Trouble (α × Cursor)) : Prop :=
  Gives (fun found => found.2.Within s) (Explained s) x

section Scans

variable {α β : Type}

theorem scans_ok (a : α) (hc : c.Within s) : Scans s (.ok (a, c)) := .ok hc

theorem scans_refuse (s : List Char) (problem : Complaint) :
    Scans s (refuse problem : Except Trouble (α × Cursor)) := .error (explained_complaint s problem)

/-- Whatever would be read behind a complaint. -/
theorem scans_throw (s : List Char) (problem : Complaint)
    (f : β → Except Trouble (α × Cursor)) : Scans s (throw (.complaint problem) >>= f) :=
  .error (explained_complaint s problem)

end Scans

/-! ## §3 Names, tags and directives -/

theorem scans_scanName (hc : c.Within s) : Scans s (scanName c) := by
  unfold scanName
  dsimp only
  split
  · exact scans_refuse ..
  · exact scans_ok _ (hc.step.skip _)

theorem scans_scanHandle (hc : c.Within s) : Scans s (scanHandle c) := by
  unfold scanHandle
  dsimp only
  split
  · exact scans_refuse ..
  · split
    · exact scans_ok _ hc.step
    · split
      · exact scans_refuse ..
      · exact scans_ok _ (hc.step.skip _).step

theorem scans_scanEscapedBytes (fuel : Nat) (hc : c.Within s) :
    Scans s (scanEscapedBytes fuel c) := by
  induction fuel generalizing c with
  | zero => exact scans_ok _ hc
  | succ fuel ih =>
    rw [scanEscapedBytes]
    split
    · exact scans_ok _ hc
    · split
      · exact scans_refuse ..
      · exact (ih (hc.skip 3)).bind fun found hfound => scans_ok _ hfound

theorem scans_scanTagText (fuel : Nat) (hc : c.Within s) : Scans s (scanTagText fuel c) := by
  induction fuel generalizing c with
  | zero => exact scans_ok _ hc
  | succ fuel ih =>
    rw [scanTagText]
    split
    · refine (scans_scanEscapedBytes c.size hc).bind fun found hfound => ?_
      obtain ⟨bs, c⟩ := found
      dsimp only
      split
      · exact scans_refuse ..
      · exact (ih hfound).bind fun found hfound => scans_ok _ hfound
    · split
      · exact (ih hc.step).bind fun found hfound => scans_ok _ hfound
      · exact scans_ok _ hc

theorem scans_scanTagUri (hc : c.Within s) : Scans s (scanTagUri c) := by
  unfold scanTagUri
  split
  · exact scans_throw ..
  · exact (scans_scanTagText _ hc).bind fun found hfound => scans_ok _ hfound

theorem scans_scanTag (hc : c.Within s) : Scans s (scanTag c) := by
  have hend (t : Token) {c : Cursor} (hc : c.Within s) : Scans s (do
      if !isSpaceEnd c.peek then throw (.complaint .badTag)
      return (t, c)) := by
    split
    · exact scans_throw ..
    · exact scans_ok _ hc
  unfold scanTag
  dsimp only
  split
  · refine (scans_scanTagUri (hc.skip 2)).bind fun found hfound => ?_
    obtain ⟨suffix, c⟩ := found
    dsimp only
    split
    · exact scans_throw ..
    · exact hend _ hfound.step
  split
  · exact hend _ hc.step
  split
  · refine (scans_scanHandle hc).bind fun found hfound => ?_
    exact (scans_scanTagUri hfound).bind fun found hfound => hend _ hfound
  · exact (scans_scanTagUri hc.step).bind fun found hfound => hend _ hfound

/-- What is left behind an ignored line is an end of the text. -/
theorem gives_scanIgnoredLine (hc : c.Within s) (problem : Complaint) :
    Gives (Cursor.Within s) (Explained s) (scanIgnoredLine problem c) := by
  have hleft : ((c.skipWhile (· == ' ')).skipComment).Within s := (hc.skipWhile _).skipComment
  unfold scanIgnoredLine
  dsimp only
  split
  · exact .error (explained_complaint s problem)
  · split
    · rename_i hbreak
      exact .ok (hleft.lineBreak? hbreak)
    · exact .ok hleft

/-- The digits of a version are a run of digits in the text. -/
theorem scans_scanVersionNumber (hc : c.Within s) : Scans s (scanVersionNumber c) := by
  unfold scanVersionNumber
  dsimp only [Cursor.takeWhile]
  split
  · exact scans_refuse ..
  · split
    · rename_i hlong
      refine .error ?_
      rintro f ⟨⟩
      refine .numeral ⟨hlong, _, ?_, rfl, fun d => Json.isDigit_of_mem_takeWhile⟩
      exact (List.takeWhile_prefix _).isInfix.trans hc.isInfix
    · exact scans_ok _ (hc.skip _)

theorem scans_scanVersion (hc : c.Within s) : Scans s (scanVersion c) := by
  unfold scanVersion
  refine (scans_scanVersionNumber (hc.skipWhile _)).bind fun found hfound => ?_
  dsimp only
  split
  · exact scans_throw ..
  refine (scans_scanVersionNumber hfound.step).bind fun found hfound => ?_
  split
  · exact scans_throw ..
  · exact scans_ok _ hfound

theorem scans_scanHandleDirective (hc : c.Within s) : Scans s (scanHandleDirective c) := by
  unfold scanHandleDirective
  refine (scans_scanHandle (hc.skipWhile _)).bind fun found hfound => ?_
  dsimp only
  split
  · exact scans_throw ..
  refine (scans_scanTagUri (hfound.skipWhile _)).bind fun found hfound => ?_
  split
  · exact scans_throw ..
  · exact scans_ok _ hfound

theorem scans_scanDirective (hc : c.Within s) : Scans s (scanDirective c) := by
  have hend (t : Token) {c : Cursor} (hc : c.Within s) : Scans s (do
      let c ← scanIgnoredLine .badDirective c
      return (t, c)) :=
    (gives_scanIgnoredLine hc _).bind fun _ hc => scans_ok t hc
  have hleft := hc.step.skip (c.step.rest.takeWhile isNameChar).length
  unfold scanDirective
  dsimp only [Cursor.takeWhile]
  split
  · exact scans_throw ..
  split
  · exact (scans_scanVersion hleft).bind fun found hfound => hend _ hfound
  split
  · exact (scans_scanHandleDirective hleft).bind fun found hfound => hend _ hfound
  · exact (scans_ok _ (hleft.skipWhile _)).bind fun found hfound => hend _ hfound

/-! ## §4 Quoted scalars -/

/-- Digits that are read ahead stand in the text. -/
theorem take_of_readHex? {l : List Char} {width n : Nat}
    (h : Text.readHex? ((List.range width).map fun i => (l.drop i).headD '\x00') = some n) :
    width ≤ l.length ∧
      ((List.range width).map fun i => (l.drop i).headD '\x00') = l.take width := by
  have hlength : width ≤ l.length := by
    by_contra hshort
    have hmem : '\x00' ∈ (List.range width).map fun i => (l.drop i).headD '\x00' :=
      List.mem_map.mpr ⟨l.length, List.mem_range.mpr (by omega), by simp⟩
    exact absurd (Text.isSome_of_readHex? h hmem) (by decide)
  refine ⟨hlength, List.ext_getElem (by simp [hlength]) fun i hi hi' => ?_⟩
  have hl : i < l.length := by
    simp at hi
    omega
  simp [List.headD_eq_head?_getD, hl]

theorem escapeWidth?_cases {letter : Char} {width : Nat} (h : escapeWidth? letter = some width) :
    width ≤ 4 ∨ letter = 'U' ∧ width = 8 := by
  unfold escapeWidth? at h
  simp only [List.lookup_cons] at h
  split at h
  · cases h
    exact Or.inl (by decide)
  · split at h
    · cases h
      exact Or.inl (by decide)
    · split at h
      · rename_i hletter
        cases h
        exact Or.inr ⟨beq_iff_eq.mp hletter, rfl⟩
      · cases h

/-- An escape by number stands ahead with its letter. -/
theorem rest_of_escape {width : Nat} (hch : c.peek = '\\')
    (hw : escapeWidth? (c.peekAt 1) = some width) :
    ∃ left, c.rest = '\\' :: c.peekAt 1 :: left := by
  unfold Cursor.peek at hch
  unfold Cursor.peekAt at hw ⊢
  cases hrest : c.rest with
  | nil =>
    rw [hrest] at hch
    exact absurd hch (by decide)
  | cons d rest =>
    rw [hrest] at hch hw
    obtain rfl : d = '\\' := hch
    cases rest with
    | nil => cases hw
    | cons letter left => exact ⟨left, rfl⟩

/-- An escape that writes no character stands in the text. -/
theorem explained_letterOfCode (hc : c.Within s) {width n : Nat} (hch : c.peek = '\\')
    (hw : escapeWidth? (c.peekAt 1) = some width)
    (hn : Text.readHex? ((List.range width).map fun i => c.peekAt (2 + i)) = some n) :
    Gives (fun _ => True) (Explained s) (letterOfCode n) := by
  obtain ⟨left, hrest⟩ := rest_of_escape hch hw
  have hahead (i : Nat) : c.peekAt (2 + i) = (left.drop i).headD '\x00' := by
    rw [Cursor.peekAt, hrest, Nat.add_comm]
    rfl
  simp only [hahead] at hn
  obtain ⟨hlength, htake⟩ := take_of_readHex? hn
  rw [htake] at hn
  have hcount : (left.take width).length = width := List.length_take_of_le hlength
  have hbound : n < 16 ^ width := hcount ▸ Text.readHex?_lt hn
  have hfar (hlarge : ¬n < 0x110000) : HasFarEscape s := by
    rcases escapeWidth?_cases hw with hw | ⟨hletter, rfl⟩
    · have := Nat.pow_le_pow_right (n := 16) (by decide) hw
      omega
    · refine ⟨left.take 8, n, ?_, hcount, hn, by omega⟩
      rw [hletter] at hrest
      have hprefix : '\\' :: 'U' :: left.take 8 <+: c.rest := by
        rw [hrest, List.cons_prefix_cons, List.cons_prefix_cons]
        exact ⟨rfl, rfl, List.take_prefix 8 left⟩
      exact hprefix.isInfix.trans hc.isInfix
  unfold letterOfCode
  split
  · exact .ok trivial
  · rename_i hlarge
    split
    · exact .error fun f hf => Trouble.fault.inj hf ▸ .tooFar (hfar hlarge)
    · exact .error fun f hf => Trouble.fault.inj hf ▸ .muchTooFar (hfar hlarge)

theorem scans_scanQuotedBreaks (fuel : Nat) (hc : c.Within s) :
    Scans s (scanQuotedBreaks fuel c) := by
  induction fuel generalizing c with
  | zero => exact scans_ok _ hc
  | succ fuel ih =>
    rw [scanQuotedBreaks]
    split
    · exact scans_refuse ..
    · dsimp only
      split
      · rename_i hbreak
        exact (ih ((hc.skipWhile _).lineBreak? hbreak)).bind fun found hfound =>
          scans_ok _ hfound
      · exact scans_ok _ (hc.skipWhile _)

theorem scans_scanQuotedSpaces (hc : c.Within s) : Scans s (scanQuotedSpaces c) := by
  unfold scanQuotedSpaces
  dsimp only
  split
  · exact scans_throw ..
  · split
    · rename_i hbreak
      exact (scans_scanQuotedBreaks _ ((hc.skip _).lineBreak? hbreak)).bind fun found hfound =>
        scans_ok _ hfound
    · exact scans_ok _ (hc.skip _)

/-- What is read behind something joins it. -/
theorem scans_joined {α : Type} {x : Except Trouble (List Char × Cursor)}
    (before : α → List Char → List Char) (a : α) (hx : Scans s x) : Scans s (do
      let (more, c) ← x
      return (before a more, c)) := hx.bind fun _ hfound => scans_ok _ hfound

theorem scans_scanQuotedWord (double : Bool) (fuel : Nat) (hc : c.Within s) :
    Scans s (scanQuotedWord double fuel c) := by
  induction fuel generalizing c with
  | zero => exact scans_ok _ hc
  | succ fuel ih =>
    rw [scanQuotedWord]
    dsimp only
    split
    · split
      · exact scans_joined List.cons _ (ih (hc.skip 2))
      · exact scans_ok _ hc
    split
    · exact scans_ok _ hc
    split
    · rename_i hescape
      split
      · exact scans_joined List.cons _ (ih (hc.skip 2))
      · rename_i width _ hw
        split
        · exact scans_refuse ..
        · rename_i n hn
          simp only [Bool.and_eq_true, beq_iff_eq] at hescape
          exact (explained_letterOfCode hc hescape.1 hw hn).bind fun e _ =>
            scans_joined List.append e (ih (hc.skip _))
      · split
        · rename_i hbreak
          exact (scans_scanQuotedBreaks _ (hc.step.lineBreak? hbreak)).bind fun found hfound =>
            scans_joined List.append found.1 (ih hfound)
        · exact scans_refuse ..
    split
    · exact scans_ok _ hc
    · exact scans_joined List.cons _ (ih hc.step)

theorem scans_scanQuotedWords (double : Bool) (fuel : Nat) (hc : c.Within s) :
    Scans s (scanQuotedWords double fuel c) := by
  induction fuel generalizing c with
  | zero => exact scans_ok _ hc
  | succ fuel ih =>
    rw [scanQuotedWords]
    refine (scans_scanQuotedWord double _ hc).bind fun found hfound => ?_
    obtain ⟨word, c⟩ := found
    generalize (if double then '"' else '\'') = quote
    dsimp only
    split
    · exact scans_ok _ hfound.step
    · refine (scans_scanQuotedSpaces hfound).bind fun found hfound => ?_
      exact (ih hfound).bind fun found hfound => scans_ok _ hfound

theorem scans_scanQuoted (double : Bool) (hc : c.Within s) : Scans s (scanQuoted double c) :=
  (scans_scanQuotedWords double _ hc.step).bind fun _ hfound => scans_ok _ hfound

/-! ## §5 Plain and block scalars -/

theorem within_scanPlainBreaks (fuel : Nat) (hc : c.Within s) :
    (scanPlainBreaks fuel c).2.2.Within s := by
  induction fuel generalizing c with
  | zero => exact hc
  | succ fuel ih =>
    rw [scanPlainBreaks]
    dsimp only
    split
    · rename_i hbreak
      have hleft := (hc.skipWhile (· == ' ')).lineBreak? hbreak
      split
      · exact hleft
      · exact ih hleft
    · exact hc.skipWhile _

theorem within_scanPlainGap (hc : c.Within s) : (scanPlainGap c).2.Within s := by
  unfold scanPlainGap
  dsimp only
  split
  · rename_i hbreak
    have hleft := (hc.skip _).lineBreak? hbreak
    split
    · exact hleft
    · exact within_scanPlainBreaks _ hleft
  · exact hc.skip _

theorem within_scanPlainWords (inFlow : Bool) (indent : Int) (fuel : Nat) (gap : List Char)
    (keyAllowed : Bool) (hc : c.Within s) :
    (scanPlainWords inFlow indent fuel gap keyAllowed c).2.2.Within s := by
  induction fuel generalizing c gap keyAllowed with
  | zero => exact hc
  | succ fuel ih =>
    rw [scanPlainWords]
    split
    · exact hc
    · dsimp only
      split
      · exact hc
      · have hleft := within_scanPlainGap (hc.skip (plainWord inFlow c.rest).length)
        split
        · exact hleft
        · exact ih _ _ hleft

theorem within_scanPlain (inFlow : Bool) (indent : Int) (hc : c.Within s) :
    (scanPlain inFlow indent c).2.2.Within s := by
  unfold scanPlain
  exact within_scanPlainWords inFlow indent _ _ _ hc

theorem scans_indentDigit (hc : c.Within s) : Scans s (indentDigit c) := by
  unfold indentDigit
  split
  · exact scans_refuse ..
  · split
    · exact scans_ok _ hc.step
    · exact scans_ok _ hc

theorem gives_scanBlockHeader (hc : c.Within s) :
    Gives (fun found => found.2.2.Within s) (Explained s) (scanBlockHeader c) := by
  have hend (chomp : Chomp) (increment : Option Nat) {c : Cursor} (hc : c.Within s) :
      Gives (fun found : Chomp × Option Nat × Cursor => found.2.2.Within s) (Explained s) (do
        if !isSpaceEnd c.peek then throw (.complaint .badBlockHeader)
        return (chomp, increment, c)) := by
    split
    · exact .error (explained_complaint s _)
    · exact .ok hc
  unfold scanBlockHeader
  split
  · refine (scans_indentDigit hc.step).bind fun found hfound => ?_
    exact hend _ _ hfound
  · refine (scans_indentDigit hc).bind fun found hfound => ?_
    obtain ⟨increment, c⟩ := found
    dsimp only
    split
    · exact hend _ _ (Cursor.Within.step hfound)
    · exact hend _ _ hfound

theorem within_scanBlockIndentation (fuel widest : Nat) (hc : c.Within s) :
    (scanBlockIndentation fuel widest c).2.2.Within s := by
  induction fuel generalizing c widest with
  | zero => exact hc
  | succ fuel ih =>
    rw [scanBlockIndentation]
    split
    · exact ih _ (hc.skipWhile _)
    · split
      · rename_i hbreak
        exact ih _ (hc.lineBreak? hbreak)
      · exact hc

theorem within_scanBlockBreaks (indent fuel : Nat) (hc : c.Within s) :
    (scanBlockBreaks indent fuel c).2.Within s := by
  induction fuel generalizing c with
  | zero => exact hc
  | succ fuel ih =>
    have hleft : (skipIndent indent c).Within s := hc.skip _
    rw [scanBlockBreaks]
    dsimp only
    split
    · rename_i hbreak
      exact ih (hleft.lineBreak? hbreak)
    · exact hleft

theorem within_scanBlockLines (folded : Bool) (chomp : Chomp) (indent fuel : Nat)
    (breaks : List Char) (hc : c.Within s) :
    (scanBlockLines folded chomp indent fuel breaks c).2.Within s := by
  induction fuel generalizing c breaks with
  | zero => exact hc
  | succ fuel ih =>
    have hline : (c.takeWhile (!isLineEnd ·)).2.Within s := hc.skip _
    rw [scanBlockLines]
    dsimp only
    split
    · rename_i hbreak
      have hbreaks {size : Nat} := within_scanBlockBreaks indent size (hline.lineBreak? hbreak)
      split
      · exact ih _ hbreaks
      · exact hbreaks
    · have hbreaks {size : Nat} := within_scanBlockBreaks indent size hline
      split
      · exact ih _ hbreaks
      · exact hbreaks

theorem scans_scanBlock (folded : Bool) (parent : Int) (hc : c.Within s) :
    Scans s (scanBlock folded parent c) := by
  unfold scanBlock
  refine (gives_scanBlockHeader hc.step).bind fun found hfound => ?_
  obtain ⟨chomp, increment, c⟩ := found
  refine (gives_scanIgnoredLine hfound _).bind fun c hc => ?_
  cases increment with
  | some n =>
    have hbreaks := within_scanBlockBreaks ((max (parent + 1) 1).toNat + n - 1) (c.size + 1) hc
    dsimp only
    split
    · exact scans_ok _ (within_scanBlockLines _ _ _ _ _ hbreaks)
    · exact scans_ok _ hbreaks
  | none =>
    have hbreaks := within_scanBlockIndentation (c.size + 1) 0 hc
    dsimp only
    split
    · exact scans_ok _ (within_scanBlockLines _ _ _ _ _ hbreaks)
    · exact scans_ok _ hbreaks

/-! ## §6 The lexer -/

namespace Lexer

/-- What is left to the lexer is an end of a text. -/
abbrev Within (s : List Char) (l : Lexer) : Prop := l.cursor.Within s

/-- A step of the lexer leaves an end of the text, and what it gives up on is in the text. -/
abbrev Steps (s : List Char) (x : Step) : Prop := Gives (Within s) (Explained s) x

variable {l : Lexer}

theorem steps_ok (hl : l.Within s) : Steps s (.ok l) := .ok hl

theorem steps_refuse (s : List Char) (problem : Complaint) : Steps s (refuse problem) :=
  .error (explained_complaint s problem)

theorem steps_throw {α : Type} (s : List Char) (problem : Complaint) (f : α → Step) :
    Steps s (throw (.complaint problem) >>= f) := .error (explained_complaint s problem)

theorem Within.unwind (hl : l.Within s) (column : Int) : (l.unwind column).Within s := by
  unfold Lexer.unwind
  split
  · exact hl
  · exact hl

theorem steps_dropStale (hl : l.Within s) : Steps s l.dropStale := by
  unfold dropStale
  dsimp only
  split
  · exact steps_refuse ..
  · exact steps_ok hl

theorem steps_dropPending (hl : l.Within s) : Steps s l.dropPending := by
  unfold dropPending
  split
  · exact steps_refuse ..
  · exact steps_ok hl

theorem steps_savePending (hl : l.Within s) : Steps s l.savePending := by
  unfold savePending
  split
  · exact steps_ok hl
  · exact (steps_dropPending hl).bind fun _ hl => steps_ok hl

theorem within_toNextToken (fuel : Nat) (hl : l.Within s) : (toNextToken fuel l).Within s := by
  induction fuel generalizing l with
  | zero => exact hl
  | succ fuel ih =>
    have hleft : ((l.cursor.skipWhile (· == ' ')).skipComment).Within s :=
      (Cursor.Within.skipWhile hl _).skipComment
    rw [toNextToken]
    split
    · rename_i hbreak
      exact ih (hleft.lineBreak? hbreak)
    · exact hleft

theorem Within.take (hl : l.Within s) (width : Nat) (t : Token) : (l.take width t).Within s :=
  Cursor.Within.skip hl width

theorem steps_endAll (hl : l.Within s) : Steps s l.endAll :=
  (steps_dropPending (hl.unwind (-1))).bind fun _ hl => steps_ok hl

theorem steps_openFlow (hl : l.Within s) (t : Token) : Steps s (l.openFlow t) :=
  (steps_savePending hl).bind fun _ hl => steps_ok (Cursor.Within.skip hl 1)

theorem steps_closeFlow (hl : l.Within s) (t : Token) : Steps s (l.closeFlow t) := by
  refine (steps_dropPending hl).bind fun l hl => ?_
  split
  · exact steps_throw ..
  · exact steps_ok (Cursor.Within.skip hl 1)

theorem steps_flowEntry (hl : l.Within s) : Steps s l.flowEntry :=
  (steps_dropPending (l := { l with keyAllowed := true }) hl).bind fun _ hl =>
    steps_ok (hl.take 1 _)

theorem steps_blockEntry (hl : l.Within s) : Steps s l.blockEntry := by
  unfold blockEntry
  split
  · exact steps_throw ..
  · refine (steps_dropPending ?_).bind fun _ hl => steps_ok (hl.take 1 _)
    split <;> exact hl

theorem steps_explicitKey (hl : l.Within s) : Steps s l.explicitKey := by
  unfold explicitKey
  split
  · exact steps_throw ..
  · refine (steps_dropPending ?_).bind fun _ hl => steps_ok (hl.take 1 _)
    split <;> exact hl

theorem steps_value (hl : l.Within s) : Steps s l.value := by
  unfold value
  split
  · refine steps_ok (Cursor.Within.skip ?_ 1)
    split <;> exact hl
  · split
    · exact steps_throw ..
    · refine (steps_dropPending ?_).bind fun _ hl => steps_ok (hl.take 1 _)
      split <;> exact hl

theorem steps_keyLike {scan : Cursor → Except Trouble (Token × Cursor)}
    (hscan : ∀ c, c.Within s → Scans s (scan c)) (hl : l.Within s) : Steps s (l.keyLike scan) :=
  (steps_savePending hl).bind fun _ hl => (hscan _ hl).bind fun _ hfound => steps_ok hfound

theorem steps_blockScalar (folded : Bool) (hl : l.Within s) : Steps s (l.blockScalar folded) :=
  (steps_dropPending (l := { l with keyAllowed := true }) hl).bind fun _ hl =>
    (scans_scanBlock folded _ hl).bind fun _ hfound => steps_ok hfound

theorem steps_plain (hl : l.Within s) : Steps s l.plain :=
  (steps_savePending hl).bind fun _ hl => steps_ok (within_scanPlain _ _ hl)

theorem scans_scanNamed (make : String → Token) (hc : c.Within s) : Scans s (scanNamed make c) :=
  (scans_scanName hc).bind fun _ hfound => scans_ok _ hfound

theorem steps_ite {b : Bool} {x y : Step} (hx : Steps s x) (hy : Steps s y) :
    Steps s (if b then x else y) := by
  cases b
  · exact hy
  · exact hx

theorem steps_token (hl : l.Within s) : Steps s l.token := by
  unfold token
  refine steps_ite ((steps_endAll hl).bind fun _ hl => (scans_scanDirective hl).bind
    fun _ hfound => steps_ok hfound) ?_
  refine steps_ite ((steps_endAll hl).bind fun _ hl => steps_ok (hl.take 3 _)) ?_
  refine steps_ite ((steps_endAll hl).bind fun _ hl => steps_ok (hl.take 3 _)) ?_
  refine steps_ite (steps_openFlow hl _) (steps_ite (steps_openFlow hl _) ?_)
  refine steps_ite (steps_closeFlow hl _) (steps_ite (steps_closeFlow hl _) ?_)
  refine steps_ite (steps_flowEntry hl) (steps_ite (steps_blockEntry hl) ?_)
  refine steps_ite (steps_explicitKey hl) (steps_ite (steps_value hl) ?_)
  refine steps_ite (steps_keyLike (fun _ => scans_scanNamed _) hl) ?_
  refine steps_ite (steps_keyLike (fun _ => scans_scanNamed _) hl) ?_
  refine steps_ite (steps_keyLike (fun _ => scans_scanTag) hl) ?_
  refine steps_ite (steps_blockScalar false hl) (steps_ite (steps_blockScalar true hl) ?_)
  refine steps_ite (steps_keyLike (fun _ => scans_scanQuoted false) hl) ?_
  refine steps_ite (steps_keyLike (fun _ => scans_scanQuoted true) hl) ?_
  exact steps_ite (steps_plain hl) (steps_refuse ..)

theorem steps_atNext (fuel : Nat) (hl : l.Within s) : Steps s (l.atNext fuel) :=
  (steps_dropStale (within_toNextToken fuel hl)).bind fun _ hl => steps_ok (hl.unwind _)

/-- The trouble that ends the tokens is a complaint, or the text holds what the lexer gives up
on. -/
theorem explained_toEnd (fuel : Nat) (hl : l.Within s) :
    ∀ t ∈ (toEnd fuel l).trouble, Explained s t := by
  induction fuel generalizing l with
  | zero => exact fun t ht => nomatch ht
  | succ fuel ih =>
    rw [toEnd]
    split
    · rename_i hstale
      rintro _ ⟨⟩
      exact (steps_dropStale hl).of_eq_error hstale
    · rename_i hstale
      have hl := (steps_dropStale hl).of_eq_ok hstale
      split
      · rename_i hnext
        rintro _ ⟨⟩
        exact (steps_atNext _ hl).of_eq_error hnext
      · rename_i hnext
        have hl := (steps_atNext _ hl).of_eq_ok hnext
        split
        · split
          · rename_i hend
            rintro _ ⟨⟩
            exact (steps_endAll hl).of_eq_error hend
          · exact fun t ht => nomatch ht
        · split
          · rename_i htoken
            rintro _ ⟨⟩
            exact (steps_token hl).of_eq_error htoken
          · rename_i htoken
            exact ih ((steps_token hl).of_eq_ok htoken)

end Lexer

/-- **A text makes tokens up to its end or up to a complaint, unless it holds a numeral or an escape
that the scanner gives up on.** -/
theorem explained_tokens (s : List Char) : ∀ t ∈ (tokens s).trouble, Explained s t := by
  have hstart : (startOf s).Within s := by
    have hwhole : Cursor.Within s { rest := s, size := s.length } := List.suffix_refl s
    unfold startOf
    dsimp only
    split
    · exact hwhole.step
    · exact hwhole
  unfold tokens
  split
  · exact Lexer.explained_toEnd _ hstart
  · rintro _ ⟨⟩
    exact explained_complaint s _

end SchemaDoc.Yaml
