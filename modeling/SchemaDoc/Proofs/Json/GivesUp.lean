/-
SchemaDoc.Proofs.Json.GivesUp — the two texts that JSON gives no complaint about.

A text that is no JSON document is complained about, with two exceptions. An
integer with more digits than an integer may have stops the reading; its digits
stand in the text, one behind the other. And so does a bracket that there is no
room for; the text then opens more brackets inside one another than there is
room for (`givesUp_of_read`). So every other text is read, or complained about.

§1 steps, §2 strings and numbers, §3 values, §4 documents.
-/
import Mathlib.Data.List.Infix
import SchemaDoc.Json.Reader
import SchemaDoc.Proofs.Json.Nesting

namespace SchemaDoc.Json

/-! ## §1 Steps -/

/-- A text holds a run of a number of digits, which are more than an integer may have. -/
def HasLongNumeral (s : List Char) (n : Nat) : Prop :=
  Decimal.maxDigits < n ∧ ∃ ds, ds <:+: s ∧ ds.length = n ∧ ∀ c ∈ ds, isDigit c = true

theorem HasLongNumeral.of_suffix {s t : List Char} {n : Nat} (h : HasLongNumeral t n)
    (hts : t <:+ s) : HasLongNumeral s n := by
  obtain ⟨hlong, ds, hds, hlength, hdigits⟩ := h
  exact ⟨hlong, ds, hds.trans hts.isInfix, hlength, hdigits⟩

/-- What a text holds where a step stops: it is complained about, or has a long integer, or nests
deeper than there is room for. -/
inductive Stops (s : List Char) (room : Room) : Stop → Prop
  | complaint (c : Complaint) (left : List Char) : Stops s room (.complaint c left)
  | digits {n : Nat} : HasLongNumeral s n → Stops s room (.tooManyDigits n)
  | nesting (kind : Kind) {n : Nat} : room = some n → Deepens s n → Stops s room (.tooNested kind)

/-- A step at a text leaves an end of it that the text leads to, or stops at what the text holds. -/
abbrev Advances {α : Type} (start : Nat → Scan) (s : List Char) (room : Room)
    (x : Except Stop (α × List Char)) : Prop :=
  Gives (fun r => Leads start s r.2) (Stops s room) x

section Steps

variable {α β : Type} {start : Nat → Scan} {s t : List Char} {room : Room}

theorem advances_complaint (c : Complaint) (t : List Char) :
    Advances start s room (.error (.complaint c t) : Except Stop (α × List Char)) :=
  .error (.complaint c t)

theorem Stops.of_leads {stop : Stop} (h : Stops t room stop) (hst : Leads Scan.outside s t) :
    Stops s room stop := by
  cases h with
  | complaint c left => exact .complaint c left
  | digits h => exact .digits (h.of_suffix hst.suffix)
  | nesting kind hroom h => exact .nesting kind hroom (h.of_leads hst)

/-- What keeps the count of brackets may stand before a step. -/
theorem Advances.of_leads {x : Except Stop (α × List Char)}
    (h : Advances Scan.outside t room x) (hst : Leads Scan.outside s t) :
    Advances Scan.outside s room x :=
  (h.imp fun _ hr => hst.trans hr).imp_error fun _ hstop => hstop.of_leads hst

theorem Advances.of_leads_entered {x : Except Stop (α × List Char)}
    (h : Advances Scan.entered t room x) (hst : Leads Scan.outside s t) :
    Advances Scan.entered s room x :=
  (h.imp fun _ hr => hst.entered hr).imp_error fun _ hstop => hstop.of_leads hst

/-- A step behind a value goes on where that one ended, up to the bracket around both. -/
theorem Advances.bind {x : Except Stop (α × List Char)}
    {f : α × List Char → Except Stop (β × List Char)} (hx : Advances Scan.outside s room x)
    (hf : ∀ a t, Advances Scan.entered t room (f (a, t))) :
    Advances Scan.entered s room (x >>= f) :=
  Gives.bind hx fun r hr => (hf r.1 r.2).of_leads_entered hr

/-- A step behind the bracket that opens a value stops there if there is no room. -/
theorem Advances.opening {kind : Kind} {c : Char} {step : Room → Step α}
    (hc : c = '[' ∨ c = '\x7b') (h : ∀ room, Advances Scan.entered s room (step room)) :
    Advances Scan.outside (c :: s) room (inside kind room step) := by
  refine Room.enter_cases (fun hroom => .error (.nesting kind hroom (deepens_opening hc s)))
    fun left hleft => ?_
  refine ((h left).imp fun _ hr => hr.opening hc).imp_error fun stop hstop => ?_
  cases hstop with
  | complaint c left => exact .complaint c left
  | digits h => exact .digits (h.of_suffix (List.suffix_cons c s))
  | nesting kind hroom h => exact .nesting kind (hleft _ hroom) (h.opening hc)

end Steps

/-! ## §2 Strings and numbers -/

theorem advances_stringBody (start s : List Char) (room : Room) :
    Advances Scan.outside ('"' :: s) room (stringBody start s) := by
  refine Gives.map ((gives_pieces start s).imp_error ?_) fun r hr => Leads.quote hr
  rintro _ ⟨c, left, rfl⟩
  exact .complaint c left

theorem advances_numberAfterSign {start s : List Char} (h : Leads Scan.outside start s)
    (negative : Bool) (room : Room) :
    Advances Scan.outside start room (numberAfterSign start negative s) := by
  unfold numberAfterSign
  cases hwhole : wholeDigits s with
  | none => exact advances_complaint ..
  | some r =>
    obtain ⟨whole, left⟩ := r
    obtain ⟨rfl, hdigits⟩ := wholeDigits_eq_some hwhole
    have hleft : Leads Scan.outside start (exponentPart (fractionDigits left).2).2 :=
      h.trans ((leads_digits hdigits left).trans
        ((leads_fractionDigits left).trans (leads_exponentPart _)))
    dsimp only
    split
    · split
      · exact .ok hleft
      · rename_i hlong
        have hinfix : whole <:+: whole ++ left := (List.prefix_append whole left).isInfix
        exact .error (.digits ⟨Nat.not_le.mp hlong, whole, hinfix.trans h.suffix.isInfix, rfl,
          hdigits⟩)
    · exact .ok hleft

/-! ## §3 Values -/

mutual

theorem advances_value : ∀ (fuel : Nat) (s : List Char) (room : Room),
    Advances Scan.outside s room (value fuel s room)
  | 0, _, _ => advances_complaint ..
  | fuel + 1, s, room => by
    rw [value.eq_def]
    dsimp only
    split
    · exact advances_complaint ..
    · exact (advances_stringBody _ _ room).map fun r hr => hr
    · rename_i rest
      refine Advances.opening (Or.inr rfl) fun room => ?_
      split
      · rename_i left hleft
        exact .ok (leads_of_skipSpace_closing hleft (Or.inr rfl))
      · refine Advances.of_leads_entered ?_ (leads_skipSpace rest)
        exact Gives.map (advances_members fuel (skipSpace rest) room) fun r hr => hr
    · rename_i rest
      refine Advances.opening (Or.inl rfl) fun room => ?_
      split
      · rename_i left hleft
        exact .ok (leads_of_skipSpace_closing hleft (Or.inl rfl))
      · refine Advances.of_leads_entered ?_ (leads_skipSpace rest)
        exact Gives.map (advances_items fuel (skipSpace rest) room) fun r hr => hr
    · split
      · rename_i hname
        exact .ok (leads_name? hname)
      · split
        · rename_i hminus
          exact advances_numberAfterSign (leads_cons (hminus ▸ by decide) _) _ room
        · exact advances_numberAfterSign (.refl _) _ room

theorem advances_items : ∀ (fuel : Nat) (s : List Char) (room : Room),
    Advances Scan.entered s room (items fuel s room)
  | 0, _, _ => advances_complaint ..
  | fuel + 1, s, room => by
    rw [items.eq_def]
    refine (advances_value fuel s room).bind fun v t => ?_
    dsimp only
    split
    · rename_i left hleft
      exact .ok (leads_of_skipSpace_closing hleft (Or.inl rfl))
    · rename_i left hleft
      refine Advances.of_leads_entered ?_ (leads_of_skipSpace hleft (by decide))
      refine Advances.of_leads_entered ?_ (leads_skipSpace left)
      exact Gives.bind (advances_items fuel (skipSpace left) room) fun r hr => .ok hr
    · exact advances_complaint ..

theorem advances_members : ∀ (fuel : Nat) (s : List Char) (room : Room),
    Advances Scan.entered s room (members fuel s room)
  | 0, _, _ => advances_complaint ..
  | fuel + 1, s, room => by
    rw [members.eq_def]
    dsimp only
    split
    · rename_i rest
      refine (advances_stringBody _ rest room).bind fun k t => ?_
      dsimp only
      split
      · rename_i left hleft
        refine Advances.of_leads_entered ?_ (leads_of_skipSpace hleft (by decide))
        refine Advances.of_leads_entered ?_ (leads_skipSpace left)
        refine (advances_value fuel (skipSpace left) room).bind fun v u => ?_
        dsimp only
        split
        · rename_i left hleft
          exact .ok (leads_of_skipSpace_closing hleft (Or.inr rfl))
        · rename_i left hleft
          refine Advances.of_leads_entered ?_ (leads_of_skipSpace hleft (by decide))
          refine Advances.of_leads_entered ?_ (leads_skipSpace left)
          exact Gives.bind (advances_members fuel (skipSpace left) room) fun r hr => .ok hr
        · exact advances_complaint ..
      · exact advances_complaint ..
    · exact advances_complaint ..

end

/-! ## §4 Documents -/

/-- What a text needs for the reader to give up on it: a run of more digits than an integer may
have, or more brackets open inside one another than there is room for. -/
inductive GivesUp (s : List Char) (room : Room) : ReadError → Prop
  | digits {n : Nat} : HasLongNumeral s n → GivesUp s room (.tooManyDigits n)
  | nesting (kind : Kind) {n : Nat} : room = some n → NestsBeyond s n →
      GivesUp s room (.tooNested kind)

/-- **A text that is no JSON document is complained about, unless it holds a run of more digits than
an integer may have or nests deeper than there is room for.** -/
theorem givesUp_of_read {s : List Char} {room : Room} {e : ReadError}
    (h : read s room = .error e) : (∃ form, e = .form form) ∨ GivesUp s room e := by
  unfold read at h
  split at h
  · cases h
    exact Or.inl ⟨_, rfl⟩
  · dsimp only at h
    split at h
    · rename_i stop hstop
      have hstops := ((advances_value _ _ room).of_eq_error hstop).of_leads (leads_skipSpace s)
      cases hstops with
      | complaint c left =>
        cases h
        exact Or.inl ⟨_, rfl⟩
      | digits hlong =>
        cases h
        exact Or.inr (.digits hlong)
      | nesting kind hroom hnests =>
        cases h
        exact Or.inr (.nesting kind hroom hnests.nestsBeyond)
    · split at h
      · cases h
      · cases h
        exact Or.inl ⟨_, rfl⟩

/-- One opening bracket more than there is room for is given up on, whatever follows. -/
theorem value_openings (rest : List Char) : ∀ (n fuel : Nat), 2 * n < fuel →
    value fuel (List.replicate (n + 1) '[' ++ rest) (some n) = .error (.tooNested .sequence)
  | 0, fuel + 1, _ => rfl
  | n + 1, fuel + 2, hfuel => by
    have hinner := value_openings rest n fuel (by omega)
    rw [List.replicate_succ, List.cons_append] at hinner
    have hitems : items (fuel + 1) ('[' :: (List.replicate n '[' ++ rest)) (some n) =
        .error (.tooNested .sequence) := by
      rw [items, hinner]
      rfl
    have hvalue : value (fuel + 2) ('[' :: '[' :: (List.replicate n '[' ++ rest)) (some (n + 1)) =
        (items (fuel + 1) ('[' :: (List.replicate n '[' ++ rest)) (some n)).map
          fun r => (.sequence r.1, r.2) := rfl
    rw [List.replicate_succ, List.replicate_succ, List.cons_append, List.cons_append, hvalue,
      hitems]
    rfl

theorem read_openings (n : Nat) :
    read (List.replicate (n + 1) '[') (some n) = .error (.tooNested .sequence) := by
  have hvalue := value_openings [] n (fuelFor (List.replicate (n + 1) '['))
    (by rw [fuelFor, List.length_replicate]; omega)
  rw [List.append_nil] at hvalue
  have hhead : (List.replicate (n + 1) '[').head? ≠ some '\uFEFF' := by
    rw [List.replicate_succ, List.head?_cons]
    decide
  have hskip : skipSpace (List.replicate (n + 1) '[') = List.replicate (n + 1) '[' := rfl
  rw [read, if_neg hhead]
  dsimp only
  rw [hskip, hvalue]
  rfl

end SchemaDoc.Json
