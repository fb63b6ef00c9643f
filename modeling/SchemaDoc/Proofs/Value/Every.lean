/-
SchemaDoc.Proofs.Value.Every — values of which every part is such and such.

A condition on single values is asked of a value and of all values inside it,
those of pairs and of values that hold themselves included (`every`). What is
taken out of such a value is such a value.

§1 what is such, §2 what is taken out.
-/
import SchemaDoc.Value.Basic

namespace SchemaDoc

/-- What is found under a key is the value of an entry. -/
theorem Entries.mem_of_get? {key : Scalar} {v : Value} : ∀ {entries : List (Scalar × Value)},
    get? entries key = some v → ∃ k, (k, v) ∈ entries
  | [], h => nomatch h
  | (k, w) :: rest, h => by
    rw [get?] at h
    split at h
    · cases h
      exact ⟨k, List.mem_cons_self ..⟩
    · obtain ⟨k', hk⟩ := mem_of_get? h
      exact ⟨k', List.mem_cons_of_mem _ hk⟩

/-! ## §1 What is such -/

namespace Value

mutual

/-- The value and every value inside it is such and such. -/
def every (p : Value → Bool) : Value → Bool
  | .scalar s => p (.scalar s)
  | .sequence items => p (.sequence items) && everyItem p items
  | .pair first second => p (.pair first second) && first.every p && second.every p
  | .set members => p (.set members)
  | .mapping entries => p (.mapping entries) && everyEntry p entries
  | .looped mark body => p (.looped mark body) && body.every p

/-- Every item, and every value inside it, is such and such. -/
def everyItem (p : Value → Bool) : List Value → Bool
  | [] => true
  | v :: rest => v.every p && everyItem p rest

/-- The value of every entry, and every value inside it, is such and such. -/
def everyEntry (p : Value → Bool) : List (Scalar × Value) → Bool
  | [] => true
  | (_, v) :: rest => v.every p && everyEntry p rest

end

/-! ## §2 What is taken out -/

variable {p q : Value → Bool}

mutual

/-- Two conditions asked of every part at once. -/
theorem every_and : ∀ v : Value,
    v.every (fun u => p u && q u) = (v.every p && v.every q)
  | .scalar _ => rfl
  | .sequence items => by simp only [every, everyItem_and items, Bool.and_assoc, Bool.and_left_comm]
  | .pair first second => by
    simp only [every, every_and first, every_and second, Bool.and_assoc, Bool.and_left_comm]
  | .set _ => rfl
  | .mapping entries => by
    simp only [every, everyEntry_and entries, Bool.and_assoc, Bool.and_left_comm]
  | .looped _ body => by simp only [every, every_and body, Bool.and_assoc, Bool.and_left_comm]

theorem everyItem_and : ∀ items : List Value,
    everyItem (fun u => p u && q u) items = (everyItem p items && everyItem q items)
  | [] => rfl
  | v :: rest => by
    simp only [everyItem, every_and v, everyItem_and rest, Bool.and_assoc, Bool.and_left_comm]

theorem everyEntry_and : ∀ entries : List (Scalar × Value),
    everyEntry (fun u => p u && q u) entries = (everyEntry p entries && everyEntry q entries)
  | [] => rfl
  | (_, v) :: rest => by
    simp only [everyEntry, every_and v, everyEntry_and rest, Bool.and_assoc, Bool.and_left_comm]

end

theorem every_self {v : Value} (h : v.every p = true) : p v = true := by
  cases v <;> simp_all [every]

theorem every_of_mem {v : Value} : ∀ {items : List Value}, everyItem p items = true → v ∈ items →
    v.every p = true
  | [], _, h => nomatch h
  | w :: rest, hall, h => by
    simp only [everyItem, Bool.and_eq_true] at hall
    rcases List.mem_cons.mp h with rfl | h
    · exact hall.1
    · exact every_of_mem hall.2 h

theorem every_of_entry {e : Scalar × Value} : ∀ {entries : List (Scalar × Value)},
    everyEntry p entries = true → e ∈ entries → e.2.every p = true
  | [], _, h => nomatch h
  | (k, w) :: rest, hall, h => by
    simp only [everyEntry, Bool.and_eq_true] at hall
    rcases List.mem_cons.mp h with rfl | h
    · exact hall.1
    · exact every_of_entry hall.2 h

theorem every_bare : ∀ {v : Value}, v.every p = true → v.bare.every p = true
  | .looped _ body, h => by
    simp only [every, Bool.and_eq_true] at h
    exact every_bare (v := body) h.2
  | .scalar _, h => h
  | .sequence _, h => h
  | .pair _ _, h => h
  | .set _, h => h
  | .mapping _, h => h

theorem every_of_sequence {items : List Value} (h : (Value.sequence items).every p = true) :
    ∀ v ∈ items, v.every p = true := by
  simp only [every, Bool.and_eq_true] at h
  exact fun v hv => every_of_mem h.2 hv

theorem every_of_pair {first second : Value} (h : (Value.pair first second).every p = true) :
    first.every p = true ∧ second.every p = true := by
  simp only [every, Bool.and_eq_true] at h
  exact ⟨h.1.2, h.2⟩

theorem every_of_mapping {entries : List (Scalar × Value)}
    (h : (Value.mapping entries).every p = true) : ∀ e ∈ entries, e.2.every p = true := by
  simp only [every, Bool.and_eq_true] at h
  exact fun e he => every_of_entry h.2 he

theorem every_of_get? {v w : Value} {key : String} (h : v.every p = true)
    (hw : v.get? key = some w) : w.every p = true := by
  have hbare := every_bare h
  unfold get? at hw
  split at hw
  · rename_i entries he
    rw [he] at hbare
    obtain ⟨k, hk⟩ := Entries.mem_of_get? hw
    exact every_of_mapping hbare _ hk
  · cases hw

end Value

end SchemaDoc
