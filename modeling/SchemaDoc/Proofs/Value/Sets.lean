/-
SchemaDoc.Proofs.Value.Sets — the order of texts as keys.

A text has no slot by its value alone, the empty text apart. So entries whose
keys are different texts are shown as they come, but for the one under the empty
text, which stands in front (`inKeyOrder_of_texts`); in particular none is lost.
-/
import SchemaDoc.Value.Sets

namespace SchemaDoc.Sets

variable {α : Type}

theorem residue?_text (s : String) : residue? (.text s) = if s = "" then some 0 else none := by
  split
  · rename_i h
    rw [h]
    rfl
  · rename_i h
    unfold residue?
    split <;> simp_all

/-- A key is the empty text. -/
def isEmptyText (e : Scalar × α) : Bool := e.1 == .text ""

/-- A table that holds some entries under texts: in a slot that under the empty text, the others
behind them. -/
structure Holds (t : Table (Scalar × α)) (entries : List (Scalar × α)) : Prop where
  slots : t.slots.toList.filterMap id = (entries.filter isEmptyText).map fun e => (0, e)
  loose : t.loose.toList = entries.filter fun e => !isEmptyText e
  size : 0 < t.slots.size

theorem slotOf_of_free {slots : Slots α} (hfree : slots[0]? = some none) (fuel rest : Nat) :
    slotOf slots (fuel + 1) 0 rest = some 0 := by
  have hsize : 0 < slots.size := (Array.getElem?_eq_some_iff.mp hfree).1
  have hfound : ∀ count, freeFrom slots 0 (count + 1) = some 0 := by
    intro count
    rw [freeFrom, hfree, if_pos (by simpa using hsize)]
  have htried : ∃ count, tried slots.size 0 = count + 1 := by
    unfold tried
    split
    · exact ⟨9, rfl⟩
    · exact ⟨0, rfl⟩
  obtain ⟨count, hcount⟩ := htried
  rw [slotOf, hcount, hfound]

/-- The first member of a table, if its residue is zero, stands in the first slot. -/
theorem filterMap_put {slots : Slots α} (hfree : slots.toList.filterMap id = [])
    (hsize : 0 < slots.size) (m : α) :
    (put slots (0, m)).toList.filterMap id = [(0, m)] ∧ 0 < (put slots (0, m)).size := by
  have hnone : ∀ slot ∈ slots.toList, slot = none := by simpa using List.filterMap_eq_nil_iff.mp hfree
  have hfirst : slots[0]? = some none := by
    rw [Array.getElem?_eq_getElem hsize, hnone _ (Array.getElem_mem_toList hsize)]
  have hput : put slots (0, m) = slots.setIfInBounds 0 (some (0, m)) := by
    have hword : ((0 : Int) % (Nat.pow 2 64 : Nat)).toNat = 0 := rfl
    rw [put, hword, Nat.zero_mod, slotOf_of_free hfirst]
  rw [hput, Array.toList_setIfInBounds, Array.size_setIfInBounds]
  refine ⟨?_, hsize⟩
  obtain ⟨slot, rest, hslots⟩ := List.exists_cons_of_length_pos (l := slots.toList) (by simpa)
  rw [hslots] at hfree ⊢
  have hrest : rest.filterMap id = [] := by
    rw [List.filterMap_cons] at hfree
    split at hfree
    · exact hfree
    · cases hfree
  rw [List.set_cons_zero, List.filterMap_cons, id_eq, hrest]

theorem powerAbove_pos (n : Nat) : 0 < Table.powerAbove n := by
  unfold Table.powerAbove
  split
  · decide
  · exact Nat.two_pow_pos _

/-- Laying a table out anew keeps what it holds, if at most one entry is under the empty text. -/
theorem Holds.regrown {t : Table (Scalar × α)} {entries : List (Scalar × α)} (h : Holds t entries)
    (hone : (entries.filter isEmptyText).length ≤ 1) : Holds t.regrown entries := by
  unfold Table.regrown
  split
  · exact h
  · simp only
    generalize hsize : Table.powerAbove (if 50000 < t.count then t.count * 2 else t.count * 4)
      = size
    have hpos : 0 < (Array.replicate size (none : Option (Int × Scalar × α))).size := by
      rw [Array.size_replicate, ← hsize]
      exact powerAbove_pos _
    have hfree : (Array.replicate size (none : Option (Int × Scalar × α))).toList.filterMap id
        = [] := by simp
    rw [h.slots]
    cases hempty : entries.filter isEmptyText with
    | nil => exact ⟨by rw [hempty]; exact hfree, h.loose, hpos⟩
    | cons e rest =>
      rw [hempty, List.length_cons, Nat.add_le_add_iff_right (n := 1) (k := 0)] at hone
      obtain rfl := List.length_eq_zero_iff.mp (Nat.le_zero.mp hone)
      obtain ⟨hput, hput'⟩ := filterMap_put hfree hpos e
      exact ⟨by rw [hempty]; exact hput, h.loose, hput'⟩

theorem Holds.add {t : Table (Scalar × α)} {entries : List (Scalar × α)} {e : Scalar × α}
    (h : Holds t entries) (htext : ∃ s, e.1 = .text s)
    (hone : ((entries ++ [e]).filter isEmptyText).length ≤ 1) :
    Holds (t.add (residue? e.1) e) (entries ++ [e]) := by
  obtain ⟨s, hs⟩ := htext
  rw [List.filter_append] at hone
  rw [hs, residue?_text]
  by_cases hempty : s = ""
  · have he : isEmptyText e = true := by simp [isEmptyText, hs, hempty]
    have hnone : entries.filter isEmptyText = [] := by
      rw [List.filter_cons_of_pos he] at hone
      simpa using hone
    have hslots := h.slots
    rw [hnone] at hslots
    obtain ⟨hput, hput'⟩ := filterMap_put hslots h.size e
    rw [if_pos hempty]
    refine ⟨?_, ?_, hput'⟩
    · rw [List.filter_append, hnone, List.filter_cons_of_pos he]
      exact hput
    · rw [List.filter_append, ← h.loose]
      simp [Table.add, he]
  · have he : isEmptyText e = false := by simp [isEmptyText, hs, hempty]
    rw [if_neg hempty]
    refine ⟨?_, ?_, h.size⟩
    · rw [List.filter_append, List.filter_cons_of_neg (by simp [he]), List.filter_nil,
        List.append_nil, ← h.slots]
      rfl
    · rw [List.filter_append, ← h.loose]
      simp [Table.add, he]

theorem Holds.foldl {t : Table (Scalar × α)} {entries rest : List (Scalar × α)}
    (h : Holds t entries) (htext : ∀ e ∈ rest, ∃ s, e.1 = .text s)
    (hone : ((entries ++ rest).filter isEmptyText).length ≤ 1) :
    Holds (rest.foldl (fun t e => (t.add (residue? e.1) e).regrown) t) (entries ++ rest) := by
  induction rest generalizing t entries with
  | nil => rwa [List.append_nil]
  | cons e rest ih =>
    obtain ⟨he, hrest⟩ := List.forall_mem_cons.mp htext
    rw [List.append_cons] at hone ⊢
    have hfirst : ((entries ++ [e]).filter isEmptyText).length ≤ 1 := by
      rw [List.filter_append, List.length_append] at hone
      omega
    exact ih ((h.add he hfirst).regrown hfirst) hrest hone

/-- **Entries under different texts are all shown**: that under the empty text first, and the others
as they come. -/
theorem inKeyOrder_of_texts {entries : List (Scalar × α)} (htext : ∀ e ∈ entries, ∃ s, e.1 = .text s)
    (hone : (entries.filter isEmptyText).length ≤ 1) :
    inKeyOrder entries
      = entries.filter isEmptyText ++ entries.filter fun e => !isEmptyText e := by
  have hnone : Holds (Table.empty 8) ([] : List (Scalar × α)) := ⟨rfl, rfl, Nat.zero_lt_succ 7⟩
  have h := hnone.foldl htext hone
  rw [List.nil_append] at h
  rw [inKeyOrder]
  generalize entries.foldl (fun t e => (t.add (residue? e.1) e).regrown) (Table.empty 8) = t at h
  have hshown : (t.slots.toList.filterMap fun slot => slot.map (·.2))
      = (t.slots.toList.filterMap id).map (·.2) := by
    rw [List.map_filterMap]
    rfl
  rw [Table.toList, h.loose, hshown, h.slots, List.map_map]
  exact congrArg (· ++ _) (List.map_id _)

/-- Of entries under different keys at most one is under the empty text. -/
theorem length_filter_isEmptyText {entries : List (Scalar × α)}
    (h : (entries.map (·.1)).Nodup) : (entries.filter isEmptyText).length ≤ 1 := by
  have hsub : ((entries.filter isEmptyText).map (·.1)).Nodup :=
    h.sublist (List.filter_sublist.map _)
  have hall : ∀ k ∈ (entries.filter isEmptyText).map (·.1), k = .text "" := by
    intro k hk
    obtain ⟨e, he, rfl⟩ := List.mem_map.mp hk
    exact beq_iff_eq.mp (List.mem_filter.mp he).2
  rw [List.eq_replicate_of_mem hall, List.nodup_replicate, List.length_map] at hsub
  exact hsub

theorem mem_inKeyOrder {entries : List (Scalar × α)} {e : Scalar × α}
    (htext : ∀ e ∈ entries, ∃ s, e.1 = .text s) (h : (entries.map (·.1)).Nodup) :
    e ∈ inKeyOrder entries ↔ e ∈ entries := by
  rw [inKeyOrder_of_texts htext (length_filter_isEmptyText h), List.mem_append, List.mem_filter,
    List.mem_filter]
  cases isEmptyText e <;> simp

end SchemaDoc.Sets
