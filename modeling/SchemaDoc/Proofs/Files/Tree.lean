/-
SchemaDoc.Proofs.Files.Tree — a file that is written is read back.

Writing into a file puts other bytes at its place. Paths lead where they led
before, since following one only asks where the directories are
(`follow_put`); so the same path leads to the new bytes (`openFile_write`).
-/
import SchemaDoc.Proofs.Failing
import SchemaDoc.Files.Tree

namespace SchemaDoc

namespace Tree

variable {t : Tree} {place : List String} {bytes : List UInt8}

theorem lookup_cons_eq (q names : List String) (e : Entry) (es : List (List String × Entry)) :
    ((names, e) :: es).lookup q = if q = names then some e else es.lookup q := by
  by_cases h : q = names
  · simp [h]
  · rw [List.lookup_cons, beq_false_of_ne h, if_neg h]

theorem lookup_map_put_of_ne {q : List String} (h : q ≠ place) (e : Entry) :
    ∀ es : List (List String × Entry),
      (es.map fun entry => if entry.1 == place then (place, e) else entry).lookup q = es.lookup q
  | [] => rfl
  | (names, old) :: rest => by
    rw [List.map_cons, lookup_cons_eq, lookup_cons_eq, lookup_map_put_of_ne h e rest]
    by_cases hnames : names = place
    · simp only [hnames, beq_self_eq_true, if_true, if_neg h]
    · simp only [beq_false_of_ne hnames, Bool.false_eq_true, if_false]

theorem lookup_map_put_self (e : Entry) : ∀ {es : List (List String × Entry)},
    (es.lookup place).isSome = true →
      (es.map fun entry => if entry.1 == place then (place, e) else entry).lookup place = some e
  | (names, old) :: rest, h => by
    rw [List.map_cons]
    by_cases hnames : names = place
    · simp only [hnames, beq_self_eq_true, if_true, lookup_cons_eq]
    · rw [lookup_cons_eq, if_neg fun heq => hnames heq.symm] at h
      simp only [beq_false_of_ne hnames, Bool.false_eq_true, if_false, lookup_cons_eq,
        if_neg fun heq : place = names => hnames heq.symm, lookup_map_put_self e h]

theorem any_of_lookup : ∀ {es : List (List String × Entry)},
    (es.lookup place).isSome = true → es.any (·.1 == place) = true
  | (names, old) :: rest, h => by
    rw [List.any_cons, Bool.or_eq_true]
    by_cases hnames : names = place
    · exact Or.inl (beq_iff_eq.mpr hnames)
    · rw [lookup_cons_eq, if_neg fun heq => hnames heq.symm] at h
      exact Or.inr (any_of_lookup h)

/-- Where a file gets other bytes, they stand; elsewhere nothing changes. -/
theorem at?_put (h : t.at? place = some (.file bytes)) (e : Entry) (q : List String) :
    (t.put place e).at? q = if q = place then some e else t.at? q := by
  have hne : place ≠ [] := by
    rintro rfl
    cases h
  have hempty : place.isEmpty = false := List.isEmpty_eq_false_iff.mpr hne
  have hlookup : (t.entries.lookup place).isSome = true := by
    rw [at?, hempty] at h
    exact Option.isSome_of_eq_some h
  rw [put, if_pos (any_of_lookup hlookup)]
  unfold at?
  by_cases hq : q = place
  · subst hq
    simp only [hempty, Bool.false_eq_true, if_false, if_true, lookup_map_put_self e hlookup]
  · simp only [if_neg hq, lookup_map_put_of_ne hq e]

/-- Paths lead where they led before. -/
theorem follow_put (h : t.at? place = some (.file bytes)) (new : List UInt8) :
    ∀ names here, (t.put place (.file new)).follow here names = t.follow here names
  | [], here => by rw [follow, follow]
  | name :: rest, here => by
    rw [follow, follow, at?_put h]
    by_cases hhere : here = place
    · rw [if_pos hhere, hhere, h]
    · simp only [if_neg hhere, follow_put h new rest]

/-- The entry of a file that is written is the file with the new bytes. -/
theorem entry_write {p : Path} (h : t.entry p = .ok (.file bytes)) (new : List UInt8) :
    (t.write p new).entry p = .ok (.file new) := by
  obtain ⟨place, hplace, hat⟩ := bind_eq_ok.mp h
  have hfile : t.at? place = some (.file bytes) := by
    split at hat
    · rename_i e he
      cases hat
      exact he
    · cases hat
  rw [write, hplace]
  show ((t.put place (.file new)).entry p) = _
  rw [entry, follow_put hfile, hplace, ok_bind, at?_put hfile, if_pos rfl]
  rfl

end Tree

namespace Disk

variable {d : Disk} {p : Path} {bytes : List UInt8}

theorem openFile_eq_ok :
    d.openFile p = .ok bytes ↔ p.fault? = none ∧ d.entry p = .ok (.file bytes) := by
  unfold openFile
  simp only
  split <;> simp_all

/-- **What is written into a file is read from it.** -/
theorem openFile_write (h : d.openFile p = .ok bytes) (new : List UInt8) :
    (d.write p new).openFile p = .ok new := by
  obtain ⟨hfault, hentry⟩ := openFile_eq_ok.mp h
  refine openFile_eq_ok.mpr ⟨hfault, ?_⟩
  unfold entry at hentry ⊢
  split at hentry
  · cases hentry
  · rename_i hshort
    rw [if_neg hshort]
    exact Tree.entry_write hentry new

end Disk

end SchemaDoc
