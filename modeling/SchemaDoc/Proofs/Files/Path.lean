/-
SchemaDoc.Proofs.Files.Path — paths made of names.

A path that is read from a text has names that are not empty and hold no
slash. Joining and resolving paths only take names away and put them together,
so this stays true of every path that comes from such paths; the text of one
starts with as many slashes as its root says.
-/
import SchemaDoc.Files.Tree

namespace SchemaDoc

namespace Text

/-- What lies between the occurrences of a character does not hold it. -/
theorem not_mem_of_mem_cutAt {mark : Char} : ∀ {s part : List Char},
    part ∈ cutAt mark s → mark ∉ part
  | [], part, h => by
    simp only [cutAt, List.mem_singleton] at h
    simp [h]
  | c :: rest, part, h => by
    have ih : ∀ {part}, part ∈ cutAt mark rest → mark ∉ part := not_mem_of_mem_cutAt
    simp only [cutAt] at h
    split at h
    · rcases List.mem_cons.mp h with rfl | h
      · simp
      · exact ih h
    · rename_i hc
      split at h
      · rename_i first parts he
        rcases List.mem_cons.mp h with rfl | h
        · simp only [List.mem_cons, not_or]
          exact ⟨fun e => hc e.symm, ih (he ▸ List.mem_cons_self ..)⟩
        · exact ih (he ▸ List.mem_cons_of_mem _ h)
      · simp only [List.mem_singleton] at h
        simp [h, Ne.symm hc]

end Text

namespace Path

/-- The names of a path are names: they are not empty and hold no slash. -/
def Named (p : Path) : Prop := ∀ n ∈ p.names, n ≠ "" ∧ '/' ∉ n.toList

theorem named_ofString (s : String) : (ofString s).Named := by
  intro n hn
  simp only [ofString, namesOf, List.mem_map, List.mem_filter, Bool.and_eq_true,
    Bool.not_eq_true'] at hn
  obtain ⟨part, ⟨hpart, hempty, -⟩, rfl⟩ := hn
  refine ⟨fun h => ?_, ?_⟩
  · have : part = [] := by simpa using congrArg String.toList h
    simp [this] at hempty
  · rw [String.toList_ofList]
    exact Text.not_mem_of_mem_cutAt hpart

theorem Named.join {p q : Path} (hp : p.Named) (hq : q.Named) : (p.join q).Named := by
  unfold Path.join
  split
  · exact hq
  · intro n hn
    exact (List.mem_append.mp hn).elim (hp n) (hq n)

theorem mem_of_mem_settleFrom {n : String} : ∀ {before names : List String},
    n ∈ settleFrom before names → n ∈ before ∨ n ∈ names
  | before, [], h => Or.inl (List.mem_reverse.mp h)
  | before, name :: rest, h => by
    simp only [settleFrom] at h
    split at h
    · rcases mem_of_mem_settleFrom h with h | h
      · exact Or.inl (List.mem_of_mem_tail h)
      · exact Or.inr (List.mem_cons_of_mem _ h)
    · rcases mem_of_mem_settleFrom h with h | h
      · rcases List.mem_cons.mp h with rfl | h
        · exact Or.inr (List.mem_cons_self ..)
        · exact Or.inl h
      · exact Or.inr (List.mem_cons_of_mem _ h)

/-- Resolving a path keeps some of its names and starts at the root. -/
theorem Named.resolve {p workingDirectory q : Path} (h : (workingDirectory.join p).Named)
    (hq : p.resolve workingDirectory = .ok q) : q.Named ∧ q.root = .slash := by
  unfold Path.resolve at hq
  cases hr : resolveFrom [] (workingDirectory.join p).names with
  | error f =>
    rw [hr] at hq
    cases hq
  | ok names =>
    rw [hr] at hq
    cases hq
    refine ⟨fun n hn => h n ?_, rfl⟩
    have hn : n ∈ names := hn
    rw [eq_settleFrom_of_resolveFrom hr] at hn
    exact (mem_of_mem_settleFrom hn).resolve_left (by simp)

/-- The text of names does not start with a slash. -/
theorem head?_intercalate {names : List String} (h : ∀ n ∈ names, n ≠ "" ∧ '/' ∉ n.toList) :
    ("/".intercalate names).toList.head? ≠ some '/' := by
  cases names with
  | nil => simp
  | cons n rest =>
    obtain ⟨hne, hslash⟩ := h n (List.mem_cons_self ..)
    have hn : n.toList ≠ [] := fun he => hne (by simpa using congrArg String.ofList he)
    obtain ⟨c, cs, hcs⟩ := List.exists_cons_of_ne_nil hn
    have hc : c ≠ '/' := fun he => hslash (by simp [hcs, he])
    cases rest with
    | nil => simp [hcs, hc]
    | cons m rest => simp [String.intercalate_cons_cons, hcs, hc]

end Path

end SchemaDoc
