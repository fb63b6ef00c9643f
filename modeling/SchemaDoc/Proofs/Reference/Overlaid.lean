/-
SchemaDoc.Proofs.Reference.Overlaid — entries laid over others.

Under a key stands what the upper entries have there, or else what the lower
ones have (`get?_layOver`). The keys are the upper ones and behind them the new
ones of the lower ones (`keys_layOver`). Entries are laid over others that were
laid over others before, and it does not matter from which end one begins
(`addNew_foldl`).

§1 keys, §2 entries.
-/
import SchemaDoc.Proofs.Value.Sameness
import SchemaDoc.Reference.Expand

namespace SchemaDoc.Reference

/-! ## §1 Keys -/

/-- Keys and behind them others that are new. -/
def addNew (keys more : List Scalar) : List Scalar :=
  more.foldl (fun acc k => if k.among acc then acc else acc ++ [k]) keys

/-- No key is there twice. -/
def Distinct (keys : List Scalar) : Prop := keys.Pairwise fun k k' => k'.same k = false

variable {keys others more : List Scalar}

theorem addNew_cons (keys more : List Scalar) (k : Scalar) :
    addNew keys (k :: more) = addNew (if k.among keys then keys else keys ++ [k]) more := rfl

/-- Of keys that are there once, those that are not among the others are new. -/
theorem addNew_eq (h : Distinct more) :
    addNew keys more = keys ++ more.filter fun k => !k.among keys := by
  induction more generalizing keys with
  | nil => simp [addNew]
  | cons k more ih =>
    obtain ⟨hk, hmore⟩ := List.pairwise_cons.mp h
    rw [addNew_cons, ih hmore]
    by_cases hin : k.among keys = true
    · rw [if_pos hin, List.filter_cons_of_neg (by simp [hin])]
    · have hsame : more.filter (fun k' => !k'.among (keys ++ [k]))
          = more.filter fun k' => !k'.among keys :=
        List.filter_congr fun k' hk' => by simp [Scalar.among, hk k' hk']
      rw [if_neg hin, hsame, List.filter_cons_of_pos (by simp [hin]), List.append_assoc,
        List.singleton_append]

theorem Distinct.filter (h : Distinct keys) (p : Scalar → Bool) : Distinct (keys.filter p) :=
  List.Pairwise.filter p h

theorem Distinct.addNew (h : Distinct keys) (hmore : Distinct more) :
    Distinct (addNew keys more) := by
  rw [addNew_eq hmore]
  refine List.pairwise_append.mpr ⟨h, hmore.filter _, fun k hk k' hk' => ?_⟩
  have hnew := (List.mem_filter.mp hk').2
  simp only [Scalar.among, Bool.not_eq_true', List.any_eq_false] at hnew
  exact Bool.eq_false_iff.mpr (hnew k hk)

/-- What is the same as one of some keys is among them, or the key is new beside it. -/
theorem among_append_new {k : Scalar} :
    k.among (keys ++ others.filter fun k => !k.among keys)
      = (k.among keys || k.among others) := by
  rw [Bool.eq_iff_iff]
  simp only [Scalar.among, List.any_append, Bool.or_eq_true, List.any_eq_true, List.mem_filter,
    Bool.not_eq_true', List.any_eq_false]
  constructor
  · rintro (h | ⟨k', ⟨hk', -⟩, hsame⟩)
    · exact Or.inl h
    · exact Or.inr ⟨k', hk', hsame⟩
  · rintro (h | ⟨k', hk', hsame⟩)
    · exact Or.inl h
    · by_cases hold : ∃ k'' ∈ keys, k'.same k'' = true
      · obtain ⟨k'', hk'', hsame'⟩ := hold
        exact Or.inl ⟨k'', hk'', Scalar.same_trans hsame hsame'⟩
      · exact Or.inr ⟨k', ⟨hk', fun k'' hk'' h => hold ⟨k'', hk'', h⟩⟩, hsame⟩

theorem addNew_assoc (hothers : Distinct others) (hmore : Distinct more) :
    addNew keys (addNew others more) = addNew (addNew keys others) more := by
  rw [addNew_eq (hothers.addNew hmore), addNew_eq hmore, addNew_eq hmore, addNew_eq hothers,
    List.filter_append, List.filter_filter, List.append_assoc]
  refine congrArg _ (congrArg _ (List.filter_congr fun k _ => ?_))
  rw [among_append_new, Bool.not_or]

/-- **Keys can be added from either end.** -/
theorem addNew_foldl {lists : List (List Scalar)} (hothers : Distinct others)
    (hlists : ∀ l ∈ lists, Distinct l) :
    addNew keys (lists.foldl addNew others) = lists.foldl addNew (addNew keys others) := by
  induction lists generalizing others with
  | nil => rfl
  | cons l lists ih =>
    obtain ⟨hl, hlists⟩ := List.forall_mem_cons.mp hlists
    rw [List.foldl_cons, List.foldl_cons, ih (hothers.addNew hl) hlists, addNew_assoc hothers hl]

theorem distinct_foldl {lists : List (List Scalar)} (h : Distinct keys)
    (hlists : ∀ l ∈ lists, Distinct l) : Distinct (lists.foldl addNew keys) := by
  induction lists generalizing keys with
  | nil => exact h
  | cons l lists ih =>
    obtain ⟨hl, hlists⟩ := List.forall_mem_cons.mp hlists
    exact ih (h.addNew hl) hlists

/-! ## §2 Entries -/

theorem get?_append (key : Scalar) : ∀ upper lower : List (Scalar × Value),
    Entries.get? (upper ++ lower) key = (Entries.get? upper key).or (Entries.get? lower key) := by
  intro upper lower
  induction upper with
  | nil => rfl
  | cons e rest ih =>
    rw [List.cons_append, Entries.get?, Entries.get?, ih]
    split <;> rfl

/-- The key of an entry is there if it is the same as one of the keys. -/
theorem has_eq_among (key : Scalar) (entries : List (Scalar × Value)) :
    Entries.has entries key = key.among (entries.map Prod.fst) := by
  induction entries with
  | nil => rfl
  | cons e rest ih =>
    rw [Entries.has] at ih ⊢
    rw [Entries.get?, List.map_cons, Scalar.among, List.any_cons]
    split
    · rename_i hk
      simp [hk]
    · rename_i hk
      rw [Bool.eq_false_iff.mpr hk, Bool.false_or]
      exact ih

/-- What is the same as a key that is there is there. -/
theorem has_of_same {entries : List (Scalar × Value)} {key k : Scalar} (hsame : key.same k = true)
    (h : Entries.has entries k = true) : Entries.has entries key = true := by
  rw [has_eq_among, Scalar.among, List.any_eq_true] at h ⊢
  obtain ⟨k', hk', hsame'⟩ := h
  exact ⟨k', hk', Scalar.same_trans hsame hsame'⟩

theorem layOver_cons (upper rest : List (Scalar × Value)) (e : Scalar × Value) :
    layOver upper (e :: rest)
      = layOver (if Entries.has upper e.1 then upper else upper ++ [e]) rest := rfl

theorem mem_layOver {e : Scalar × Value} : ∀ {lower upper : List (Scalar × Value)},
    e ∈ layOver upper lower → e ∈ upper ∨ e ∈ lower
  | [], _, h => Or.inl h
  | f :: rest, upper, h => by
    rw [layOver_cons] at h
    rcases mem_layOver h with h | h
    · split at h
      · exact Or.inl h
      · rcases List.mem_append.mp h with h | h
        · exact Or.inl h
        · exact Or.inr (List.mem_singleton.mp h ▸ List.mem_cons_self ..)
    · exact Or.inr (List.mem_cons_of_mem _ h)

theorem subset_layOver : ∀ lower upper : List (Scalar × Value), upper ⊆ layOver upper lower
  | [], _, _, h => h
  | f :: rest, upper, e, h => by
    rw [layOver_cons]
    refine subset_layOver rest _ ?_
    split
    · exact h
    · exact List.mem_append_left _ h

/-- **What stands under a key** is that of the upper entries, or else that of the lower ones. -/
theorem get?_layOver (key : Scalar) : ∀ lower upper : List (Scalar × Value),
    Entries.get? (layOver upper lower) key
      = (Entries.get? upper key).or (Entries.get? lower key) := by
  intro lower
  induction lower with
  | nil =>
    intro upper
    simp [layOver, Entries.get?]
  | cons e rest ih =>
    intro upper
    obtain ⟨k, v⟩ := e
    rw [layOver_cons, ih, Entries.get?]
    by_cases hk : key.same k = true
    · by_cases hhas : Entries.has upper k = true
      · obtain ⟨w, hw⟩ := Option.isSome_iff_exists.mp (has_of_same hk hhas)
        rw [if_pos hhas, hw]
        rfl
      · rw [if_neg hhas, get?_append, Option.or_assoc, Entries.get?, if_pos hk, if_pos hk]
        rfl
    · rw [if_neg hk]
      split
      · rfl
      · rw [get?_append, Option.or_assoc, Entries.get?, if_neg hk]
        rfl

/-- **The keys of entries laid over others** are those of the upper ones and then the new ones. -/
theorem keys_layOver : ∀ lower upper : List (Scalar × Value),
    (layOver upper lower).map Prod.fst = addNew (upper.map Prod.fst) (lower.map Prod.fst)
  | [], _ => rfl
  | e :: rest, upper => by
    rw [layOver_cons, keys_layOver rest, List.map_cons, addNew_cons, has_eq_among]
    split
    · rfl
    · rw [List.map_append, List.map_singleton]

end SchemaDoc.Reference
