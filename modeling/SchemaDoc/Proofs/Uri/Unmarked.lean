/-
SchemaDoc.Proofs.Uri.Unmarked — URIs without their fragments.

The fragment starts at the first number sign, so none is left before it. A
URI whose fragment is cut off can be told from one with a fragment.

§1 parts, §2 putting together.
-/
import SchemaDoc.Proofs.Failing
import SchemaDoc.Proofs.Text.Cut
import SchemaDoc.Uri.Join

namespace SchemaDoc.Uri

/-! ## §1 Parts -/

/-- No letter is a number sign in the other case. -/
theorem eq_hash_of_toLower {c : Char} (h : c.toLower = '#') : c = '#' := by
  unfold Char.toLower at h
  split at h
  · rename_i hc
    have h := congrArg (fun d : Char => d.val.toNat) h
    have h1 := UInt32.le_iff_toNat_le.mp hc.1
    have h2 := UInt32.le_iff_toNat_le.mp hc.2
    simp only [UInt32.toNat_add] at h
    have e1 : 'A'.val.toNat = 65 := rfl
    have e2 : 'Z'.val.toNat = 90 := rfl
    have e3 : '#'.val.toNat = 35 := rfl
    have e4 : ('a'.val - 'A'.val).toNat = 32 := rfl
    omega
  · exact h

/-- No part of a reference but the fragment has the mark of one. -/
structure Parts.Unmarked (p : Parts) : Prop where
  scheme : '#' ∉ p.scheme
  authority : '#' ∉ p.authority
  path : '#' ∉ p.path
  query : '#' ∉ p.query

theorem not_mem_cutScheme (s : List Char) : '#' ∉ (cutScheme [] s).1 := by
  unfold cutScheme
  split
  · rename_i before rest _
    split
    · rename_i hs
      simp only [Bool.and_eq_true] at hs
      intro hm
      obtain ⟨c, hc, hl⟩ := List.mem_map.mp hm
      rw [eq_hash_of_toLower hl] at hc
      exact absurd (List.all_eq_true.mp hs.2 _ hc) (by decide)
    · exact List.not_mem_nil
  · exact List.not_mem_nil

/-- Taking a reference apart takes the mark away. -/
theorem unmarked_of_split {s : List Char} {p : Parts} (h : split s = .ok p) : p.Unmarked := by
  have hauthority : ∀ rest : List Char, '#' ∉ rest.takeWhile (!endsAuthority ·) := by
    intro rest hm
    have hends := List.all_eq_true.mp (List.all_takeWhile (p := (!endsAuthority ·)) (l := rest)) _ hm
    exact absurd hends (by decide)
  unfold split splitWith at h
  dsimp only at h
  split at h
  · cases h
  · cases h
  · cases h
    refine ⟨not_mem_cutScheme _, ?_,
      fun hm => Text.not_mem_cutOnce '#' _ (Text.cutOnce_before_subset '?' _ hm),
      fun hm => Text.not_mem_cutOnce '#' _ (Text.cutOnce_behind_subset '?' _ hm)⟩
    dsimp only
    split
    · exact hauthority _
    · exact List.not_mem_nil

/-! ## §2 Putting together -/

/-- A path with its parameters has only its characters and the mark of parameters. -/
theorem mem_of_mem_withParameters {scheme path : List Char} {c : Char}
    (h : c ∈ withParameters (cutParameters scheme path).1 (cutParameters scheme path).2) :
    c ∈ path ∨ c = ';' := by
  unfold cutParameters withParameters at h
  split at h
  · generalize hl : (path.reverse.takeWhile (· != '/')).reverse = last at h
    have hlast : last ⊆ path := fun d hd => by
      rw [← hl, List.mem_reverse] at hd
      exact List.mem_reverse.mp (List.takeWhile_subset _ hd)
    have hbefore : path.take (path.length - last.length) ++ (Text.cutOnce ';' last).1 ⊆ path :=
      List.append_subset.mpr
        ⟨List.take_subset _ _, fun d hd => hlast (Text.cutOnce_before_subset _ _ hd)⟩
    dsimp only at h
    split at h
    · exact Or.inl (hbefore h)
    · rcases List.mem_append.mp h with h | h
      · exact Or.inl (hbefore h)
      · rcases List.mem_cons.mp h with h | h
        · exact Or.inr h
        · exact Or.inl (hlast (Text.cutOnce_behind_subset _ _ h))
  · exact Or.inl h

/-- What is left of a URI without its fragment has no mark of one. -/
theorem not_mem_of_cutFragment {s uri fragment : String} (h : cutFragment s = .ok (uri, fragment)) :
    '#' ∉ uri.toList := by
  unfold cutFragment at h
  dsimp only at h
  split at h
  · obtain ⟨p, hp, h⟩ := bind_eq_ok.mp h
    have hu := unmarked_of_split hp
    cases h
    have hpath : '#' ∉ withParameters (cutParameters p.scheme p.path).1
        (cutParameters p.scheme p.path).2 := fun hm =>
      (mem_of_mem_withParameters hm).elim hu.path (by decide)
    have hquery : '#' ∉ (if p.query.isEmpty then [] else '?' :: p.query) := by
      split
      · exact List.not_mem_nil
      · simpa using hu.query
    have hscheme : '#' ∉ (if p.scheme.isEmpty then [] else p.scheme ++ [':']) := by
      split
      · exact List.not_mem_nil
      · simpa using hu.scheme
    have hbody : ∀ q : List Char, '#' ∉ q →
        '#' ∉ if (!p.authority.isEmpty || (!p.scheme.isEmpty && schemeIn authoritySchemes p.scheme
          && !(['/', '/'].isPrefixOf q))) then
            ['/', '/'] ++ p.authority ++ (if !q.isEmpty && q.head? != some '/' then '/' :: q else q)
          else q := by
      intro q hq
      split
      · split <;> simp [hu.authority, hq]
      · exact hq
    simp only [String.toList_ofList, Parts.toList, List.isEmpty_nil, if_true, List.append_nil,
      List.mem_append, not_or]
    exact ⟨⟨hscheme, by simpa using hbody _ hpath⟩, hquery⟩
  · rename_i hno
    cases h
    simpa using hno

end SchemaDoc.Uri
