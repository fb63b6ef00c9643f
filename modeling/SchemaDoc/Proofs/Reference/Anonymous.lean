/-
SchemaDoc.Proofs.Reference.Anonymous — documents that say nothing of themselves.

A document without the keys for names and dialects is read in one dialect and
known by one URI. Looking into it enters nothing: all that comes of it is that
it can be looked into or not, and it can exactly if every value that its
keywords hold as a schema is a mapping of the same kind (`Searchable`). The
walk through it is given enough steps for that (`openAll_cases`), since the
mappings under distinct keywords are together smaller than the one that holds
them (`bulkOf_inside_lt`). So a registry of such documents fails to look into
them exactly if one of them cannot be looked into (`opened_cases`).

§1 values, §2 one resource, §3 how much lies inside, §4 looking inside,
§5 registries, §6 asking.
-/
import Mathlib.Algebra.GroupWithZero.Nat
import Mathlib.Order.Basic
import SchemaDoc.Proofs.Reference.File
import SchemaDoc.Proofs.Value.Sameness

namespace SchemaDoc.Reference

/-! ## §1 Values -/

/-- The keys by which a schema says which one it is and how it is to be read. -/
def identityKeys : List String := ["id", "$id", "$schema"]

/-- A mapping has none of these keys, and nothing holds itself. -/
def isAnonymousPart : Value → Bool
  | .mapping entries => identityKeys.all fun k => (Entries.get? entries (.text k)).isNone
  | .looped _ _ => false
  | _ => true

/-- No part of a value says anything of itself. -/
abbrev Anonymous (v : Value) : Prop := Such isAnonymousPart v

theorem ofStructure_isAnonymousPart : OfStructure isAnonymousPart := fun _ => rfl

variable {v : Value}

theorem bare_of_anonymous (hv : Anonymous v) : v.bare = v := by
  cases v with
  | looped mark body => exact absurd (Value.every_self hv) Bool.false_ne_true
  | _ => rfl

theorem exists_entries (hv : Anonymous v) (hm : v.isMapping = true) :
    ∃ entries, v = .mapping entries := by
  cases v with
  | looped mark body => exact absurd (Value.every_self hv) Bool.false_ne_true
  | mapping entries => exact ⟨entries, rfl⟩
  | scalar s => cases s <;> cases hm
  | _ => cases hm

theorem get?_of_anonymous {entries : List (Scalar × Value)} (hv : Anonymous (.mapping entries))
    {key : String} (hkey : key ∈ identityKeys) : Entries.get? entries (.text key) = none :=
  Option.isNone_iff_eq_none.mp (List.all_eq_true.mp (Value.every_self hv) key hkey)

/-! ## §2 One resource -/

/-- It is read in the dialect around it. -/
theorem ofValue_of_anonymous (hv : Anonymous v) (d : Dialect) :
    Resource.ofValue d v = .ok ⟨d, v⟩ := by
  unfold Resource.ofValue
  split
  · rename_i entries he
    rw [bare_of_anonymous hv] at he
    subst he
    rw [get?_of_anonymous hv (by decide)]
  · rfl

/-- A resource read in the dialect of documents that do not state theirs. -/
structure Resource.Anonymous (r : Resource) : Prop where
  dialect : r.dialect = .draft4
  contents : Reference.Anonymous r.contents

variable {r : Resource}

theorem Resource.Anonymous.eq (hr : r.Anonymous) : r = ⟨.draft4, r.contents⟩ := by
  obtain ⟨d, v⟩ := r
  obtain ⟨rfl, -⟩ := hr
  rfl

theorem lookUp_of_not_mapping (hv : Anonymous v) (hm : v.isMapping = false) (key : String) :
    ∃ f, lookUp v key = .error f := by
  unfold lookUp
  rw [bare_of_anonymous hv]
  split
  · cases hm
  · exact ⟨_, rfl⟩

theorem lookUp_of_mapping (hv : Anonymous v) (hm : v.isMapping = true) {key : String}
    (hkey : key ∈ identityKeys) : lookUp v key = .ok none := by
  obtain ⟨entries, rfl⟩ := exists_entries hv hm
  exact congrArg Except.ok (get?_of_anonymous hv hkey)

/-- A value cannot be asked for a name: it is no mapping, and it does not contain the key of a
reference either, which would spare it the question. -/
def Unaskable (v : Value) : Prop :=
  v.isMapping = false ∧ v.contains referenceKey ≠ .ok true

theorem name?_eq (v : Value) :
    (Resource.mk .draft4 v).name? = olderName v "id" >>= fun found => match found with
      | none => .ok none
      | some w => strippable w >>= fun s => .ok (some (withoutFragmentMark s)) := rfl

theorem name?_cases (hv : Anonymous v) :
    (Resource.mk .draft4 v).name? = .ok none ∧ ¬Unaskable v ∨
      (∃ f, (Resource.mk .draft4 v).name? = .error f) ∧ Unaskable v := by
  rw [name?_eq, olderName]
  by_cases hm : v.isMapping = true
  · refine Or.inl ⟨?_, fun h => absurd (hm.symm.trans h.1) (by decide)⟩
    have hgiven : lookUpGiven v "id" = .ok none := by
      rw [lookUpGiven, lookUp_of_mapping hv hm (by decide)]
      rfl
    obtain ⟨entries, rfl⟩ := exists_entries hv hm
    rw [hgiven]
    simp only [Value.contains, ok_bind]
    split <;> rfl
  · simp only [Bool.not_eq_true] at hm
    obtain ⟨f, hf⟩ := lookUp_of_not_mapping hv hm "id"
    have hgiven : lookUpGiven v "id" = .error f := by rw [lookUpGiven, hf]; rfl
    rw [hgiven]
    cases hc : v.contains referenceKey with
    | error e => exact Or.inr ⟨⟨e, by rw [referenceKey] at hc; simp [hc]⟩, hm, by simp [hc]⟩
    | ok has =>
      rw [referenceKey] at hc
      cases has with
      | true => exact Or.inl ⟨by simp [hc], fun h => h.2 hc⟩
      | false => exact Or.inr ⟨⟨f, by simp [hc]⟩, hm, by simp [referenceKey, hc]⟩

theorem name?_of_mapping (hv : Anonymous v) (hm : v.isMapping = true) :
    (Resource.mk .draft4 v).name? = .ok none := by
  rcases name?_cases hv with ⟨h, -⟩ | ⟨-, h⟩
  · exact h
  · exact absurd (hm.symm.trans h.1) (by decide)

theorem anchors_of_mapping (hv : Anonymous v) (hm : v.isMapping = true) :
    (Resource.mk .draft4 v).anchors = .ok [] := by
  show anchorInName ⟨.draft4, v⟩ "id" = .ok []
  rw [anchorInName, lookUp_of_mapping hv hm (by decide)]
  rfl

theorem anchors_of_not_mapping (hv : Anonymous v) (hm : v.isMapping = false) :
    ∃ f, (Resource.mk .draft4 v).anchors = .error f := by
  obtain ⟨f, hf⟩ := lookUp_of_not_mapping hv hm "id"
  refine ⟨f, ?_⟩
  show anchorInName ⟨.draft4, v⟩ "id" = .error f
  rw [anchorInName, hf]
  rfl

/-- What lies inside is read in the same dialect. -/
theorem yields_inside_anonymous (hv : Anonymous v) :
    Yields (fun found => ∀ r ∈ found, r.Anonymous) (Resource.mk .draft4 v).inside := by
  intro found hfound r hr
  have hcontents := yields_resources_inside (r := ⟨.draft4, v⟩) ofStructure_isAnonymousPart hv
    found hfound r hr
  obtain ⟨parts, hparts, hflat⟩ := bind_eq_ok.mp hfound
  cases hflat
  obtain ⟨rs, hrs, hr⟩ := List.mem_flatten.mp hr
  obtain ⟨part, -, hpart⟩ := exists_of_mem_mapM hparts rs hrs
  obtain ⟨ws, -, hws⟩ := bind_eq_ok.mp hpart
  obtain ⟨w, -, hw⟩ := exists_of_mem_mapM hws r hr
  rw [← contents_of_ofValue hw] at hw
  rw [ofValue_of_anonymous hcontents] at hw
  exact ⟨congrArg Resource.dialect (Except.ok.inj hw).symm, hcontents⟩

/-- A value can be looked into as a schema: it is a mapping, what its keywords hold can be gone
through, and each of the values that are found there can be looked into. -/
inductive Searchable : Value → Prop
  | intro {v : Value} {found : List Resource} :
    v.isMapping = true → (Resource.mk .draft4 v).inside = .ok found →
    (∀ r ∈ found, Searchable r.contents) → Searchable v

theorem Searchable.isMapping (h : Searchable v) : v.isMapping = true := by
  cases h
  assumption

theorem searchable_iff {found : List Resource} (hm : v.isMapping = true)
    (hfound : (Resource.mk .draft4 v).inside = .ok found) :
    Searchable v ↔ ∀ r ∈ found, Searchable r.contents := by
  refine ⟨fun h => ?_, .intro hm hfound⟩
  obtain ⟨-, hother, hall⟩ := h
  obtain rfl := Except.ok.inj (hother.symm.trans hfound)
  exact hall

/-! ## §3 How much lies inside -/

/-- How many resources can be found in a value, itself included: none in what is no mapping, since
that ends the search. -/
def bulk (v : Value) : Nat := if v.isMapping then v.size else 0

/-- The same of all values that are found, if they are. -/
def bulkOf (part : Except Fault (List Value)) : Nat :=
  match part with
  | .ok found => (found.map bulk).sum
  | .error _ => 0

theorem bulk_le (v : Value) : bulk v ≤ v.size := by
  unfold bulk
  split
  · exact Nat.le_refl _
  · exact Nat.zero_le _

theorem sum_bulk_le : ∀ items : List Value,
    (items.map bulk).sum ≤ Value.sizeOfItems [] items := by
  intro items
  induction items with
  | nil => exact Nat.le_refl _
  | cons v rest ih => exact Nat.add_le_add (bulk_le v) ih

theorem sum_bulk_values_le : ∀ entries : List (Scalar × Value),
    ((entries.map (·.2)).map bulk).sum ≤ Value.sizeOfEntries [] entries := by
  intro entries
  induction entries with
  | nil => exact Nat.le_refl _
  | cons e rest ih => exact Nat.add_le_add (bulk_le e.2) ih

theorem sum_bulk_scalars {α : Type} (make : α → Scalar) : ∀ xs : List α,
    ((xs.map fun x => Value.scalar (make x)).map bulk).sum = 0
  | [] => rfl
  | x :: rest => by
    have hx : bulk (.scalar (make x)) = 0 := by
      cases h : make x <;> rfl
    rw [List.map_cons, List.map_cons, List.sum_cons, hx, sum_bulk_scalars make rest]

theorem bulkOf_itemsOf_le (hv : Anonymous v) : bulkOf (itemsOf v) ≤ v.size := by
  unfold itemsOf
  rw [bare_of_anonymous hv]
  split
  · exact Nat.le_succ_of_le (sum_bulk_le _)
  · rename_i first second
    have hfirst := bulk_le first
    have hsecond := bulk_le second
    simp only [bulkOf, List.map_cons, List.map_nil, List.sum_cons, List.sum_nil, Value.size,
      Value.sizeIn] at hfirst hsecond ⊢
    omega
  · exact (sum_bulk_scalars id _).trans_le (Nat.zero_le _)
  · exact (sum_bulk_scalars (fun e : Scalar × Value => e.1) _).trans_le (Nat.zero_le _)
  · exact (sum_bulk_scalars (fun c => .text (String.ofList c)) _).trans_le (Nat.zero_le _)
  · exact (sum_bulk_scalars (fun b : UInt8 => .integer b.toNat) _).trans_le (Nat.zero_le _)
  · exact Nat.zero_le _

theorem bulkOf_valuesOf_le (hv : Anonymous v) : bulkOf (valuesOf v) ≤ v.size := by
  unfold valuesOf
  rw [bare_of_anonymous hv]
  split
  · exact Nat.le_succ_of_le (sum_bulk_values_le _)
  · exact Nat.zero_le _

/-- The size of what stands under a keyword. -/
def sizeUnder (v : Value) (key : String) : Nat := ((v.get? key).map Value.size).getD 0

theorem lookUp_eq_get? (hv : Anonymous v) (hm : v.isMapping = true) (key : String) :
    lookUp v key = .ok (v.get? key) := by
  obtain ⟨entries, rfl⟩ := exists_entries hv hm
  rfl

/-- What is found under some keywords is no larger than what stands there. -/
theorem sum_bulkOf_underKeywords (parts : Value → Except Fault (List Value))
    (h : ∀ key w, v.get? key = some w → bulkOf (parts w) ≤ w.size) : ∀ keys : List String,
    ((underKeywords v keys parts).map bulkOf).sum ≤ (keys.map (sizeUnder v)).sum
  | [] => Nat.le_refl _
  | key :: rest => by
    have hrest := sum_bulkOf_underKeywords parts h rest
    rw [underKeywords, List.filterMap_cons, List.map_cons, List.sum_cons, sizeUnder]
    cases hw : v.get? key with
    | none => exact Nat.le_trans hrest (Nat.le_add_left _ _)
    | some w => exact Nat.add_le_add (h key w hw) hrest

theorem bulkOf_given_le (hv : Anonymous v) (hm : v.isMapping = true) {key : String}
    {parts : Value → Except Fault (List Value)}
    (h : ∀ w, v.get? key = some w → bulkOf (parts w) ≤ w.size) :
    bulkOf (do
      match ← lookUpGiven v key with
      | none => return []
      | some w => parts w) ≤ sizeUnder v key := by
  rw [lookUpGiven, lookUp_eq_get? hv hm, sizeUnder]
  cases hw : v.get? key with
  | none => exact Nat.zero_le _
  | some w =>
    cases w with
    | scalar s =>
      cases s with
      | null => exact Nat.zero_le _
      | _ => exact h _ hw
    | _ => exact h _ hw

/-- The keywords under which documents of this kind hold schemas. -/
def schemaKeywords : List String :=
  ["not"] ++ ["allOf", "anyOf", "oneOf"] ++ ["definitions", "patternProperties", "properties"]
    ++ ["items"] ++ ["dependencies"] ++ ["additionalItems", "additionalProperties"]

theorem bulkOf_mixedItems_le (hv : Anonymous v) (hm : v.isMapping = true) :
    bulkOf (mixedItems v) ≤ sizeUnder v "items" := by
  unfold mixedItems
  refine bulkOf_given_le hv hm fun w hw => ?_
  split
  · exact bulkOf_itemsOf_le (Value.every_of_get? hv hw)
  · exact bulkOf_itemsOf_le (Value.every_of_get? hv hw)
  · exact bulkOf_itemsOf_le (Value.every_of_get? hv hw)
  · exact bulkOf_itemsOf_le (Value.every_of_get? hv hw)
  · exact bulk_le w

theorem bulkOf_mixedDependencies_le (hv : Anonymous v) (hm : v.isMapping = true) :
    bulkOf (mixedDependencies v) ≤ sizeUnder v "dependencies" := by
  unfold mixedDependencies
  refine bulkOf_given_le hv hm fun w hw => ?_
  have hvalues := bulkOf_valuesOf_le (Value.every_of_get? hv hw)
  cases hvs : valuesOf w with
  | error f => exact Nat.zero_le _
  | ok values =>
    rw [hvs] at hvalues
    simp only [ok_bind, pure_eq_ok]
    split
    · exact hvalues
    · exact Nat.zero_le _

theorem sum_bulk_mixedAdditional_le :
    ((mixedAdditional v).map bulk).sum
      ≤ (["additionalItems", "additionalProperties"].map (sizeUnder v)).sum := by
  unfold mixedAdditional
  generalize ["additionalItems", "additionalProperties"] = keys
  induction keys with
  | nil => exact Nat.le_refl _
  | cons key rest ih =>
    rw [List.filterMap_cons, List.map_cons, List.sum_cons, sizeUnder]
    cases hw : v.get? key with
    | none => exact Nat.le_trans ih (Nat.le_add_left _ _)
    | some w =>
      cases hm : w.isMapping with
      | true =>
        simp only [Option.filter_some, hm, if_true]
        exact Nat.add_le_add (bulk_le w) ih
      | false =>
        simp only [Option.filter_some, hm]
        exact Nat.le_trans ih (Nat.le_add_left _ _)

/-- Of distinct keywords at most one is the first key of a mapping. -/
theorem sum_sizeUnder_cons (k : Scalar) (w : Value) (rest : List (Scalar × Value)) :
    ∀ {keys : List String}, keys.Nodup →
      (keys.map (sizeUnder (.mapping ((k, w) :: rest)))).sum
        ≤ w.size + (keys.map (sizeUnder (.mapping rest))).sum
  | [], _ => Nat.zero_le _
  | key :: keys, h => by
    obtain ⟨hnew, hkeys⟩ := List.nodup_cons.mp h
    rw [List.map_cons, List.sum_cons, List.map_cons, List.sum_cons]
    by_cases hk : (Scalar.text key).same k = true
    · obtain rfl : k = .text key := by
        cases k <;> simp_all [Scalar.same, Scalar.toInt?]
      have hhere : sizeUnder (.mapping ((.text key, w) :: rest)) key = w.size := by
        simp [sizeUnder, Value.get?, Value.bare, Entries.get?]
      have hothers : keys.map (sizeUnder (.mapping ((.text key, w) :: rest)))
          = keys.map (sizeUnder (.mapping rest)) := by
        refine List.map_congr_left fun other hother => ?_
        have hne : other ≠ key := fun he => hnew (he ▸ hother)
        simp [sizeUnder, Value.get?, Value.bare, Entries.get?, Scalar.same, Scalar.toInt?, hne]
      rw [hhere, hothers]
      omega
    · have hhere : sizeUnder (.mapping ((k, w) :: rest)) key
          = sizeUnder (.mapping rest) key := by
        simp [sizeUnder, Value.get?, Value.bare, Entries.get?, hk]
      have ih := sum_sizeUnder_cons k w rest hkeys
      omega

/-- What stands under distinct keywords is no larger than the whole. -/
theorem sum_sizeUnder_le {keys : List String} (h : keys.Nodup) :
    ∀ entries : List (Scalar × Value),
      (keys.map (sizeUnder (.mapping entries))).sum ≤ Value.sizeOfEntries [] entries := by
  intro entries
  induction entries with
  | nil =>
    have hzero : keys.map (sizeUnder (.mapping [])) = keys.map fun _ => 0 := rfl
    simp [hzero]
  | cons e rest ih =>
    exact Nat.le_trans (sum_sizeUnder_cons e.1 e.2 rest h) (Nat.add_le_add_left ih _)

theorem contents_of_mapM {d : Dialect} : ∀ {ws : List Value} {rs : List Resource},
    ws.mapM (Resource.ofValue d) = .ok rs → rs.map Resource.contents = ws
  | [], _, h => by
    cases h
    rfl
  | w :: ws, _, h => by
    rw [List.mapM_cons] at h
    obtain ⟨r, hr, h⟩ := bind_eq_ok.mp h
    obtain ⟨rs, hrs, h⟩ := bind_eq_ok.mp h
    cases h
    rw [List.map_cons, contents_of_ofValue hr, contents_of_mapM hrs]

/-- The resources of some parts are as many as these hold. -/
theorem bulkOf_resourcesOf {d : Dialect} {parts : List (Except Fault (List Value))}
    {found : List Resource} (h : resourcesOf d parts = .ok found) :
    (found.map fun r => bulk r.contents).sum = (parts.map bulkOf).sum := by
  obtain ⟨rss, hrss, h⟩ := bind_eq_ok.mp h
  cases h
  clear h
  induction parts generalizing rss with
  | nil =>
    cases hrss
    rfl
  | cons part rest ih =>
    rw [List.mapM_cons] at hrss
    obtain ⟨rs, hrs, hrss⟩ := bind_eq_ok.mp hrss
    obtain ⟨others, hothers, hrss⟩ := bind_eq_ok.mp hrss
    cases hrss
    obtain ⟨ws, rfl, hws⟩ := bind_eq_ok.mp hrs
    have hsame : (rs.map fun r => bulk r.contents).sum = bulkOf (.ok ws) := by
      rw [← contents_of_mapM hws, bulkOf, List.map_map]
      rfl
    simp only [List.flatten_cons, List.map_append, List.sum_append, List.map_cons, List.sum_cons,
      hsame, ih others hothers]

/-- **The mappings inside one are fewer than its parts.** -/
theorem bulkOf_inside_lt (hv : Anonymous v) (hm : v.isMapping = true) {found : List Resource}
    (h : (Resource.mk .draft4 v).inside = .ok found) :
    (found.map fun r => bulk r.contents).sum < bulk v := by
  have hone := sum_bulkOf_underKeywords (v := v) (fun w => .ok [w])
    (fun _ w _ => bulk_le w) ["not"]
  have hitems := sum_bulkOf_underKeywords (v := v) itemsOf
    (fun _ _ hw => bulkOf_itemsOf_le (Value.every_of_get? hv hw)) ["allOf", "anyOf", "oneOf"]
  have hvalues := sum_bulkOf_underKeywords (v := v) valuesOf
    (fun _ _ hw => bulkOf_valuesOf_le (Value.every_of_get? hv hw))
    ["definitions", "patternProperties", "properties"]
  have hmixed := bulkOf_mixedItems_le hv hm
  have hdependencies := bulkOf_mixedDependencies_le hv hm
  have hadditional := sum_bulk_mixedAdditional_le (v := v)
  have hall : ((subschemas ⟨.draft4, v⟩).map bulkOf).sum
      ≤ (schemaKeywords.map (sizeUnder v)).sum := by
    simp only [subschemas, schemaKeywords, List.map_append, List.sum_append]
    refine Nat.add_le_add (Nat.add_le_add (Nat.add_le_add (Nat.add_le_add (Nat.add_le_add
      hone hitems) hvalues) ?_) ?_) hadditional
    · exact hmixed
    · exact hdependencies
  obtain ⟨entries, rfl⟩ := exists_entries hv hm
  have hdistinct : schemaKeywords.Nodup := by decide
  have hkeys := sum_sizeUnder_le hdistinct entries
  have hsize : bulk (.mapping entries) = Value.sizeOfEntries [] entries + 1 := rfl
  rw [bulkOf_resourcesOf h, hsize]
  exact Nat.lt_succ_of_le (Nat.le_trans hall hkeys)

/-! ## §4 Looking inside -/

/-- A computation that may stop meets a fault. -/
def Faults {α : Type} (x : Except Stop α) : Prop := ∃ f, x = .error (.fault f)

namespace Registry

variable {g : Registry} {uri name : String}

/-- How many resources can be found on a stack. -/
def bulkOfStack (stack : List (String × Resource)) : Nat :=
  (stack.map fun e => bulk e.2.contents).sum

theorem bulkOfStack_cons (e : String × Resource) (rest : List (String × Resource)) :
    bulkOfStack (e :: rest) = bulk e.2.contents + bulkOfStack rest := rfl

theorem bulkOfStack_push (uri : String) (found : List Resource)
    (rest : List (String × Resource)) :
    bulkOfStack ((found.map fun r => (uri, r)).reverse ++ rest)
      = (found.map fun r => bulk r.contents).sum + bulkOfStack rest := by
  rw [bulkOfStack, List.map_append, List.sum_append, List.map_reverse, List.sum_reverse,
    List.map_map]
  rfl

theorem openAll_of_mapping {fuel : Nat} {v : Value} {found : List Resource}
    {rest : List (String × Resource)} (hv : Anonymous v) (hm : v.isMapping = true)
    (hfound : (Resource.mk .draft4 v).inside = .ok found) :
    openAll (fuel + 1) g ((uri, ⟨.draft4, v⟩) :: rest)
      = openAll fuel g ((found.map fun r => (uri, r)).reverse ++ rest) := by
  rw [openAll, name?_of_mapping hv hm, anchors_of_mapping hv hm, hfound]
  rfl

theorem openAll_of_not_mapping {fuel : Nat} {v : Value} {rest : List (String × Resource)}
    (hv : Anonymous v) (hm : v.isMapping = false) :
    ∃ f, openAll (fuel + 1) g ((uri, ⟨.draft4, v⟩) :: rest) = .error f := by
  rw [openAll]
  rcases name?_cases hv with ⟨hn, -⟩ | ⟨⟨f, hn⟩, -⟩
  · obtain ⟨f, hf⟩ := anchors_of_not_mapping hv hm
    refine ⟨f, ?_⟩
    rw [hn, hf]
    rfl
  · refine ⟨f, ?_⟩
    rw [hn]
    rfl

/-- **Looking inside enters nothing and ends**: it comes to the end of the stack exactly if
everything on it can be looked into. -/
theorem openAll_cases {fuel : Nat} {stack : List (String × Resource)}
    (hstack : ∀ e ∈ stack, e.2.Anonymous) (hfuel : bulkOfStack stack < fuel) :
    openAll fuel g stack = .ok g ∧ (∀ e ∈ stack, Searchable e.2.contents) ∨
      (∃ f, openAll fuel g stack = .error f) ∧ ¬∀ e ∈ stack, Searchable e.2.contents := by
  induction fuel generalizing stack with
  | zero => exact absurd hfuel (Nat.not_lt_zero _)
  | succ fuel ih =>
    cases stack with
    | nil => exact Or.inl ⟨rfl, fun _ he => nomatch he⟩
    | cons e rest =>
      obtain ⟨uri, r⟩ := e
      obtain ⟨hr, hrest⟩ := List.forall_mem_cons.mp hstack
      obtain ⟨d, v⟩ := r
      obtain ⟨rfl, hv⟩ := hr
      by_cases hm : v.isMapping = true
      · cases hfound : (Resource.mk .draft4 v).inside with
        | error f =>
          refine Or.inr ⟨⟨f, ?_⟩, fun h => ?_⟩
          · rw [openAll, name?_of_mapping hv hm, anchors_of_mapping hv hm, hfound]
            rfl
          · obtain ⟨-, hother, -⟩ := h _ (List.mem_cons_self ..)
            cases hother.symm.trans hfound
        | ok found =>
          rw [openAll_of_mapping hv hm hfound]
          have hinside := yields_inside_anonymous hv found hfound
          have hless : (found.map fun r => bulk r.contents).sum < bulk v :=
            bulkOf_inside_lt hv hm hfound
          have hsame : (∀ e ∈ (found.map fun r => (uri, r)).reverse ++ rest,
                Searchable e.2.contents)
              ↔ ∀ e ∈ (uri, Resource.mk .draft4 v) :: rest, Searchable e.2.contents := by
            rw [List.forall_mem_append, List.forall_mem_cons, searchable_iff hm hfound]
            simp
          rw [← hsame]
          refine ih (List.forall_mem_append.mpr ⟨fun e he => ?_, hrest⟩) ?_
          · obtain ⟨q, hq, rfl⟩ := List.mem_map.mp (List.mem_reverse.mp he)
            exact hinside q hq
          · rw [bulkOfStack_cons] at hfuel
            rw [bulkOfStack_push]
            dsimp only at hfuel
            omega
      · refine Or.inr ⟨openAll_of_not_mapping hv (by simpa using hm), fun h => ?_⟩
        exact hm (h _ (List.mem_cons_self ..)).isMapping

/-! ## §5 Registries -/

/-- Every document that is known says nothing of itself, no anchor is known, and whatever has been
looked into could be. -/
structure Anonymous (g : Registry) : Prop where
  known : ∀ {uri r}, g.find? uri = some r → r.Anonymous
  anchors : g.anchors = []
  looked : ∀ {uri r}, g.find? uri = some r → uri ∉ g.unopened → Reference.Searchable r.contents

/-- Every document that is known can be looked into. -/
def Searchable (g : Registry) : Prop :=
  ∀ uri r, g.find? uri = some r → Reference.Searchable r.contents

theorem bulkOfStack_le (stack : List (String × Resource)) (n : Nat) :
    n + bulkOfStack stack ≤ stack.foldl (fun n e => n + e.2.contents.size) n := by
  induction stack generalizing n with
  | nil => exact Nat.le_refl _
  | cons e rest ih =>
    have hone := bulk_le e.2.contents
    have hrest := ih (n + e.2.contents.size)
    rw [bulkOfStack_cons, List.foldl_cons]
    omega

/-- **A registry looks into everything exactly if every document that it knows can be looked
into**, and learns nothing by it. -/
theorem Anonymous.opened_cases (hg : g.Anonymous) :
    g.opened = .ok { g with unopened := [] } ∧ g.Searchable ∨
      (∃ f, g.opened = .error f) ∧ ¬g.Searchable := by
  have hmem {e : String × Resource} : e ∈ (g.unopened.filterMap fun uri =>
      (g.find? uri).map fun r => (uri, r)) ↔ e.1 ∈ g.unopened ∧ g.find? e.1 = some e.2 := by
    simp only [List.mem_filterMap, Option.map_eq_some_iff]
    constructor
    · rintro ⟨uri, hu, r, hr, rfl⟩
      exact ⟨hu, hr⟩
    · rintro ⟨hu, hr⟩
      exact ⟨e.1, hu, e.2, hr, rfl⟩
  have hsame : (∀ e ∈ (g.unopened.filterMap fun uri => (g.find? uri).map fun r => (uri, r)),
      Reference.Searchable e.2.contents) ↔ g.Searchable := by
    constructor
    · intro h uri r hr
      by_cases hu : uri ∈ g.unopened
      · exact h (uri, r) (hmem.mpr ⟨hu, hr⟩)
      · exact hg.looked hr hu
    · exact fun h e he => h e.1 e.2 (hmem.mp he).2
  rw [← hsame]
  refine openAll_cases (fun e he => hg.known (hmem.mp he).2) ?_
  have hfuel := bulkOfStack_le (g.unopened.filterMap fun uri =>
    (g.find? uri).map fun r => (uri, r)) 1
  exact Nat.lt_of_lt_of_le (by omega) hfuel

theorem Anonymous.done (hg : g.Anonymous) (h : g.Searchable) :
    ({ g with unopened := [] } : Registry).Anonymous :=
  ⟨hg.known, hg.anchors, fun hr _ => h _ _ hr⟩

theorem find?_add_eq (g : Registry) (uri : String) (r : Resource) (seen : String) :
    (g.add uri r).find? seen = if seen = withoutFragmentMark uri then some r else g.find? seen := by
  simp only [find?, add, List.lookup_cons]
  split
  · rename_i h
    simp [beq_iff_eq.mp h]
  · rename_i h
    simp [beq_eq_false_iff_ne.mp h]

theorem Anonymous.add (hg : g.Anonymous) (uri : String) {r : Resource} (hr : r.Anonymous) :
    (g.add uri r).Anonymous := by
  refine ⟨fun {seen q} hq => ?_, hg.anchors, fun {seen q} hq hs => ?_⟩
  · rw [find?_add_eq] at hq
    split at hq
    · cases hq
      exact hr
    · exact hg.known hq
  · simp only [Registry.add, List.mem_cons, not_or] at hs
    rw [find?_add_eq, if_neg hs.1] at hq
    exact hg.looked hq hs.2

theorem anonymous_empty : Registry.Anonymous {} :=
  ⟨fun h => (nomatch h), rfl, fun h => (nomatch h)⟩

/-! ## §6 Asking -/

variable {disk : Disk} {reading : Mark}

/-- Whatever is wrong with a file or its URI is a reason. -/
theorem retrieve_ne_fault (f : Fault) : retrieve disk reading uri ≠ .error (.fault f) := by
  intro h
  unfold retrieve at h
  split at h
  · cases h
  split at h
  · cases h
  dsimp only at h
  split at h
  · cases h
  · cases h
  split at h
  · cases h
  split at h
  · cases h
  · cases h

theorem dialect_of_retrieve {r : Resource} (h : retrieve disk reading uri = .ok r)
    (hr : Reference.Anonymous r.contents) : r.Anonymous := by
  unfold retrieve at h
  split at h
  · cases h
  split at h
  · cases h
  dsimp only at h
  split at h
  · cases h
  · cases h
  split at h
  · cases h
  split at h
  · cases h
  · rename_i q hq
    cases h
    rw [← contents_of_ofValue hq, ofValue_of_anonymous hr] at hq
    exact ⟨congrArg Resource.dialect (Except.ok.inj hq).symm, hr⟩

/-- **Asking for a document meets a fault exactly if it is not known and something that is known
cannot be looked into.** -/
theorem Anonymous.fetch_fault_iff (hg : g.Anonymous) :
    Faults (g.fetch disk reading uri) ↔ g.find? uri = none ∧ ¬g.Searchable := by
  unfold fetch Faults
  cases hr : g.find? uri with
  | some r => simp
  | none =>
    rcases hg.opened_cases with ⟨ho, hs⟩ | ⟨⟨f, ho⟩, hs⟩
    · have hnew : ({ g with unopened := [] } : Registry).find? uri = none := hr
      simp only [ho, orStop, mapError_ok, ok_bind, hnew, hs]
      refine iff_of_false ?_ (by simp)
      rintro ⟨f, hf⟩
      rcases bind_eq_error.mp hf with hf | ⟨r, -, hf⟩
      · exact retrieve_ne_fault f hf
      · cases hf
    · simp [ho, orStop, hs]

theorem Anonymous.yields_fetch (hg : g.Anonymous)
    (hread : g.find? uri = none → ∀ r, retrieve disk reading uri = .ok r →
      Reference.Anonymous r.contents) :
    Yields (fun x => x.1.Anonymous ∧ x.2.Anonymous) (g.fetch disk reading uri) := by
  unfold fetch
  cases hr : g.find? uri with
  | some r => exact yields_ok ⟨hg, hg.known hr⟩
  | none =>
    rcases hg.opened_cases with ⟨ho, hs⟩ | ⟨⟨f, ho⟩, -⟩
    · have hnew : ({ g with unopened := [] } : Registry).find? uri = none := hr
      simp only [ho, orStop, mapError_ok, ok_bind, hnew]
      intro x hx
      obtain ⟨r, hfound, hx⟩ := bind_eq_ok.mp hx
      cases hx
      have hanonymous := dialect_of_retrieve hfound (hread hr r hfound)
      exact ⟨(hg.done hs).add uri hanonymous, hanonymous⟩
    · simp only [ho, orStop, mapError_error, error_bind]
      exact yields_error _

variable (uri name) in
/-- An anchor is never found, and asking for one meets a fault exactly if something that is known
cannot be looked into. -/
theorem Anonymous.anchor_cases (hg : g.Anonymous) :
    (∃ reason, g.anchor uri name = .error (.nowhere reason)) ∧ g.Searchable ∨
      Faults (g.anchor uri name) ∧ ¬g.Searchable := by
  have hnone {g' : Registry} (h : g'.anchors = []) (seen : String) :
      g'.anchor? seen name = none := by
    rw [anchor?, h]
    rfl
  unfold anchor
  rw [hnone hg.anchors]
  rcases hg.opened_cases with ⟨ho, hs⟩ | ⟨⟨f, ho⟩, hs⟩
  · refine Or.inl ⟨?_, hs⟩
    have hinner : ∀ seen, Registry.anchor? { g with unopened := [] } seen name = none :=
      hnone hg.anchors
    simp only [ho, orStop, mapError_ok, ok_bind, hinner]
    cases hr : g.find? (withoutFragmentMark uri) with
    | none => exact ⟨_, rfl⟩
    | some r =>
      have hknown := hg.known hr
      have hname : r.name? = .ok none := by
        rw [hknown.eq]
        exact name?_of_mapping hknown.contents (hs _ r hr).isMapping
      simp only [hname, mapError_ok, ok_bind, Option.bind_none]
      exact ⟨_, rfl⟩
  · refine Or.inr ⟨⟨f, ?_⟩, hs⟩
    rw [ho]
    rfl

end Registry

end SchemaDoc.Reference
