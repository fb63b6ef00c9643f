/-
SchemaDoc.Proofs.Fields.Position — the fields of a schema are its leaves.

A schema is a tree: below an object stand its properties, below an array its
members. A position in it is the list of the steps that lead there from the
root. The walk over a schema has no positions, it hands a depth, a name and a
set of names down; here positions come first, with what their steps tell. The
walk finds one field for every leaf, in the order of the document, and the
field says what the position says (`ofSchema_positions`).

§1 positions, §2 what steps tell, §3 lists of positions, §4 what stands below a
node, §5 required names, §6 the walk, §7 whole schemas, §8 a nested schema.
-/
import Mathlib.Data.List.Forall2
import SchemaDoc.Proofs.Fields

namespace SchemaDoc.Fields

/-! ## §1 Positions -/

/-- A step from a node to one right below it: to the property of a name, or to a member of an
array. Both are counted from zero. -/
inductive Step where
  | property (place : Nat) (name : Scalar)
  | item (place : Nat)
  deriving DecidableEq

/-- The place of the node that a step leads to among its neighbours. -/
def Step.place : Step → Nat
  | .property place _ => place
  | .item place => place

/-- The name of the property that a step leads to. -/
def Step.name? : Step → Option Scalar
  | .property _ name => some name
  | .item _ => none

/-- The entries of a value that is a mapping. -/
def entriesOf (v : Value) : List (Scalar × Value) :=
  match v.bare with
  | .mapping entries => entries
  | _ => []

theorem entriesOf_of_not_mapping {v : Value} (h : ∀ entries, v.bare ≠ .mapping entries) :
    entriesOf v = [] := by
  unfold entriesOf
  split
  · rename_i entries hv
    exact absurd hv (h entries)
  · rfl

/-- A step leads from a node to one right below it: from an object to one of its properties, and
from an array with given members to one of these. -/
inductive Leads : Value → Step → Value → Prop
  | property {node properties child : Value} {place : Nat} {name : Scalar} :
    node.get? "type" = some (.text "object") → node.get? "properties" = some properties →
      (entriesOf properties)[place]? = some (name, child) →
      Leads node (.property place name) child
  | item {node items member : Value} {place : Nat} :
    node.get? "type" = some (.text "array") → node.get? "items" = some items →
      items.isGiven = true → items.memberSchemas[place]? = some member →
      Leads node (.item place) member

/-- Steps lead from a node to one below it. -/
inductive Reaches : Value → List Step → Value → Prop
  | here (node : Value) : Reaches node [] node
  | through {node child leaf : Value} {s : Step} {p : List Step} :
    Leads node s child → Reaches child p leaf → Reaches node (s :: p) leaf

/-- A leaf: a node of a scalar type, or an array without given members. -/
def IsLeaf (node : Value) : Prop :=
  (∃ kind ∈ scalarTypes, node.get? "type" = some (.text kind)) ∨
    node.get? "type" = some (.text "array") ∧
      ∀ items, node.get? "items" = some items → items.isGiven = false

/-- A leaf stands at a position below a node. -/
def LeafAt (node : Value) (p : List Step) : Prop := ∃ leaf, Reaches node p leaf ∧ IsLeaf leaf

/-- One position comes before another in the document: where their steps part for the first time,
it goes to an earlier place. -/
inductive Before : List Step → List Step → Prop
  | here {s t : Step} {p q : List Step} : s.place < t.place → Before (s :: p) (t :: q)
  | within {s : Step} {p q : List Step} : Before p q → Before (s :: p) (s :: q)

/-! ## §2 What steps tell -/

/-- The name of the last property on the way. -/
def lastName? (p : List Step) : Option Scalar := (p.filterMap Step.name?).getLast?

/-- The depth of a position: a level for each member, and one for each property of a property. -/
def depthOf (p : List Step) : Nat :=
  p.countP (fun s => s.name?.isNone)
    + (p.zip p.tail).countP fun e => e.1.name?.isSome && e.2.name?.isSome

/-- The list of names that an object requires has one that reads as a text. -/
def Requires (node : Value) (name : String) : Prop :=
  ∃ names, node.get? "required" = some names ∧ ∃ m ∈ names.listed, m.displayText = .ok name

/-- The last step goes to a property that the object around it requires. -/
def RequiredAt (node : Value) (p : List Step) : Prop :=
  ∃ q place name owner, p = q ++ [.property place (.text name)] ∧ Reaches node q owner ∧
    Requires owner name

/-- The levels that steps add behind a property, or behind a member. -/
def depthFrom : Bool → List Step → Nat
  | _, [] => 0
  | behindProperty, .property _ _ :: p => (if behindProperty then 1 else 0) + depthFrom true p
  | _, .item _ :: p => 1 + depthFrom false p

theorem depthFrom_cons_add (s : Step) (p : List Step) :
    depthFrom s.name?.isSome p = p.countP (fun s => s.name?.isNone)
      + ((s :: p).zip p).countP fun e => e.1.name?.isSome && e.2.name?.isSome := by
  induction p generalizing s with
  | nil => rfl
  | cons t p ih =>
    have ih := ih t
    cases t with
    | property place name =>
      simp only [Step.name?, Option.isSome_some] at ih
      rw [depthFrom, ih]
      cases s <;> simp [Step.name?]
      omega
    | item place =>
      simp only [Step.name?, Option.isSome_none] at ih
      rw [depthFrom, ih]
      simp [Step.name?]
      omega

theorem depthFrom_false (p : List Step) : depthFrom false p = depthOf p := by
  have h := depthFrom_cons_add (.item 0) p
  cases p with
  | nil => rfl
  | cons s p => simpa [Step.name?, depthOf] using h

/-- The name of the last property on the way, or the name so far. -/
def nameFrom (name : Scalar) : List Step → Scalar
  | [] => name
  | .property _ name :: p => nameFrom name p
  | .item _ :: p => nameFrom name p

theorem nameFrom_eq (name : Scalar) (p : List Step) :
    nameFrom name p = (lastName? p).getD name := by
  induction p generalizing name with
  | nil => rfl
  | cons s p ih =>
    cases s with
    | property place own =>
      rw [nameFrom, ih]
      unfold lastName?
      cases h : p.filterMap Step.name? <;> simp [Step.name?, h, List.getLast?_cons]
    | item place =>
      rw [nameFrom, ih]
      rfl

/-! ## §3 Lists of positions -/

/-- Descriptors stand one by one for all positions of some kind, in document order. -/
def Lists (At : List Step → Prop) (R : List Step → Descriptor → Prop) (ds : List Descriptor) :
    Prop :=
  ∃ ps : List (List Step), ps.Pairwise Before ∧ (∀ p, p ∈ ps ↔ At p) ∧ List.Forall₂ R ps ds

variable {At At' : List Step → Prop} {R R' : List Step → Descriptor → Prop}
  {ds ds' : List Descriptor}

theorem lists_nil (h : ∀ p, ¬At p) : Lists At R [] :=
  ⟨[], .nil, fun p => by simp [h p], .nil⟩

theorem lists_singleton {d : Descriptor} (h : ∀ p, At p ↔ p = []) (hd : R [] d) :
    Lists At R [d] :=
  ⟨[[]], List.pairwise_singleton .., fun p => by simp [h p], .cons hd .nil⟩

theorem Lists.congr (h : Lists At R ds) (hat : ∀ p, At p ↔ At' p)
    (hr : ∀ p d, At p → R p d → R' p d) : Lists At' R' ds := by
  obtain ⟨ps, horder, hall, hds⟩ := h
  refine ⟨ps, horder, fun p => (hall p).trans (hat p), ?_⟩
  have hat : ∀ p ∈ ps, At p := fun p hp => (hall p).mp hp
  clear hall horder
  induction hds with
  | nil => exact .nil
  | @cons p d _ _ hd _ ih =>
    obtain ⟨hp, hat⟩ := List.forall_mem_cons.mp hat
    exact .cons (hr p d hp hd) (ih hat)

theorem Lists.append (h : Lists At R ds) (h' : Lists At' R ds')
    (hbefore : ∀ p q, At p → At' q → Before p q) :
    Lists (fun p => At p ∨ At' p) R (ds ++ ds') := by
  obtain ⟨ps, horder, hall, hds⟩ := h
  obtain ⟨qs, horder', hall', hds'⟩ := h'
  refine ⟨ps ++ qs, ?_, fun p => ?_, List.rel_append hds hds'⟩
  · exact List.pairwise_append.mpr ⟨horder, horder', fun p hp q hq =>
      hbefore p q ((hall p).mp hp) ((hall' q).mp hq)⟩
  · rw [List.mem_append, hall, hall']

/-- Positions below a node become positions seen from above it. -/
theorem Lists.cons (h : Lists At R ds) (s : Step) :
    Lists (fun q => ∃ p, q = s :: p ∧ At p) (fun q d => ∃ p, q = s :: p ∧ R p d) ds := by
  obtain ⟨ps, horder, hall, hds⟩ := h
  refine ⟨ps.map (s :: ·), ?_, fun q => ?_, ?_⟩
  · exact List.pairwise_map.mpr (horder.imp .within)
  · simp only [List.mem_map, hall]
    exact exists_congr fun p => ⟨fun h => ⟨h.2.symm, h.1⟩, fun h => ⟨h.2, h.1.symm⟩⟩
  · exact List.forall₂_map_left_iff.mpr (hds.imp fun p d hd => ⟨p, rfl, hd⟩)

/-! ## §4 What stands below a node -/

theorem leafAt_cons {node : Value} {s : Step} {p : List Step} :
    LeafAt node (s :: p) ↔ ∃ child, Leads node s child ∧ LeafAt child p := by
  constructor
  · rintro ⟨leaf, hreaches, hleaf⟩
    cases hreaches with
    | through hleads hreaches => exact ⟨_, hleads, leaf, hreaches, hleaf⟩
  · rintro ⟨child, hleads, leaf, hreaches, hleaf⟩
    exact ⟨leaf, .through hleads hreaches, hleaf⟩

theorem leafAt_nil {node : Value} : LeafAt node [] ↔ IsLeaf node := by
  constructor
  · rintro ⟨leaf, hreaches, hleaf⟩
    cases hreaches
    exact hleaf
  · exact fun hleaf => ⟨node, .here node, hleaf⟩

/-- The nodes right below a node, with the steps that lead there. -/
abbrev Children := List (Step × Value)

/-- A position starts with the step to one of some nodes, and what follows is such and such. -/
def AtChild (children : Children) (F : Step → Value → List Step → Prop) (p : List Step) : Prop :=
  ∃ c ∈ children, ∃ q, p = c.1 :: q ∧ F c.1 c.2 q

theorem atChild_cons {c : Step × Value} {children : Children}
    {F : Step → Value → List Step → Prop} {p : List Step} :
    AtChild (c :: children) F p ↔ (∃ q, p = c.1 :: q ∧ F c.1 c.2 q) ∨ AtChild children F p := by
  simp only [AtChild, List.mem_cons, exists_eq_or_imp]

/-- Descriptors stand one by one for the leaves at and below some nodes. -/
abbrev ListsChildren (R : Step → Value → List Step → Descriptor → Prop) (children : Children)
    (ds : List Descriptor) : Prop :=
  Lists (AtChild children fun _ v q => LeafAt v q)
    (fun p d => AtChild children (fun s v q => R s v q d) p) ds

theorem listsChildren_nil (R : Step → Value → List Step → Descriptor → Prop) :
    ListsChildren R [] [] :=
  lists_nil fun p h => by
    obtain ⟨c, hc, -⟩ := h
    cases hc

/-- One node more in front of others. -/
theorem ListsChildren.cons {R : Step → Value → List Step → Descriptor → Prop} {s : Step}
    {v : Value} {children : Children} (h : Lists (LeafAt v) (R s v) ds)
    (hrest : ListsChildren R children ds') (hplace : ∀ c ∈ children, s.place < c.1.place) :
    ListsChildren R ((s, v) :: children) (ds ++ ds') := by
  have hfirst : Lists (fun p => ∃ q, p = s :: q ∧ LeafAt v q)
      (fun p d => AtChild ((s, v) :: children) (fun s v q => R s v q d) p) ds :=
    (h.cons s).congr (fun _ => Iff.rfl) fun p d _ hd => atChild_cons.mpr (Or.inl hd)
  have hothers : Lists (AtChild children fun _ v q => LeafAt v q)
      (fun p d => AtChild ((s, v) :: children) (fun s v q => R s v q d) p) ds' :=
    hrest.congr (fun _ => Iff.rfl) fun p d _ hd => atChild_cons.mpr (Or.inr hd)
  refine (hfirst.append hothers ?_).congr (fun p => ?_) fun _ _ _ hd => hd
  · rintro p q ⟨p', rfl, -⟩ ⟨c, hc, q', rfl, -⟩
    exact .here (hplace c hc)
  · exact (atChild_cons (c := (s, v)) (F := fun _ v q => LeafAt v q)).symm

/-- Entries as nodes, counted from a place on. -/
def propertiesFrom : Nat → List (Scalar × Value) → Children
  | _, [] => []
  | place, (name, node) :: rest => (.property place name, node) :: propertiesFrom (place + 1) rest

/-- Members as nodes, counted from a place on. -/
def membersFrom : Nat → List Value → Children
  | _, [] => []
  | place, member :: rest => (.item place, member) :: membersFrom (place + 1) rest

theorem mem_propertiesFrom {s : Step} {child : Value} : ∀ {place : Nat}
    {entries : List (Scalar × Value)}, (s, child) ∈ propertiesFrom place entries ↔
      ∃ i name, s = .property (place + i) name ∧ entries[i]? = some (name, child)
  | _, [] => by simp [propertiesFrom]
  | place, (own, node) :: rest => by
    rw [propertiesFrom, List.mem_cons, mem_propertiesFrom]
    constructor
    · rintro (h | ⟨i, name, rfl, hi⟩)
      · cases h
        exact ⟨0, own, rfl, rfl⟩
      · exact ⟨i + 1, name, by rw [Nat.add_assoc, Nat.add_comm 1 i], hi⟩
    · rintro ⟨i, name, rfl, hi⟩
      cases i with
      | zero =>
        cases hi
        exact Or.inl rfl
      | succ i => exact Or.inr ⟨i, name, by rw [Nat.add_assoc, Nat.add_comm 1 i], hi⟩

theorem mem_membersFrom {s : Step} {child : Value} : ∀ {place : Nat} {members : List Value},
    (s, child) ∈ membersFrom place members ↔
      ∃ i, s = .item (place + i) ∧ members[i]? = some child
  | _, [] => by simp [membersFrom]
  | place, member :: rest => by
    rw [membersFrom, List.mem_cons, mem_membersFrom]
    constructor
    · rintro (h | ⟨i, rfl, hi⟩)
      · cases h
        exact ⟨0, rfl, rfl⟩
      · exact ⟨i + 1, by rw [Nat.add_assoc, Nat.add_comm 1 i], hi⟩
    · rintro ⟨i, rfl, hi⟩
      cases i with
      | zero =>
        cases hi
        exact Or.inl rfl
      | succ i => exact Or.inr ⟨i, by rw [Nat.add_assoc, Nat.add_comm 1 i], hi⟩

theorem place_lt_of_properties {place : Nat} {entries : List (Scalar × Value)} :
    ∀ c ∈ propertiesFrom (place + 1) entries, place < c.1.place := by
  rintro ⟨s, child⟩ hc
  obtain ⟨i, name, rfl, -⟩ := mem_propertiesFrom.mp hc
  simp only [Step.place]
  omega

theorem place_lt_of_members {place : Nat} {members : List Value} :
    ∀ c ∈ membersFrom (place + 1) members, place < c.1.place := by
  rintro ⟨s, child⟩ hc
  obtain ⟨i, rfl, -⟩ := mem_membersFrom.mp hc
  simp only [Step.place]
  omega

/-- The nodes right below a node, as its shape has them. -/
def childrenOf (node : Value) : Children :=
  match node.shape with
  | .object (some properties) => propertiesFrom 0 (entriesOf properties)
  | .array members => membersFrom 0 members
  | _ => []

theorem childrenOf_of_object {node : Value} {properties : Option Value}
    (h : node.shape = .object properties) :
    childrenOf node = propertiesFrom 0 (entriesOf (properties.getD .null)) := by
  rw [childrenOf, h]
  cases properties <;> rfl

theorem shape_of_object {node : Value} (h : node.get? "type" = some (.text "object")) :
    node.shape = .object (node.get? "properties") := by
  simp only [Value.shape, h, if_true]

theorem shape_of_array {node items : Value} (h : node.get? "type" = some (.text "array"))
    (hi : node.get? "items" = some items) (hgiven : items.isGiven = true) :
    node.shape = .array items.memberSchemas := by
  have hne : ("array" : String) ≠ "object" := by decide
  simp only [Value.shape, h, hi, hgiven, hne, if_true, if_false]

/-- What the shape of a node says of it. -/
theorem shape_cases (node : Value) :
    (node.get? "type" = some (.text "object") ∧
      node.shape = .object (node.get? "properties")) ∨
    (∃ items, node.get? "type" = some (.text "array") ∧ node.get? "items" = some items ∧
      items.isGiven = true ∧ node.shape = .array items.memberSchemas) ∨
    (IsLeaf node ∧ node.shape = .leaf) ∨
    ((∀ kind, node.get? "type" = some (.text kind) →
      kind ≠ "object" ∧ kind ≠ "array" ∧ kind ∉ scalarTypes) ∧ node.shape = .skipped) := by
  unfold Value.shape
  split
  · rename_i kind hkind
    split
    · rename_i hobject
      subst hobject
      exact Or.inl ⟨hkind, rfl⟩
    · rename_i hobject
      split
      · rename_i harray
        subst harray
        split
        · rename_i items hitems
          cases hgiven : items.isGiven with
          | true => exact Or.inr (Or.inl ⟨items, hkind, hitems, hgiven, rfl⟩)
          | false =>
            refine Or.inr (Or.inr (Or.inl ⟨Or.inr ⟨hkind, fun items' h => ?_⟩, rfl⟩))
            rw [hitems] at h
            cases h
            exact hgiven
        · rename_i hitems
          refine Or.inr (Or.inr (Or.inl ⟨Or.inr ⟨hkind, fun items' h => ?_⟩, rfl⟩))
          rw [hitems] at h
          cases h
      · rename_i harray
        split
        · rename_i hscalar
          exact Or.inr (Or.inr (Or.inl ⟨Or.inl ⟨kind, hscalar, hkind⟩, rfl⟩))
        · rename_i hscalar
          refine Or.inr (Or.inr (Or.inr ⟨fun kind' h => ?_, rfl⟩))
          rw [hkind] at h
          cases h
          exact ⟨hobject, harray, hscalar⟩
  · rename_i hkind
    exact Or.inr (Or.inr (Or.inr ⟨fun kind h => (hkind kind h).elim, rfl⟩))

theorem not_isLeaf {node : Value} {kind : String} (h : node.get? "type" = some (.text kind))
    (hscalar : kind ∉ scalarTypes)
    (harray : kind = "array" → ∃ items, node.get? "items" = some items ∧ items.isGiven = true) :
    ¬IsLeaf node := by
  rintro (⟨kind', hmem, h'⟩ | ⟨h', hnone⟩)
  · rw [h] at h'
    cases h'
    exact hscalar hmem
  · rw [h] at h'
    cases h'
    obtain ⟨items, hitems, hgiven⟩ := harray rfl
    rw [hnone items hitems] at hgiven
    cases hgiven

theorem isLeaf_of_shape {node : Value} (h : node.shape = .leaf) : IsLeaf node := by
  rcases shape_cases node with ⟨-, hs⟩ | ⟨items, -, -, -, hs⟩ | ⟨hleaf, -⟩ | ⟨-, hs⟩
  · rw [h] at hs
    cases hs
  · rw [h] at hs
    cases hs
  · exact hleaf
  · rw [h] at hs
    cases hs

theorem not_isLeaf_of_shape {node : Value} (h : node.shape ≠ .leaf) : ¬IsLeaf node := by
  rcases shape_cases node with ⟨htype, -⟩ | ⟨items, htype, hitems, hgiven, -⟩ | ⟨-, hs⟩ | ⟨hkind, -⟩
  · exact not_isLeaf htype (by decide) fun h => absurd h (by decide)
  · exact not_isLeaf htype (by decide) fun _ => ⟨items, hitems, hgiven⟩
  · exact absurd hs h
  · rintro (⟨kind, hmem, htype⟩ | ⟨htype, -⟩)
    · exact (hkind kind htype).2.2 hmem
    · exact (hkind "array" htype).2.1 rfl

/-- Steps lead to the nodes that the shape has. -/
theorem leads_iff {node child : Value} {s : Step} :
    Leads node s child ↔ (s, child) ∈ childrenOf node := by
  constructor
  · intro h
    cases h with
    | property htype hproperties hchild =>
      rw [childrenOf, shape_of_object htype, hproperties]
      exact mem_propertiesFrom.mpr ⟨_, _, by rw [Nat.zero_add], hchild⟩
    | item htype hitems hgiven hchild =>
      rw [childrenOf, shape_of_array htype hitems hgiven]
      exact mem_membersFrom.mpr ⟨_, by rw [Nat.zero_add], hchild⟩
  · intro h
    unfold childrenOf at h
    rcases shape_cases node with ⟨htype, hs⟩ | ⟨items, htype, hitems, hgiven, hs⟩ | ⟨-, hs⟩ | ⟨-, hs⟩
    · rw [hs] at h
      cases hproperties : node.get? "properties" with
      | none =>
        rw [hproperties] at h
        cases h
      | some properties =>
        rw [hproperties] at h
        obtain ⟨i, name, rfl, hi⟩ := mem_propertiesFrom.mp h
        rw [Nat.zero_add]
        exact .property htype hproperties hi
    · rw [hs] at h
      obtain ⟨i, rfl, hi⟩ := mem_membersFrom.mp h
      rw [Nat.zero_add]
      exact .item htype hitems hgiven hi
    · rw [hs] at h
      cases h
    · rw [hs] at h
      cases h

/-- The leaves below a node that is none stand below the nodes right below it. -/
theorem leafAt_iff_atChild {node : Value} (h : ¬IsLeaf node) {p : List Step} :
    LeafAt node p ↔ AtChild (childrenOf node) (fun _ v q => LeafAt v q) p := by
  cases p with
  | nil =>
    rw [leafAt_nil]
    refine ⟨fun hleaf => absurd hleaf h, ?_⟩
    rintro ⟨c, -, q, hq, -⟩
    cases hq
  | cons s p =>
    rw [leafAt_cons]
    constructor
    · rintro ⟨child, hleads, hleaf⟩
      exact ⟨(s, child), leads_iff.mp hleads, p, rfl, hleaf⟩
    · rintro ⟨c, hc, q, hq, hleaf⟩
      cases hq
      exact ⟨c.2, leads_iff.mpr hc, hleaf⟩

/-- Nothing stands below a leaf. -/
theorem leafAt_iff_of_leaf {node : Value} (h : IsLeaf node) (hs : node.shape = .leaf)
    {p : List Step} : LeafAt node p ↔ p = [] := by
  cases p with
  | nil => simp [leafAt_nil, h]
  | cons s p =>
    rw [leafAt_cons]
    refine ⟨fun ⟨child, hleads, _⟩ => ?_, fun hp => nomatch hp⟩
    rw [leads_iff, childrenOf, hs] at hleads
    cases hleads

/-! ## §5 Required names -/

theorem same_text {s : Scalar} {t : String} : s.same (.text t) = true ↔ s = .text t := by
  cases s <;> simp [Scalar.same, Scalar.toInt?]

theorem contains_set {name : Scalar} {names : List String} :
    (Value.set (names.map .text)).contains name
      = .ok (decide (∃ s ∈ names, name = .text s)) := by
  rw [Value.contains, Scalar.among]
  congr 1
  rw [Bool.eq_iff_iff]
  simp [same_text]

theorem requiredNames_ok {node : Value} {names : List String} (h : node.requiredNames = .ok names)
    (name : String) : name ∈ names ↔ Requires node name := by
  unfold Value.requiredNames at h
  unfold Requires
  cases hlist : node.get? "required" with
  | none =>
    rw [hlist] at h
    cases h
    simp
  | some list =>
    rw [hlist] at h
    constructor
    · intro hname
      exact ⟨list, rfl, exists_of_mem_mapM h name hname⟩
    · rintro ⟨list', hlist', m, hm, hname⟩
      cases hlist'
      exact mem_of_mapM h hm hname

theorem yields_requiredSet {P : List Descriptor → Prop} {node : Value}
    {f : Value → Except Fault (List Descriptor)}
    (h : ∀ names, node.requiredNames = .ok names → Yields P (f (.set (names.map .text)))) :
    Yields P (node.requiredSet >>= f) := by
  refine Yields.bind (Q := fun own => ∃ names, node.requiredNames = .ok names ∧
    own = .set (names.map .text)) ?_ ?_
  · rintro own hown
    obtain ⟨names, hnames, rfl⟩ := map_eq_ok.mp hown
    exact ⟨names, hnames, rfl⟩
  · rintro own ⟨names, hnames, rfl⟩
    exact h names hnames

theorem Leads.unique {node child child' : Value} {s : Step} (h : Leads node s child)
    (h' : Leads node s child') : child = child' := by
  cases h with
  | property _ hproperties hchild =>
    cases h' with
    | property _ hproperties' hchild' =>
      rw [hproperties] at hproperties'
      cases hproperties'
      rw [hchild] at hchild'
      cases hchild'
      rfl
  | item _ hitems _ hchild =>
    cases h' with
    | item _ hitems' _ hchild' =>
      rw [hitems] at hitems'
      cases hitems'
      rw [hchild] at hchild'
      cases hchild'
      rfl

theorem not_requiredAt_nil {node : Value} : ¬RequiredAt node [] := by
  rintro ⟨q, place, name, owner, hp, -⟩
  cases q <;> cases hp

/-- A position with one step more in front is required where it is so below; the step itself, if
it is the only one, where the node it starts from requires it. -/
theorem requiredAt_cons {node child : Value} {s : Step} {p : List Step} (h : Leads node s child) :
    RequiredAt node (s :: p) ↔
      (p = [] ∧ ∃ name, s.name? = some (.text name) ∧ Requires node name) ∨
        RequiredAt child p := by
  constructor
  · rintro ⟨q, place, name, owner, hp, hreaches, hrequires⟩
    cases hreaches with
    | here =>
      cases hp
      exact Or.inl ⟨rfl, name, rfl, hrequires⟩
    | through hleads hreaches =>
      cases hp
      cases h.unique hleads
      exact Or.inr ⟨_, place, name, owner, rfl, hreaches, hrequires⟩
  · rintro (⟨rfl, name, hname, hrequires⟩ | ⟨q, place, name, owner, rfl, hreaches, hrequires⟩)
    · cases s with
      | property place own =>
        cases hname
        exact ⟨[], place, name, node, rfl, .here node, hrequires⟩
      | item place => cases hname
    · exact ⟨s :: q, place, name, owner, rfl, .through h hreaches, hrequires⟩

/-! ## §6 The walk -/

/-- What a field says that stands for a leaf below a node. The walk comes to the node behind a
property or behind a member, at a depth, with the name of the last property, and knowing whether
that one is required; the steps from there to the leaf do the rest. -/
structure Documents (depth : Nat) (behindProperty : Bool) (name : Scalar) (isRequired : Prop)
    (node : Value) (p : List Step) (d : Descriptor) : Prop where
  leaf : ∃ leaf, Reaches node p leaf ∧ Descriptor.ofLeaf d.name leaf d.depth d.required = .ok d
  name : d.name = .scalar (nameFrom name p)
  depth : d.depth = .integer (depth + depthFrom behindProperty p : Nat)
  required : d.required = true ↔ (p = [] ∧ isRequired) ∨ RequiredAt node p

/-- What a field says of a leaf at or below a property of an object that requires some names. -/
def DocumentsProperty (depth : Nat) (names : List String) (s : Step) (node : Value)
    (p : List Step) (d : Descriptor) : Prop :=
  ∃ name, s.name? = some name ∧
    Documents depth true name (∃ t ∈ names, name = .text t) node p d

/-- What a field says of a leaf at or below a member of an array. -/
def DocumentsMember (depth : Nat) (name : Scalar) (s : Step) (node : Value) (p : List Step)
    (d : Descriptor) : Prop :=
  s.name? = none ∧ Documents (depth + 1) false name False node p d

theorem ofLeaf_fields {name node depth : Value} {required : Bool} {d : Descriptor}
    (h : Descriptor.ofLeaf name node depth required = .ok d) :
    d.name = name ∧ d.depth = depth ∧ d.required = required := by
  unfold Descriptor.ofLeaf at h
  split at h
  · obtain ⟨t, -, h⟩ := bind_eq_ok.mp h
    obtain ⟨description, -, h⟩ := bind_eq_ok.mp h
    cases h
    exact ⟨rfl, rfl, rfl⟩
  · cases h

/-- The field of a leaf that the walk has come to. -/
theorem documents_leaf {depth : Nat} {behindProperty required : Bool} {name : Scalar}
    {isRequired : Prop} {node : Value} {d : Descriptor}
    (h : Descriptor.ofLeaf (.scalar name) node (.integer depth) required = .ok d)
    (hrequired : required = true ↔ isRequired) :
    Documents depth behindProperty name isRequired node [] d := by
  obtain ⟨hname, hdepth, hown⟩ := ofLeaf_fields h
  refine ⟨⟨node, .here node, by rw [hname, hdepth, hown, h]⟩, hname, hdepth, ?_⟩
  rw [hown, hrequired]
  simp [not_requiredAt_nil]

/-- From a property of an object to the object. -/
theorem Documents.ofProperty {depth place : Nat} {behindProperty : Bool} {name own : Scalar}
    {isRequired : Prop} {node child : Value} {names : List String} {p : List Step} {d : Descriptor}
    (hleads : Leads node (.property place own) child)
    (hnames : ∀ t, t ∈ names ↔ Requires node t)
    (h : Documents (depth + if behindProperty then 1 else 0) true own
      (∃ t ∈ names, own = .text t) child p d) :
    Documents depth behindProperty name isRequired node (.property place own :: p) d where
  leaf := by
    obtain ⟨leaf, hreaches, hleaf⟩ := h.leaf
    exact ⟨leaf, .through hleads hreaches, hleaf⟩
  name := h.name
  depth := by rw [h.depth, depthFrom, Nat.add_assoc]
  required := by
    have hne : ¬(Step.property place own :: p = [] ∧ isRequired) := fun h => nomatch h.1
    rw [h.required, requiredAt_cons hleads, or_iff_right hne]
    simp only [Step.name?, Option.some.injEq, hnames, and_comm]

/-- From a member of an array to the array. -/
theorem Documents.ofMember {depth place : Nat} {behindProperty : Bool} {name : Scalar}
    {isRequired : Prop} {node child : Value} {p : List Step} {d : Descriptor}
    (hleads : Leads node (.item place) child)
    (h : Documents (depth + 1) false name False child p d) :
    Documents depth behindProperty name isRequired node (.item place :: p) d where
  leaf := by
    obtain ⟨leaf, hreaches, hleaf⟩ := h.leaf
    exact ⟨leaf, .through hleads hreaches, hleaf⟩
  name := h.name
  depth := by rw [h.depth, depthFrom, Nat.add_assoc]
  required := by
    have hne : ¬(Step.item place :: p = [] ∧ isRequired) := fun h => nomatch h.1
    rw [h.required, requiredAt_cons hleads, or_iff_right hne]
    simp [Step.name?]

/-- The fields of a node, one by one for the leaves at and below it. -/
abbrev ListsNode (depth : Nat) (behindProperty : Bool) (name : Scalar) (isRequired : Prop)
    (node : Value) (ds : List Descriptor) : Prop :=
  Lists (LeafAt node) (Documents depth behindProperty name isRequired node) ds

section Nodes

variable {depth : Nat} {behindProperty : Bool} {name : Scalar} {isRequired : Prop} {node : Value}
  {ds : List Descriptor}

theorem listsNode_leaf {d : Descriptor} {required : Bool} (hs : node.shape = .leaf)
    (hd : Descriptor.ofLeaf (.scalar name) node (.integer depth) required = .ok d)
    (hrequired : required = true ↔ isRequired) :
    ListsNode depth behindProperty name isRequired node [d] :=
  lists_singleton (fun _ => leafAt_iff_of_leaf (isLeaf_of_shape hs) hs)
    (documents_leaf hd hrequired)

/-- The fields of the nodes right below one are its own. -/
theorem listsNode_of_children {R : Step → Value → List Step → Descriptor → Prop}
    (hs : ¬IsLeaf node) (h : ListsChildren R (childrenOf node) ds)
    (hR : ∀ s child p d, Leads node s child → R s child p d →
      Documents depth behindProperty name isRequired node (s :: p) d) :
    ListsNode depth behindProperty name isRequired node ds :=
  h.congr (fun _ => (leafAt_iff_atChild hs).symm) fun p d _ hd => by
    obtain ⟨⟨s, child⟩, hc, q, rfl, hd⟩ := hd
    exact hR s child q d (leads_iff.mpr hc) hd

theorem listsNode_nil (hs : node.shape ≠ .leaf) (hnone : childrenOf node = []) :
    ListsNode depth behindProperty name isRequired node [] := by
  refine listsNode_of_children (R := fun _ _ _ _ => False) (not_isLeaf_of_shape hs) ?_ ?_
  · rw [hnone]
    exact listsChildren_nil _
  · exact fun _ _ _ _ _ h => h.elim

theorem listsNode_object {names : List String} {properties : Option Value}
    (hs : node.shape = .object properties) (hnames : node.requiredNames = .ok names)
    (h : ListsChildren (DocumentsProperty (depth + if behindProperty then 1 else 0) names)
      (propertiesFrom 0 (entriesOf (properties.getD .null))) ds) :
    ListsNode depth behindProperty name isRequired node ds := by
  refine listsNode_of_children (R := DocumentsProperty _ names)
    (not_isLeaf_of_shape (by simp [hs])) (by rw [childrenOf_of_object hs]; exact h) ?_
  rintro s child p d hleads ⟨own, hown, hd⟩
  cases s with
  | property place own' =>
    cases hown
    exact .ofProperty hleads (requiredNames_ok hnames) hd
  | item place => cases hown

theorem listsNode_array {members : List Value} (hs : node.shape = .array members)
    (h : ListsChildren (DocumentsMember depth name) (membersFrom 0 members) ds) :
    ListsNode depth behindProperty name isRequired node ds := by
  refine listsNode_of_children (R := DocumentsMember depth name)
    (not_isLeaf_of_shape (by simp [hs])) (by rw [childrenOf, hs]; exact h) ?_
  rintro s child p d hleads ⟨hnone, hd⟩
  cases s with
  | property place own => cases hnone
  | item place => exact .ofMember hleads hd

end Nodes

/-- The fields that the walk finds, one by one for the leaves: at and below the properties of an
object, and at and below one property of it. -/
theorem lists_ofProperties :
    ∀ depth required properties (n : Nat) (names : List String), depth = .integer n →
      required = .set (names.map .text) →
      Yields (ListsChildren (DocumentsProperty n names) (propertiesFrom 0 (entriesOf properties)))
        (ofProperties depth required properties) := by
  refine ofProperties.induct
    (fun depth required properties => ∀ (n : Nat) (names : List String), depth = .integer n →
      required = .set (names.map .text) →
      Yields (ListsChildren (DocumentsProperty n names) (propertiesFrom 0 (entriesOf properties)))
        (ofProperties depth required properties))
    (fun depth required entries => ∀ (n : Nat) (names : List String) (place : Nat),
      depth = .integer n → required = .set (names.map .text) →
      Yields (ListsChildren (DocumentsProperty n names) (propertiesFrom place entries))
        (ofEntries depth required entries))
    (fun depth required name node => ∀ (n : Nat) (names : List String), depth = .integer n →
      required = .set (names.map .text) →
      Yields (ListsNode n true name (∃ t ∈ names, name = .text t) node)
        (ofProperty depth required name node))
    (fun depth name members => ∀ (n : Nat) (own : Scalar) (place : Nat), depth = .integer n →
      name = .scalar own →
      Yields (ListsChildren (DocumentsMember n own) (membersFrom place members))
        (ofMembers depth name members))
    (fun depth name member => ∀ (n : Nat) (own : Scalar), depth = .integer n →
      name = .scalar own →
      Yields (ListsNode n false own False member) (ofMember depth name member))
    ?_ ?_ ?_ ?_ ?_ ?_ ?_ ?_ ?_ ?_ ?_ ?_ ?_ ?_ ?_
  -- the properties of an object: a mapping, or an empty value, or a fault
  · intro depth required properties entries h ih n names hn hnames
    rw [ofProperties_of_mapping h, entriesOf, h]
    exact ih n names 0 hn hnames
  · intro depth required properties hne hfilled n names hn hnames
    rw [ofProperties_of_not_mapping hne, if_pos hfilled]
    exact yields_error _
  · intro depth required properties hne hfilled n names hn hnames
    rw [ofProperties_of_not_mapping hne, if_neg hfilled, entriesOf_of_not_mapping hne]
    exact yields_ok (listsChildren_nil _)
  · intro depth required n names place hn hnames
    rw [ofEntries]
    exact yields_ok (listsChildren_nil _)
  · intro depth required name node rest here more n names place hn hnames
    rw [ofEntries]
    refine (here n names hn hnames).bind fun ds hds =>
      (more n names (place + 1) hn hnames).bind fun ds' hds' => yields_ok ?_
    exact .cons (hds.congr (fun _ => Iff.rfl) fun p d _ hd => ⟨name, rfl, hd⟩) hds'
      place_lt_of_properties
  -- one property
  · intro depth required name node h n names hn hnames
    rw [ofProperty_of_skipped h]
    exact yields_ok (listsNode_nil (by simp [h]) (by rw [childrenOf, h]))
  · intro depth required name node properties h ih n names hn hnames
    rw [ofProperty_of_object h, hn, Value.add_integer, ok_bind]
    refine yields_requiredSet fun own hown => ?_
    cases properties with
    | none => exact yields_ok (listsNode_nil (by simp [h]) (by rw [childrenOf, h]))
    | some p =>
      exact fun ds hds => listsNode_object h hown (ih _ _ p rfl (n + 1) own rfl rfl ds hds)
  · intro depth required name node members h ih n names hn hnames
    rw [ofProperty_of_array h]
    exact fun ds hds => listsNode_array h (ih n name 0 hn rfl ds hds)
  · intro depth required name node h n names hn hnames
    rw [ofProperty_of_leaf h, hn, hnames, contains_set, ok_bind]
    intro ds hds
    obtain ⟨d, hd, hds⟩ := bind_eq_ok.mp hds
    cases hds
    exact listsNode_leaf h hd decide_eq_true_iff
  -- the members of an array
  · intro depth name n own place hn hname
    rw [ofMembers]
    exact yields_ok (listsChildren_nil _)
  · intro depth name member rest here more n own place hn hname
    rw [ofMembers, hn, Value.add_integer, ok_bind]
    refine (here _ (n + 1) own rfl hname).bind fun ds hds =>
      (hn ▸ more n own (place + 1) hn hname).bind fun ds' hds' => yields_ok ?_
    exact .cons (hds.congr (fun _ => Iff.rfl) fun p d _ hd => ⟨rfl, hd⟩) hds'
      place_lt_of_members
  -- one member
  · intro depth name member h n own hn hname
    rw [ofMember_of_skipped h]
    exact yields_ok (listsNode_nil (by simp [h]) (by rw [childrenOf, h]))
  · intro depth name member properties h ih n own hn hname
    rw [ofMember_of_object h]
    refine yields_requiredSet fun names hnames => ?_
    cases properties with
    | none => exact yields_ok (listsNode_nil (by simp [h]) (by rw [childrenOf, h]))
    | some p => exact fun ds hds => listsNode_object h hnames (ih _ p rfl n names hn rfl ds hds)
  · intro depth name member members h ih n own hn hname
    rw [ofMember_of_array h]
    exact fun ds hds => listsNode_array h (ih n own 0 hn hname ds hds)
  · intro depth name member h n own hn hname
    rw [ofMember_of_leaf h, hn, hname]
    intro ds hds
    obtain ⟨d, hd, hds⟩ := bind_eq_ok.mp hds
    cases hds
    exact listsNode_leaf h hd (by simp)

/-! ## §7 Whole schemas -/

/-- What a field of a schema says: it is made of the leaf at a position, its name is that of the
last property on the way, its depth that of the position, and it is required where the object
around the property that the way ends with requires it. -/
structure Describes (schema : Value) (p : List Step) (d : Descriptor) : Prop where
  leaf : ∃ leaf, Reaches schema p leaf ∧ Descriptor.ofLeaf d.name leaf d.depth d.required = .ok d
  name : (lastName? p).map .scalar = some d.name
  depth : d.depth = .integer (depthOf p)
  required : d.required = true ↔ RequiredAt schema p

theorem objectRoot_ok {schema : Value} {entries : List (Scalar × Value)}
    (h : schema.objectRoot = .ok entries) : schema.get? "type" = some (.text "object") := by
  unfold Value.objectRoot at h
  split at h
  · rename_i entries' hbare
    split at h
    · rename_i htype
      unfold Value.get?
      rw [hbare]
      exact htype
    · cases h
  · cases h

/-- The first step from an object goes to a property, so a position below it has a name. -/
theorem lastName?_of_leads {node child : Value} {s : Step} (p : List Step)
    (h : node.get? "type" = some (.text "object")) (hs : Leads node s child) :
    ∃ name, lastName? (s :: p) = some name := by
  cases hs with
  | property =>
    simp only [lastName?, List.filterMap_cons, Step.name?, List.getLast?_cons]
    exact ⟨_, rfl⟩
  | item htype =>
    rw [h] at htype
    simp at htype

/-- **The fields of a schema are its leaves.** If a schema has fields at all, then they stand one
by one, in document order, for the positions of its leaves, and say what these say. -/
theorem ofSchema_positions {schema : Value} {ds : List Descriptor} (h : ofSchema schema = .ok ds) :
    ∃ ps : List (List Step), ps.Pairwise Before ∧ (∀ p, p ∈ ps ↔ LeafAt schema p) ∧
      List.Forall₂ (Describes schema) ps ds := by
  unfold ofSchema at h
  split at h
  · cases h
  obtain ⟨entries, hroot, h⟩ := bind_eq_ok.mp h
  have htype := objectRoot_ok hroot
  have hshape := shape_of_object htype
  obtain ⟨required, hrequired, h⟩ := bind_eq_ok.mp h
  obtain ⟨names, hnames, rfl⟩ := map_eq_ok.mp (orFail_eq_ok.mp hrequired)
  have hlists : ListsNode 0 false .null False schema ds :=
    listsNode_object hshape hnames (lists_ofProperties _ _ _ 0 names rfl rfl ds (orFail_eq_ok.mp h))
  refine hlists.congr (fun _ => Iff.rfl) fun p d hp hd => ?_
  refine ⟨hd.leaf, ?_, ?_, ?_⟩
  · cases p with
    | nil => exact absurd (leafAt_nil.mp hp) (not_isLeaf_of_shape (by simp [hshape]))
    | cons s p =>
      obtain ⟨child, hs, -⟩ := leafAt_cons.mp hp
      obtain ⟨name, hname⟩ := lastName?_of_leads p htype hs
      rw [hd.name, nameFrom_eq, hname]
      rfl
  · rw [hd.depth, Nat.zero_add, depthFrom_false]
  · simpa using hd.required

/-! ## §8 A nested schema -/

/-- A node of a type, with other facts. -/
def nodeOf (type : String) (facts : List (Scalar × Value) := []) : Value :=
  .mapping ((.text "type", .text type) :: facts)

/-- A schema with an object in an object, and an array of arrays of objects. -/
def nested : Value :=
  nodeOf "object"
    [(.text "required", .sequence [.text "account"]),
     (.text "properties", .mapping
      [(.text "account", nodeOf "object"
        [(.text "required", .sequence [.text "id"]),
         (.text "properties", .mapping
          [(.text "id", nodeOf "integer"), (.text "note", nodeOf "string")])]),
       (.text "lines", nodeOf "array"
        [(.text "items", nodeOf "array"
          [(.text "items", nodeOf "object"
            [(.text "required", .sequence [.text "sum"]),
             (.text "properties", .mapping [(.text "sum", nodeOf "number")])])])])])]

def nestedFields : List Descriptor :=
  [⟨.integer 1, .text "id", true, "integer", none, ""⟩,
   ⟨.integer 1, .text "note", false, "string", none, ""⟩,
   ⟨.integer 2, .text "sum", true, "number", none, ""⟩]

theorem ofSchema_nested : ofSchema nested = .ok nestedFields := by cbv

/-- The three fields of that schema stand for its three leaves. -/
theorem ofSchema_positions_nested : ofSchema nested = .ok nestedFields ∧
    ∃ ps : List (List Step), ps.Pairwise Before ∧ (∀ p, p ∈ ps ↔ LeafAt nested p) ∧
      List.Forall₂ (Describes nested) ps nestedFields :=
  ⟨ofSchema_nested, ofSchema_positions ofSchema_nested⟩

end SchemaDoc.Fields
