/-
SchemaDoc.Proofs.Yaml.Merging — what merges do, and how deep they go.

Merges move entries between mappings and turn the marks of values into texts.
They change neither the form of a node nor its text (`Graph.Becomes`), and the
entries that ask for a merge only get fewer: a merge takes the one away that
asked for it, and what it brings has none. So merges stand inside one another
at most as often as there were such entries at first (`merges_merged`), and
where there is room for that, all that they refuse is complained about.

§1 what nodes become, §2 entries that ask for a merge, §3 computations that
merge, §4 one mapping.
-/
import Mathlib.Algebra.BigOperators.Group.List.Basic
import Mathlib.Algebra.GroupWithZero.Nat
import Mathlib.Data.List.TakeWhile
import SchemaDoc.Proofs.Failing
import SchemaDoc.Yaml.Merge

namespace SchemaDoc.Yaml

/-! ## §1 What nodes become -/

/-- A tag is kept, or the mark of a value becomes that of a text. -/
def Tag.Becomes (tag tag' : Tag) : Prop := tag' = tag ∨ tag = .value ∧ tag' = .text

theorem Tag.Becomes.trans {a b c : Tag} (hab : a.Becomes b) (hbc : b.Becomes c) :
    a.Becomes c := by
  rcases hab with rfl | ⟨rfl, rfl⟩
  · exact hbc
  · rcases hbc with rfl | ⟨h, -⟩
    · exact Or.inr ⟨rfl, rfl⟩
    · cases h

/-- What merges make of a node: its form is kept, and its text if it is a scalar. -/
inductive Node.Becomes : Node → Node → Prop
  | scalar {tag tag' : Tag} {text : String} : tag.Becomes tag' →
      Node.Becomes (.scalar tag text) (.scalar tag' text)
  | sequence {tag tag' : Tag} {items : List NodeId} : tag.Becomes tag' →
      Node.Becomes (.sequence tag items) (.sequence tag' items)
  | mapping {tag tag' : Tag} {entries entries' : List (NodeId × NodeId)} : tag.Becomes tag' →
      Node.Becomes (.mapping tag entries) (.mapping tag' entries')

theorem Node.Becomes.refl (n : Node) : n.Becomes n := by
  cases n with
  | scalar tag text => exact .scalar (Or.inl rfl)
  | sequence tag items => exact .sequence (Or.inl rfl)
  | mapping tag entries => exact .mapping (Or.inl rfl)

theorem Node.Becomes.trans {a b c : Node} (hab : a.Becomes b) (hbc : b.Becomes c) :
    a.Becomes c := by
  cases hab with
  | scalar h => cases hbc with
    | scalar h' => exact .scalar (h.trans h')
  | sequence h => cases hbc with
    | sequence h' => exact .sequence (h.trans h')
  | mapping h => cases hbc with
    | mapping h' => exact .mapping (h.trans h')

/-- A node is a mapping. -/
def Node.IsMapping (n : Node) : Prop := ∃ tag entries, n = .mapping tag entries

theorem Node.Becomes.isMapping_iff {a b : Node} (h : a.Becomes b) :
    b.IsMapping ↔ a.IsMapping := by
  cases h with
  | scalar => exact iff_of_false (fun ⟨_, _, h⟩ => nomatch h) fun ⟨_, _, h⟩ => nomatch h
  | sequence => exact iff_of_false (fun ⟨_, _, h⟩ => nomatch h) fun ⟨_, _, h⟩ => nomatch h
  | mapping => exact iff_of_true ⟨_, _, rfl⟩ ⟨_, _, rfl⟩

/-- What merges make of a document. -/
def Graph.Becomes (g g' : Graph) : Prop := ∀ id, (g.node id).Becomes (g'.node id)

theorem Graph.Becomes.refl (g : Graph) : g.Becomes g := fun _ => .refl _

theorem Graph.Becomes.trans {a b c : Graph} (hab : a.Becomes b) (hbc : b.Becomes c) :
    a.Becomes c := fun id => (hab id).trans (hbc id)

theorem Graph.becomes_set {g : Graph} {id : NodeId} {n : Node} (h : (g.node id).Becomes n) :
    g.Becomes (g.setIfInBounds id n) := by
  intro other
  by_cases he : id = other ∧ id < g.size
  · obtain ⟨rfl, hsize⟩ := he
    have hset : Graph.node (g.setIfInBounds id n) id = n := by
      simp [Graph.node, Array.getD_eq_getD_getElem?, hsize]
    rw [hset]
    exact h
  · have hset : Graph.node (g.setIfInBounds id n) other = g.node other := by
      simp only [Graph.node, Array.getD_eq_getD_getElem?, Array.getElem?_setIfInBounds]
      split
      · rename_i hsame
        subst hsame
        have hsize : ¬id < g.size := fun hs => he ⟨rfl, hs⟩
        simp [hsize]
      · rfl
    rw [hset]
    exact .refl _

/-! ## §2 Entries that ask for a merge -/

/-- The entries of a node, which has none if it is no mapping. -/
def Node.entries : Node → List (NodeId × NodeId)
  | .mapping _ entries => entries
  | _ => []

/-- An entry asks for a merge. -/
def Graph.isMerge (g : Graph) (entry : NodeId × NodeId) : Bool := (g.node entry.1).tag == .merge

/-- How many entries of nodes ask for a merge. -/
def Graph.merges (g : Graph) (nodes : List Node) : Nat :=
  (nodes.map fun n => n.entries.countP g.isMerge).sum

/-- How many entries of a document ask for a merge. -/
def Graph.mergeCount (g : Graph) : Nat := g.merges g.toList

section Merges

variable {g₀ g : Graph} {id : NodeId} {n : Node}

theorem Graph.Becomes.isMerge (h : g₀.Becomes g) : g.isMerge = g₀.isMerge := by
  funext entry
  unfold Graph.isMerge
  have htag : ∀ {a b : Node}, a.Becomes b → (b.tag == .merge) = (a.tag == .merge) := by
    intro a b hab
    cases hab with
    | scalar h => rcases h with rfl | ⟨rfl, rfl⟩ <;> rfl
    | sequence h => rcases h with rfl | ⟨rfl, rfl⟩ <;> rfl
    | mapping h => rcases h with rfl | ⟨rfl, rfl⟩ <;> rfl
  exact htag (h entry.1)

theorem Graph.merges_set {nodes : List Node} {i : Nat} (h : i < nodes.length) (n : Node) :
    g₀.merges (nodes.set i n) + nodes[i].entries.countP g₀.isMerge =
      g₀.merges nodes + n.entries.countP g₀.isMerge := by
  unfold Graph.merges
  induction nodes generalizing i with
  | nil => cases h
  | cons m nodes ih =>
    cases i with
    | zero =>
      simp only [List.set_cons_zero, List.map_cons, List.sum_cons, List.getElem_cons_zero]
      omega
    | succ i =>
      have := ih (Nat.lt_of_succ_lt_succ h)
      simp only [List.set_cons_succ, List.map_cons, List.sum_cons, List.getElem_cons_succ]
      omega

/-- A mapping with other entries asks for as many merges more or less as they do. -/
theorem Graph.merges_setIfInBounds (g₀ : Graph) (h : id < g.size) (n : Node) :
    g₀.merges (g.setIfInBounds id n).toList + (g.node id).entries.countP g₀.isMerge =
      g₀.merges g.toList + n.entries.countP g₀.isMerge := by
  have hlength : id < g.toList.length := by simpa using h
  have hnode : g.node id = g.toList[id] := by
    simp [Graph.node, Array.getD_eq_getD_getElem?, h]
  rw [hnode, Array.toList_setIfInBounds]
  exact Graph.merges_set hlength n

theorem Graph.size_of_isMapping (h : (g.node id).IsMapping) : id < g.size := by
  by_contra hsize
  obtain ⟨tag, entries, hn⟩ := h
  simp [Graph.node, Array.getD_eq_getD_getElem?, hsize, Node.empty] at hn

theorem Graph.countP_le_merges (g₀ : Graph) (h : (g.node id).IsMapping) :
    (g.node id).entries.countP g₀.isMerge ≤ g₀.merges g.toList := by
  have hset := Graph.merges_setIfInBounds g₀ (Graph.size_of_isMapping h) Node.empty
  have hempty : Node.empty.entries.countP g₀.isMerge = 0 := rfl
  omega

end Merges

/-! ## §3 Computations that merge -/

namespace Merging

variable {α β : Type} {g₀ g : Graph} {room : Room} {limit deep : Nat} {id : NodeId}
  {Q : Graph → Prop} {P : α → Graph → Prop}

/-- What a document has become where a number of entries at most still ask for merges. -/
structure Stage (g₀ : Graph) (limit : Nat) (g : Graph) : Prop where
  becomes : g₀.Becomes g
  merges : g₀.merges g.toList ≤ limit

/-- Why a merging refuses a document: it complains, or there is no room for as many merges inside
one another as there may be. -/
inductive Refuses (room : Room) (deep : Nat) : Trouble → Prop
  | complaint (c : Complaint) : Refuses room deep (.complaint c)
  | nesting : room.IsBelow deep → Refuses room deep (.fault .tooDeep)

/-- At a stage that is such and such, a merging gives something that is such and such, and leaves no
more merges to do. -/
def Merges (g₀ : Graph) (room : Room) (limit deep : Nat) (Q : Graph → Prop) (m : Merging α)
    (P : α → Graph → Prop) : Prop :=
  ∀ g, Stage g₀ limit g → Q g →
    Gives (fun x : α × Graph => Stage g₀ limit x.2 ∧ P x.1 x.2) (Refuses room deep) (m g)

/-- None of some entries asks for a merge. -/
def NoMerge (g₀ : Graph) (entries : List (NodeId × NodeId)) : Prop :=
  ∀ e ∈ entries, g₀.isMerge e = false

theorem NoMerge.append {es fs : List (NodeId × NodeId)} (he : NoMerge g₀ es)
    (hf : NoMerge g₀ fs) : NoMerge g₀ (es ++ fs) :=
  fun e h => (List.mem_append.mp h).elim (he e) (hf e)

theorem noMerge_iff {es : List (NodeId × NodeId)} :
    NoMerge g₀ es ↔ es.countP g₀.isMerge = 0 := by
  simp [NoMerge, List.countP_eq_zero]

theorem Refuses.mono {deep' : Nat} {t : Trouble} (h : Refuses room deep t) (hle : deep ≤ deep') :
    Refuses room deep' t := by
  cases h with
  | complaint c => exact .complaint c
  | nesting h =>
    obtain ⟨n, hroom, hn⟩ := h
    exact .nesting ⟨n, hroom, Nat.lt_of_lt_of_le hn hle⟩

theorem Merges.mono {deep' : Nat} {m : Merging α} (h : Merges g₀ room limit deep Q m P)
    (hle : deep ≤ deep') : Merges g₀ room limit deep' Q m P :=
  fun g hg hQ => (h g hg hQ).imp_error fun _ ht => ht.mono hle

theorem Merges.of_imp {m : Merging α} {Q' : Graph → Prop} (h : Merges g₀ room limit deep Q m P)
    (hQ : ∀ g, Q' g → Q g) : Merges g₀ room limit deep Q' m P := fun g hg hg' => h g hg (hQ g hg')

theorem Merges.bind {m : Merging α} {f : α → Merging β} {P' : β → Graph → Prop}
    (hm : Merges g₀ room limit deep Q m P)
    (hf : ∀ a, Merges g₀ room limit deep (P a) (f a) P') :
    Merges g₀ room limit deep Q (m >>= f) P' :=
  fun g hg hQ => Gives.bind (hm g hg hQ) fun x hx => hf x.1 x.2 hx.1 hx.2

theorem merges_throw (c : Complaint) :
    Merges g₀ room limit deep Q (throw (.complaint c) : Merging α) P :=
  fun _ _ _ => .error (.complaint c)

/-- What depends on the nodes as they are. -/
theorem merges_get {f : Graph → Merging α}
    (hf : ∀ g, Stage g₀ limit g → Q g → Merges g₀ room limit deep (· = g) (f g) P) :
    Merges g₀ room limit deep Q (get >>= f) P := fun g hg hQ => hf g hg hQ g hg rfl

theorem merges_modify {f : Graph → Graph} {P : Unit → Graph → Prop}
    (hf : ∀ g, Stage g₀ limit g → Q g → Stage g₀ limit (f g) ∧ P () (f g)) :
    Merges g₀ room limit deep Q (modify f : Merging Unit) P := fun g hg hQ => .ok (hf g hg hQ)

theorem merges_mapM {xs : List α} {f : α → Merging β} {R : β → Prop}
    (hf : ∀ x, Merges g₀ room limit deep (fun _ => True) (f x) fun y _ => R y) :
    Merges g₀ room limit deep (fun _ => True) (xs.mapM f) fun ys _ => ∀ y ∈ ys, R y := by
  induction xs with
  | nil => exact fun g hg _ => .ok ⟨hg, nofun⟩
  | cons x xs ih =>
    rw [List.mapM_cons]
    refine (hf x).bind fun y g hg hy => ?_
    refine Gives.bind (ih g hg trivial) fun r hr => ?_
    exact .ok ⟨hr.1, List.forall_mem_cons.mpr ⟨hy, hr.2⟩⟩

/-- Merges one mapping further in are one fewer. -/
theorem merges_within {inner : Room → Merging α}
    (h : ∀ room, Merges g₀ room limit limit Q (inner room) P) :
    Merges g₀ room limit (limit + 1) Q (within room inner) P := by
  intro g hg hQ
  refine Room.enter_cases (p := fun m : Merging α => Gives _ (Refuses room (limit + 1)) (m g))
    (fun hroom => .error (.nesting ⟨0, hroom, Nat.succ_pos limit⟩)) fun left hleft => ?_
  refine (h left g hg hQ).imp_error fun t ht => ?_
  cases ht with
  | complaint c => exact .complaint c
  | nesting hbelow =>
    obtain ⟨n, hn, hlt⟩ := hbelow
    exact .nesting ⟨n + 1, hleft n hn, Nat.succ_lt_succ hlt⟩

theorem merges_entriesOf (id : NodeId) :
    Merges g₀ room limit deep Q (entriesOf id) fun es g => es = (g.node id).entries ∧ Q g := by
  refine merges_get fun g _ hQ => ?_
  split
  · rename_i hn
    rintro _ hg rfl
    exact .ok ⟨hg, by rw [hn]; rfl, hQ⟩
  · rename_i g _ hn
    rintro _ hg rfl
    refine .ok ⟨hg, ?_, hQ⟩
    dsimp only
    cases hnode : Graph.node _ id with
    | mapping tag entries => exact absurd hnode (hn tag entries)
    | scalar tag text => rfl
    | sequence tag items => rfl

/-- The entries of a mapping with its merges carried out. -/
theorem merges_brought (id : NodeId) :
    Merges g₀ room limit deep (fun g => NoMerge g₀ (g.node id).entries) (entriesOf id)
      fun more _ => NoMerge g₀ more :=
  fun g hg hno => (merges_entriesOf (Q := fun g => NoMerge g₀ (g.node id).entries) id g hg hno).imp
    fun _ ⟨hg, hmore, hno⟩ => ⟨hg, hmore ▸ hno⟩

/-! ## §4 One mapping -/

theorem becomes_settleKey (hg : g₀.Becomes g) (key : NodeId) :
    g₀.Becomes (settleKey g key) := by
  unfold settleKey
  split
  · rename_i hvalue
    refine hg.trans (Graph.becomes_set ?_)
    cases hn : g.node key with
    | scalar tag text =>
      rw [hn] at hvalue
      exact .scalar (Or.inr ⟨hvalue, rfl⟩)
    | sequence tag items =>
      rw [hn] at hvalue
      exact .sequence (Or.inr ⟨hvalue, rfl⟩)
    | mapping tag entries =>
      rw [hn] at hvalue
      exact .mapping (Or.inr ⟨hvalue, rfl⟩)
  · exact hg

/-- A key that becomes a text keeps the entries that ask for merges. -/
theorem merges_settleKey (g₀ g : Graph) (key : NodeId) :
    g₀.merges (settleKey g key).toList = g₀.merges g.toList := by
  unfold settleKey
  split
  · rename_i hvalue
    have hsize : key < g.size := by
      by_contra hsize
      simp [Graph.node, Array.getD_eq_getD_getElem?, hsize, Node.empty, Node.tag] at hvalue
    have hset := Graph.merges_setIfInBounds g₀ hsize ((g.node key).withTag .text)
    have hentries : ((g.node key).withTag .text).entries = (g.node key).entries := by
      cases g.node key <;> rfl
    rw [hentries] at hset
    omega
  · rfl

theorem stage_settleKeys (hg : Stage g₀ limit g) (entries : List (NodeId × NodeId)) :
    Stage g₀ limit (entries.foldl (fun g (key, _) => settleKey g key) g) := by
  induction entries generalizing g with
  | nil => exact hg
  | cons e rest ih =>
    exact ih ⟨becomes_settleKey hg.becomes e.1, (merges_settleKey g₀ g e.1).trans_le hg.merges⟩

/-- A mapping is given other entries: as many merges are left as with its own ones, less those that
these ask for and more those that the others do. -/
theorem stage_setEntries {limit' : Nat} (hg : Stage g₀ limit g) (h : (g₀.node id).IsMapping)
    {entries : List (NodeId × NodeId)}
    (hlimit : limit + entries.countP g₀.isMerge ≤
      limit' + (g.node id).entries.countP g₀.isMerge) :
    Stage g₀ limit' (g.setIfInBounds id (.mapping (g.node id).tag entries)) where
  becomes := by
    refine hg.becomes.trans (Graph.becomes_set ?_)
    obtain ⟨tag, own, hown⟩ := (hg.becomes id).isMapping_iff.mpr h
    rw [hown]
    exact .mapping (Or.inl rfl)
  merges := by
    have hsize := Graph.size_of_isMapping ((hg.becomes id).isMapping_iff.mpr h)
    have hset := Graph.merges_setIfInBounds g₀ hsize (.mapping (g.node id).tag entries)
    have hentries : (Node.mapping (g.node id).tag entries).entries = entries := rfl
    have hmerges := hg.merges
    rw [hentries] at hset
    omega

/-- Entries that ask for no merge are given to a mapping. -/
theorem merges_setEntries (h : (g₀.node id).IsMapping) {entries : List (NodeId × NodeId)}
    (hentries : NoMerge g₀ entries) :
    Merges g₀ room limit deep Q (setEntries id entries)
      fun _ g => NoMerge g₀ (g.node id).entries := by
  refine merges_modify fun g hg _ => ⟨stage_setEntries hg h ?_, ?_⟩
  · rw [noMerge_iff.mp hentries]
    omega
  · have hsize := Graph.size_of_isMapping ((hg.becomes id).isMapping_iff.mpr h)
    have hnode : Graph.node (g.setIfInBounds id (.mapping (g.node id).tag entries)) id =
        .mapping (g.node id).tag entries := by
      simp [Graph.node, Array.getD_eq_getD_getElem?, hsize]
    rw [hnode]
    exact hentries

/-- A mapping whose own entries ask for no merge has its merges carried out, when what they brought
asks for none. -/
theorem merges_finish (h : (g₀.node id).IsMapping) {brought : List (NodeId × NodeId)}
    (hbrought : NoMerge g₀ brought) :
    Merges g₀ room limit deep (fun g => NoMerge g₀ (g.node id).entries) (finish id brought)
      fun _ g => NoMerge g₀ (g.node id).entries := by
  refine (merges_brought id).bind fun own g hg hown => ?_
  have hrest : Merges g₀ room limit deep (fun _ => True) (do
      modify fun g => own.foldl (fun g (key, _) => settleKey g key) g
      setEntries id (brought ++ own)) fun _ g => NoMerge g₀ (g.node id).entries :=
    (merges_modify (P := fun _ _ => True) fun g hg _ =>
      ⟨stage_settleKeys hg own, trivial⟩).bind fun _ =>
        merges_setEntries h (hbrought.append hown)
  exact hrest g hg trivial

/-- The first entry that asks for a merge, and what is left without it. -/
theorem countP_without_merge {es rest : List (NodeId × NodeId)} {e : NodeId × NodeId}
    (h : es.dropWhile (fun e => !g₀.isMerge e) = e :: rest) :
    (es.takeWhile (fun e => !g₀.isMerge e) ++ rest).countP g₀.isMerge + 1 =
      es.countP g₀.isMerge := by
  have hes := List.takeWhile_append_dropWhile (p := fun e => !g₀.isMerge e) (l := es)
  have hmerge : g₀.isMerge e = true := by
    have hhead := List.head_dropWhile_not (fun e => !g₀.isMerge e) (l := es) (by simp [h])
    simpa [h] using hhead
  rw [h] at hes
  conv_rhs => rw [← hes]
  rw [List.countP_append, List.countP_append, List.countP_cons_of_pos hmerge]
  omega

/-- What is done behind an entry that asks for a merge, which is taken away. -/
theorem gives_behind_setEntries {next : Merging α} {entries : List (NodeId × NodeId)}
    (hstage : Stage g₀ limit (g.setIfInBounds id (.mapping (g.node id).tag entries)))
    (h : Merges g₀ room limit deep (fun _ => True) next P) :
    Gives (fun x : α × Graph => Stage g₀ (limit + 1) x.2 ∧ P x.1 x.2) (Refuses room deep)
      ((setEntries id entries >>= fun _ => next) g) :=
  (h _ hstage trivial).imp fun _ hx =>
    ⟨⟨hx.1.becomes, Nat.le_succ_of_le hx.1.merges⟩, hx.2⟩

/-- What an entry that asks for a merge brings from its value, and what is done with it. -/
theorem merges_source {fuel : Nat} {target : NodeId} {next : List (NodeId × NodeId) → Merging α}
    (hg : g₀.Becomes g) (hinner : ∀ {id : NodeId}, (g₀.node id).IsMapping → ∀ room,
      Merges g₀ room limit limit (fun _ => True) (carryOut fuel id [] room)
        fun _ g => NoMerge g₀ (g.node id).entries)
    (hnext : ∀ more, NoMerge g₀ more →
      Merges g₀ room limit (limit + 1) (fun _ => True) (next more) P) :
    Merges g₀ room limit (limit + 1) (fun _ => True) (match g.node target with
      | .mapping _ _ => do
        within room fun room => carryOut fuel target [] room
        let more ← entriesOf target
        next more
      | .sequence _ items => do
        let parts ← items.mapM fun item => do
          match (← get).node item with
          | .mapping _ _ =>
            within room fun room => carryOut fuel item [] room
            entriesOf item
          | _ => throw (.complaint .wrongForm)
        next parts.reverse.flatten
      | .scalar _ _ => throw (.complaint .wrongForm)) P := by
  split
  · rename_i hn
    have htarget := (hg target).isMapping_iff.mp ⟨_, _, hn⟩
    exact (merges_within (hinner htarget)).bind fun _ => (merges_brought target).bind
      fun more g hg hmore => hnext more hmore g hg trivial
  · refine (merges_mapM (R := NoMerge g₀) fun item => ?_).bind fun parts g hg hparts => ?_
    · refine merges_get fun g hg _ => ?_
      split
      · rename_i hn
        have hitem := (hg.becomes item).isMapping_iff.mp ⟨_, _, hn⟩
        exact ((merges_within (hinner hitem)).of_imp fun _ _ => trivial).bind
          fun _ => merges_brought item
      · exact merges_throw _
    · refine hnext _ (fun e he => ?_) g hg trivial
      obtain ⟨part, hpart, he⟩ := List.mem_flatten.mp he
      exact hparts part (List.mem_reverse.mp hpart) e he
  · exact merges_throw _

/-- **The merges of a mapping are carried out inside one another at most as often as entries ask for
one.** -/
theorem merges_carryOut : ∀ (fuel : Nat) {id : NodeId} {brought : List (NodeId × NodeId)}
    (room : Room) {limit : Nat}, (g₀.node id).IsMapping → limit ≤ fuel → NoMerge g₀ brought →
    Merges g₀ room limit limit (fun _ => True) (carryOut fuel id brought room)
      fun _ g => NoMerge g₀ (g.node id).entries := by
  intro fuel
  induction fuel with
  | zero =>
    intro id brought room limit h hlimit hbrought g hg _
    have hcount := Graph.countP_le_merges g₀ ((hg.becomes id).isMapping_iff.mpr h)
    have hmerges := hg.merges
    exact merges_finish h hbrought g hg (noMerge_iff.mpr (by omega))
  | succ fuel ih =>
    intro id brought room limit h hlimit hbrought
    rw [carryOut]
    refine merges_get fun g hg _ => (merges_entriesOf id).bind fun entries g' hg' hentries => ?_
    obtain ⟨rfl, rfl⟩ := hentries
    have hown : (fun entry : NodeId × NodeId => (g'.node entry.1).tag != .merge) =
        fun e => !g₀.isMerge e := by
      rw [← hg.becomes.isMerge]
      rfl
    rw [hown]
    cases hfirst : (g'.node id).entries.dropWhile fun e => !g₀.isMerge e with
    | nil =>
      refine merges_finish h hbrought g' hg fun e he => ?_
      simpa using List.dropWhile_eq_nil_iff.1 hfirst e he
    | cons e rest =>
      have hcount := countP_without_merge hfirst
      have hfew := Graph.countP_le_merges g₀ ((hg.becomes id).isMapping_iff.mpr h)
      -- One entry less asks for a merge, so that the merges inside this one are bounded by `fewer`.
      obtain ⟨fewer, rfl⟩ : ∃ fewer, limit = fewer + 1 :=
        ⟨limit - 1, by have := hg.merges; omega⟩
      refine gives_behind_setEntries (P := fun _ g => NoMerge g₀ (g.node id).entries)
        (stage_setEntries hg h (by omega)) (merges_source hg.becomes ?_ ?_)
      · exact fun h room => ih room h (by omega) nofun
      · exact fun more hmore =>
          (ih room h (by omega) (hbrought.append hmore)).mono (Nat.le_succ fewer)

/-- Of all entries of a document, those that ask for a merge are some. -/
theorem merges_le_countEntries (g₀ g : Graph) : g₀.merges g.toList ≤ countEntries g := by
  have hsum : ∀ (nodes : List Node) (start : Nat), start + g₀.merges nodes ≤
      nodes.foldl (fun n node => match node with
        | .mapping _ entries => n + entries.length
        | _ => n) start := by
    intro nodes
    induction nodes with
    | nil => exact fun start => Nat.le_refl start
    | cons node nodes ih =>
      intro start
      have hnode : g₀.merges (node :: nodes) =
          node.entries.countP g₀.isMerge + g₀.merges nodes := rfl
      rw [List.foldl_cons, hnode, ← Nat.add_assoc]
      refine Nat.le_trans (Nat.add_le_add_right ?_ _) (ih _)
      cases node with
      | mapping tag entries => exact Nat.add_le_add_left List.countP_le_length start
      | scalar tag text => exact Nat.le_refl start
      | sequence tag items => exact Nat.le_refl start
  have hall := hsum g.toList 0
  rw [Nat.zero_add, Array.foldl_toList] at hall
  exact hall

/-- **The entries of a mapping with its merges carried out**: what is refused is complained about, or
more entries of the document ask for a merge than there is room for. -/
theorem merges_merged (h : (g₀.node id).IsMapping) (room : Room) :
    Merges g₀ room limit limit (fun _ => True) (merged id room) fun _ _ => True := by
  refine merges_get fun g hg _ g' hg' hsame => ?_
  subst hsame
  have hleft : Stage g₀ (g₀.merges g'.toList) g' := ⟨hg.becomes, Nat.le_refl _⟩
  have hnone : NoMerge g₀ [] := nofun
  have hmerged := (merges_carryOut (countEntries g') room h (merges_le_countEntries g₀ g')
    hnone).bind fun _ => merges_entriesOf id
  refine ((hmerged g' hleft trivial).imp fun x hx => ?_).imp_error fun t ht => ht.mono hg.merges
  exact ⟨⟨hx.1.becomes, hx.1.merges.trans hg.merges⟩, trivial⟩

end Merging

end SchemaDoc.Yaml
