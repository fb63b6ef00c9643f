/-
SchemaDoc.Proofs.Yaml.Building — the documents that building gives up on.

Merges change neither the form of a node nor its text, so that what building
meets at a node is what was read there. It gives up on a scalar whose text is
not in the form of its tag, possibly on a mapping with the tag of a scalar, and
on merges that there is no room for (`Graph.Misfit`). Everything else is built
or complained about.

§1 computations that build, §2 parts and contents, §3 texts.
-/
import SchemaDoc.Proofs.Yaml.Merging
import SchemaDoc.Proofs.Yaml.Parsing
import SchemaDoc.Proofs.Yaml.Scanning
import SchemaDoc.Yaml.Document

namespace SchemaDoc.Yaml

/-! ## §1 Computations that build -/

/-- A document gives up with a fault: it has a scalar whose text is not in the form of its tag, or a
mapping with the tag of a scalar or the mark of a value, or more entries ask for a merge than there
is room for. -/
inductive Graph.Misfit (g : Graph) (reading : Mark) (room : Room) (f : Fault) : Prop
  | text {id : NodeId} {tag : Tag} {text : String} : g.node id = .scalar tag text →
      scalarOf (id :: reading) tag text = .error (.fault f) → g.Misfit reading room f
  | mapping {id : NodeId} {tag : Tag} {entries : List (NodeId × NodeId)} :
      g.node id = .mapping tag entries → Building.asksForScalar tag = true ∨ tag = .value →
      g.Misfit reading room f
  | merges : f = .tooDeep → room.IsBelow g.mergeCount → g.Misfit reading room f

theorem Graph.reach_eq_succ (g : Graph) (room : Room) : ∃ n, g.reach room = n + 1 := by
  cases room with
  | none => exact ⟨g.size, rfl⟩
  | some n => exact ⟨min g.size n, by simp [Graph.reach, Nat.succ_min_succ]⟩

/-- A scalar is made of its own text. -/
theorem Graph.scalar_of_scalar {g : Graph} {reading : Mark} {room : Room} {id : NodeId} {tag : Tag}
    {text : String} (hn : g.node id = .scalar tag text) :
    g.scalar reading id room = scalarOf (id :: reading) tag text := by
  have htext : g.scalarText (g.reach room) id = .ok text := by
    obtain ⟨n, hreach⟩ := g.reach_eq_succ room
    rw [hreach, Graph.scalarText, hn]
  simp only [Graph.scalar, htext, hn, ok_bind]
  split
  · rename_i h
    cases h
  · rfl

theorem Graph.scalar_of_sequence {g : Graph} {reading : Mark} {room : Room} {id : NodeId} {tag : Tag}
    {items : List NodeId} (hn : g.node id = .sequence tag items) :
    g.scalar reading id room = .error (.complaint .wrongForm) := by
  have htext : g.scalarText (g.reach room) id = .error (.complaint .wrongForm) := by
    obtain ⟨n, hreach⟩ := g.reach_eq_succ room
    rw [hreach, Graph.scalarText, hn]
  simp only [Graph.scalar, htext, error_bind]

/-- A scalar that is not made is complained about, or a misfit. -/
theorem Graph.scalar_fault {g₀ g : Graph} (hg : g₀.Becomes g) {reading : Mark} {room : Room}
    {id : NodeId} {f : Fault} (hasks : Building.asksForScalar (g.node id).tag = true)
    (h : g.scalar reading id room = .error (.fault f)) : g₀.Misfit reading room f := by
  have hid := hg id
  generalize hn₀ : g₀.node id = n₀ at hid
  generalize hn : g.node id = n at hid hasks
  cases hid with
  | scalar htag =>
    rw [Graph.scalar_of_scalar hn] at h
    rcases htag with rfl | ⟨-, rfl⟩
    · exact .text hn₀ h
    · cases h
  | sequence => cases (Graph.scalar_of_sequence hn).symm.trans h
  | mapping htag =>
    refine .mapping hn₀ ?_
    rcases htag with rfl | ⟨rfl, -⟩
    · exact Or.inl hasks
    · exact Or.inr rfl

namespace Building

variable {α β : Type} {g₀ : Graph} {reading : Mark} {room : Room}

/-- The nodes are what those of a document have become, and the reading and the room are given
ones. -/
structure Stands (g₀ : Graph) (reading : Mark) (room : Room) (b : Builder) : Prop where
  nodes : Merging.Stage g₀ g₀.mergeCount b.nodes
  reading : b.reading = reading
  room : b.room = room

/-- A building keeps to a document, and a fault that it meets is a misfit of the document. -/
def Builds (g₀ : Graph) (reading : Mark) (room : Room) (m : Building α) : Prop :=
  ∀ b : Builder, Stands g₀ reading room b →
    Gives (fun x : α × Builder => Stands g₀ reading room x.2)
      (fun t => ∀ f, t = .fault f → g₀.Misfit reading room f) (m b)

theorem builds_pure (a : α) : Builds g₀ reading room (pure a) := fun _ hb => .ok hb

theorem Builds.bind {m : Building α} {f : α → Building β} (hm : Builds g₀ reading room m)
    (hf : ∀ a, Builds g₀ reading room (f a)) : Builds g₀ reading room (m >>= f) :=
  fun b hb => (hm b hb).bind fun x hx => hf x.1 x.2 hx

theorem builds_reject (c : Complaint) : Builds g₀ reading room (reject c : Building α) :=
  fun _ _ => .error nofun

/-- What depends on what is known of the nodes. -/
theorem builds_get {f : Builder → Building α}
    (hf : ∀ b, Stands g₀ reading room b → Builds g₀ reading room (f b)) :
    Builds g₀ reading room (get >>= f) :=
  fun b hb => hf b hb b hb

theorem builds_modify {f : Builder → Builder}
    (hf : ∀ b, Stands g₀ reading room b → Stands g₀ reading room (f b)) :
    Builds g₀ reading room (modify f : Building Unit) := fun b hb => .ok (hf b hb)

theorem builds_mapM {xs : List α} {f : α → Building β} (hf : ∀ x, Builds g₀ reading room (f x)) :
    Builds g₀ reading room (xs.mapM f) := by
  induction xs with
  | nil => exact builds_pure _
  | cons x xs ih =>
    rw [List.mapM_cons]
    exact (hf x).bind fun _ => ih.bind fun _ => builds_pure _

/-! ## §2 Parts and contents -/

theorem builds_keep (id : NodeId) (part : Part) : Builds g₀ reading room (keep id part) :=
  builds_modify fun _ hb => ⟨hb.nodes, hb.reading, hb.room⟩

theorem builds_partOf (id : NodeId) : Builds g₀ reading room (partOf id) := by
  refine builds_get fun b hb => ?_
  split
  · exact builds_pure _
  · dsimp only
    split
    · refine (builds_modify fun _ hb => ?_).bind fun _ =>
        (builds_keep _ _).bind fun _ => builds_pure _
      exact ⟨hb.nodes, hb.reading, hb.room⟩
    · split
      · rename_i hasks
        split
        · exact (builds_keep _ _).bind fun _ => builds_pure _
        · rename_i t ht
          intro _ _
          refine .error fun f hf => ?_
          rw [hb.reading, hb.room, hf] at ht
          exact Graph.scalar_fault hb.nodes.becomes hasks ht
      · exact builds_reject _

theorem builds_keyOf (id : NodeId) : Builds g₀ reading room (keyOf id) := by
  refine (builds_partOf id).bind fun part => ?_
  split
  · exact builds_pure _
  · exact builds_reject _

theorem builds_entriesOf {id : NodeId} (h : (g₀.node id).IsMapping) :
    Builds g₀ reading room (entriesOf id) := by
  refine builds_get fun b hb => ?_
  have hmerged := Merging.merges_merged h b.room b.nodes hb.nodes trivial
  split
  · rename_i t ht
    intro _ _
    refine .error ?_
    rintro f rfl
    cases hmerged.of_eq_error ht with
    | nesting hbelow => exact .merges rfl (hb.room ▸ hbelow)
  · rename_i entries nodes hok
    have hnodes := (hmerged.of_eq_ok hok).1
    refine (builds_modify (f := fun b => { b with nodes := nodes }) fun _ hb =>
      ⟨hnodes, hb.reading, hb.room⟩).bind fun _ => ?_
    exact builds_mapM fun e => (builds_keyOf e.1).bind fun _ => (builds_partOf e.2).bind
      fun _ => builds_pure _

theorem builds_pairsOf (items : List NodeId) : Builds g₀ reading room (pairsOf items) := by
  refine builds_mapM fun item => builds_get fun b hb => ?_
  split
  · exact (builds_partOf _).bind fun _ => (builds_partOf _).bind fun _ => builds_pure _
  · exact builds_reject _

theorem builds_contentOf (id : NodeId) : Builds g₀ reading room (contentOf id) := by
  refine builds_get fun b hb => ?_
  dsimp only
  split
  · exact (builds_mapM builds_partOf).bind fun _ => builds_pure _
  · exact (builds_pairsOf _).bind fun _ => builds_pure _
  · exact (builds_pairsOf _).bind fun _ => builds_pure _
  · rename_i hn
    have hmapping := (hb.nodes.becomes id).isMapping_iff.mp ⟨_, _, hn⟩
    exact (builds_entriesOf hmapping).bind fun _ => builds_pure _
  · rename_i hn
    have hmapping := (hb.nodes.becomes id).isMapping_iff.mp ⟨_, _, hn⟩
    exact (builds_entriesOf hmapping).bind fun _ => builds_pure _
  · exact builds_reject _

theorem builds_fill : ∀ (fuel : Nat) (met : List NodeId), Builds g₀ reading room (fill fuel met)
  | 0, _ => builds_pure _
  | fuel + 1, [] => by
    rw [fill]
    refine builds_get fun b hb => ?_
    dsimp only
    split
    · exact builds_pure _
    · refine (builds_modify fun _ hb => ?_).bind fun _ => builds_fill fuel _
      exact ⟨hb.nodes, hb.reading, hb.room⟩
  | fuel + 1, id :: rest => by
    rw [fill]
    refine (builds_contentOf id).bind fun content =>
      (builds_modify fun _ hb => ?_).bind fun _ => builds_fill fuel rest
    exact ⟨hb.nodes, hb.reading, hb.room⟩

theorem builds_root (id : NodeId) : Builds g₀ reading room (root id) :=
  (builds_partOf id).bind fun _ => builds_get fun _ _ => (builds_fill _ _).bind fun _ =>
    builds_pure _

end Building

/-! ## §3 Texts -/

/-- A fault that is met where a document is built is a misfit of it. -/
theorem Document.value_fault {d : Document} {reading : Mark} {room : Room} {f : Fault}
    (h : d.value reading room = .error (.fault f)) : d.nodes.Misfit reading room f := by
  unfold Document.value at h
  split at h
  · cases h
  · rename_i id _
    rcases bind_eq_error.mp h with h | ⟨⟨part, b⟩, -, h⟩
    · have hbuilds : Building.Builds d.nodes reading room (Building.root id) :=
        Building.builds_root id
      have hstart := hbuilds
        { nodes := d.nodes
          parts := Array.replicate d.nodes.size none
          contents := Array.replicate d.nodes.size none
          reading := reading
          room := room } ⟨⟨.refl _, Nat.le_refl _⟩, rfl, rfl⟩
      exact hstart.of_eq_error h f rfl
    · dsimp only at h
      split at h <;> cases h

/-- The reader gives up on a text: the scanner does, or its tokens start collections that there is no
room for, or the document that they write has a misfit. -/
inductive GivesUp (reading : Mark) (s : List Char) (room : Room) (f : Fault) : Prop
  | scanning : Unscannable s f → GivesUp reading s room f
  | nesting {n : Nat} : f = .tooDeep → room = some n → NestsBeyond (tokens s).tokens n →
      GivesUp reading s room f
  | building {d : Document} : Document.ofTokens (tokens s) room = .ok d →
      d.nodes.Misfit reading room f → GivesUp reading s room f

/-- **A text that is no document is complained about, unless it holds a numeral or an escape that
the scanner gives up on, nests deeper than there is room for, or writes a node that building gives
up on.** -/
theorem givesUp_of_read {reading : Mark} {s : List Char} {room : Room} {f : Fault}
    (h : read reading s room = .error (.fault f)) : GivesUp reading s room f := by
  rcases bind_eq_error.mp h with h | ⟨d, hd, h⟩
  · rcases Document.ofTokens_fault h with h | ⟨hf, n, hroom, hnests⟩
    · exact .scanning (explained_tokens s _ h f rfl)
    · exact .nesting hf hroom hnests
  · exact .building hd (Document.value_fault h)

end SchemaDoc.Yaml
