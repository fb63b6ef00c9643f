/-
SchemaDoc.Proofs.Yaml.Parsing — what reading nodes from tokens gives up on.

A document is refused by the first token that does not fit, and such a refusal
is a complaint. The reader meets a fault in two places. One is where the tokens
end before the document does; then it is the fault that ended them. The other is
where a collection starts that there is no room for; then the tokens up to it
start collections inside one another, about as many as there is room for
(`ofTokens_fault`).

For that the tokens are counted that start a collection and those that end one.
A collection that was read has passed as many of the one as of the other. Two
collections are not told by tokens of their own: a list that is not indented, in
a block mapping, and a mapping of one entry, in a list in brackets. Neither
holds another of its sort but through one that is; so collections are open
inside one another at most twice as many as tokens tell.

§1 tokens, §2 computations that read, §3 nodes and their properties,
§4 collections, §5 nodes from tokens, §6 documents.
-/
import SchemaDoc.Proofs.Failing
import SchemaDoc.Yaml.Node

namespace SchemaDoc.Yaml

/-! ## §1 Tokens -/

/-- A token starts a collection. -/
def Token.opens : Token → Bool
  | .blockSequenceStart | .blockMappingStart | .flowSequenceStart | .flowMappingStart => true
  | _ => false

/-- A token ends a collection. -/
def Token.closes : Token → Bool
  | .blockEnd | .flowSequenceEnd | .flowMappingEnd => true
  | _ => false

theorem Token.closes_of_opens {t : Token} (h : t.opens = true) : t.closes = false := by
  cases t <;> first | rfl | cases h

theorem Token.opens_of_closes {t : Token} (h : t.closes = true) : t.opens = false := by
  cases t <;> first | rfl | cases h

/-- Tokens start collections inside one another, more than half as many as a number. -/
def NestsBeyond (tokens : List Token) (n : Nat) : Prop :=
  ∃ front, front <+: tokens ∧ n + 2 * front.countP Token.closes < 2 * front.countP Token.opens

end SchemaDoc.Yaml

namespace SchemaDoc.Yaml.Node

variable {α β : Type}

/-! ## §2 Computations that read -/

/-- The token that a reader sees. -/
def Reader.ahead (r : Reader) : Token := r.tokens.headD .streamEnd

/-- What a reader becomes by passing tokens in which collections end, some more than start. -/
structure Reader.Passes (r : Reader) (ends : Nat) (r' : Reader) : Prop where
  trouble : r'.trouble = r.trouble
  room : r'.room = r.room
  tokens : ∃ front, front ++ r'.tokens = r.tokens ∧
    front.countP Token.closes = front.countP Token.opens + ends

/-- Why a reader refuses a document: it complains, or it rethrows the trouble behind the tokens, or
the tokens start collections that there is no room for. `slack` is what it had to pass of them
without a token. -/
inductive Reader.Refuses (r : Reader) (slack : Int) : Trouble → Prop
  | complaint (c : Complaint) : r.Refuses slack (.complaint c)
  | trouble {t : Trouble} : r.trouble = some t → r.Refuses slack t
  | nesting {n : Nat} {front : List Token} : r.room = some n → front <+: r.tokens →
      (n : Int) + 2 * front.countP Token.closes < 2 * front.countP Token.opens + slack →
      r.Refuses slack (.fault .tooDeep)

/-- Where a reader sees a token of a sort, a reading passes tokens or refuses the document. -/
def Reads (P : Token → Prop) (slack : Int) (ends : Nat) (m : Reading α) : Prop :=
  ∀ r : Reader, P r.ahead →
    Gives (fun x : α × Reader => r.Passes ends x.2) (r.Refuses slack) (m r)

/-- A token of any sort. -/
abbrev Anything : Token → Prop := fun _ => True

/-- A reader has the same tokens ahead, and what is wrong behind them and the room are the same. -/
structure Reader.Same (r r' : Reader) : Prop where
  trouble : r'.trouble = r.trouble
  room : r'.room = r.room
  tokens : r'.tokens = r.tokens

/-- A reading passes no token, and if it refuses the document it complains. -/
def Stays (m : Reading α) : Prop :=
  ∀ r : Reader, Gives (fun x : α × Reader => r.Same x.2) (fun t => ∃ c, t = .complaint c) (m r)

section Rules

variable {P : Token → Prop} {slack : Int} {ends : Nat} {m : Reading α} {f : α → Reading β}
  {r r' : Reader} {t : Token}

theorem Reader.Same.ahead (h : r.Same r') : r'.ahead = r.ahead := by
  rw [Reader.ahead, h.tokens, Reader.ahead]

theorem Reader.Same.passes (h : r.Same r') : r.Passes 0 r' :=
  ⟨h.trouble, h.room, [], h.tokens, rfl⟩

theorem Reader.Passes.trans {r'' : Reader} (h : r.Passes 0 r') (h' : r'.Passes ends r'') :
    r.Passes ends r'' := by
  obtain ⟨front, htokens, hcount⟩ := h.tokens
  obtain ⟨front', htokens', hcount'⟩ := h'.tokens
  refine ⟨h'.trouble.trans h.trouble, h'.room.trans h.room, front ++ front', ?_, ?_⟩
  · rw [List.append_assoc, htokens', htokens]
  · rw [List.countP_append, List.countP_append]
    omega

theorem Reader.Passes.same {r'' : Reader} (h : r.Passes ends r') (h' : r'.Same r'') :
    r.Passes ends r'' :=
  ⟨h'.trouble.trans h.trouble, h'.room.trans h.room, h'.tokens ▸ h.tokens⟩

/-- What is refused behind tokens is refused before them. -/
theorem Reader.Refuses.of_passes {t : Trouble} (h : r'.Refuses slack t) (hr : r.Passes 0 r') :
    r.Refuses slack t := by
  cases h with
  | complaint c => exact .complaint c
  | trouble h => exact .trouble (hr.trouble ▸ h)
  | nesting hroom hfront hless =>
    obtain ⟨front, htokens, hcount⟩ := hr.tokens
    refine .nesting (hr.room ▸ hroom)
      (htokens ▸ (List.prefix_append_right_inj front).mpr hfront) ?_
    rw [List.countP_append, List.countP_append]
    omega

theorem Reads.mono {slack' : Int} (h : Reads P slack ends m) (hle : slack ≤ slack') :
    Reads P slack' ends m := by
  refine fun r hr => (h r hr).imp_error fun t ht => ?_
  cases ht with
  | complaint c => exact .complaint c
  | trouble h => exact .trouble h
  | nesting hroom hfront hless => exact .nesting hroom hfront (by omega)

theorem Reads.of_anything (h : Reads Anything slack ends m) : Reads P slack ends m :=
  fun r _ => h r trivial

theorem Reads.bind (hm : Reads P slack 0 m) (hf : ∀ a, Reads Anything slack ends (f a)) :
    Reads P slack ends (m >>= f) :=
  fun r hr => Gives.bind (hm r hr) fun x hx =>
    ((hf x.1 x.2 trivial).imp fun _ hy => hx.trans hy).imp_error fun _ ht => ht.of_passes hx

theorem Stays.reads (hm : Stays m) (P : Token → Prop) (slack : Int) : Reads P slack 0 m := by
  refine fun r _ => ((hm r).imp fun x hx => hx.passes).imp_error ?_
  rintro _ ⟨c, rfl⟩
  exact .complaint c

/-- What stays before a reading leaves it the same token. -/
theorem Stays.reads_bind (hm : Stays m) (hf : ∀ a, Reads P slack ends (f a)) :
    Reads P slack ends (m >>= f) := by
  refine fun r hr => Gives.bind ((hm r).imp_error fun _ ⟨c, hc⟩ => hc ▸ .complaint c) fun x hx => ?_
  exact ((hf x.1 x.2 (hx.ahead ▸ hr)).imp fun _ hy => hx.passes.trans hy).imp_error
    fun _ ht => ht.of_passes hx.passes

/-- What stays may follow a reading. -/
theorem Reads.stay (hm : Reads P slack ends m) (hf : ∀ a, Stays (f a)) :
    Reads P slack ends (m >>= f) :=
  fun r hr => Gives.bind (hm r hr) fun x hx => ((hf x.1 x.2).imp fun _ hy => hx.same hy).imp_error
    fun _ ⟨c, hc⟩ => hc ▸ .complaint c

theorem Stays.bind (hm : Stays m) (hf : ∀ a, Stays (f a)) : Stays (m >>= f) :=
  fun r => Gives.bind (hm r) fun x hx => (hf x.1 x.2).imp fun _ hy =>
    ⟨hy.trouble.trans hx.trouble, hy.room.trans hx.room, hy.tokens.trans hx.tokens⟩

theorem stays_pure (a : α) : Stays (pure a) := fun _ => .ok ⟨rfl, rfl, rfl⟩

theorem stays_reject (c : Complaint) : Stays (reject c : Reading α) := fun _ => .error ⟨c, rfl⟩

theorem stays_get : Stays (get : Reading Reader) := fun _ => .ok ⟨rfl, rfl, rfl⟩

theorem stays_modify {f : Reader → Reader} (hf : ∀ r : Reader, r.Same (f r)) :
    Stays (modify f : Reading Unit) := fun r => .ok (hf r)

/-- What would be read behind a refusal does not matter. -/
theorem reads_reject (c : Complaint) (f : α → Reading β) : Reads P slack ends (reject c >>= f) :=
  fun _ _ => .error (.complaint c)

/-- What is read unless it is refused. -/
theorem reads_unless {refused : Bool} (c : Complaint) (h : Reads P slack ends m) :
    Reads P slack ends (do
      if refused then reject c
      m) := by
  cases refused
  · exact h
  · exact reads_reject c fun _ => m

/-- What depends on the token ahead. -/
theorem reads_peek {f : Token → Reading α} (hf : ∀ t, P t → Reads (· = t) slack ends (f t)) :
    Reads P slack ends (peek >>= f) := by
  intro r hr
  obtain ⟨tokens, trouble, handles, nodes, anchors, room⟩ := r
  cases tokens with
  | cons t rest => exact hf t hr _ rfl
  | nil => cases trouble with
    | some t => exact .error (.trouble rfl)
    | none => exact hf .streamEnd hr _ rfl

theorem tokens_of_ahead (h : r.ahead = t) :
    r.tokens = t :: r.tokens.drop 1 ∨ r.tokens = [] ∧ t = .streamEnd := by
  unfold Reader.ahead at h
  cases htokens : r.tokens with
  | nil => exact Or.inr ⟨rfl, by rw [htokens] at h; exact h.symm⟩
  | cons u rest => exact Or.inl (by rw [htokens] at h; rw [← h]; rfl)

/-- A token is passed that neither starts nor ends a collection. -/
theorem reads_advance (hopens : t.opens = false) (hcloses : t.closes = false) :
    Reads (· = t) slack 0 advance := by
  refine fun r hr => .ok ⟨rfl, rfl, ?_⟩
  rcases tokens_of_ahead hr with htokens | ⟨htokens, -⟩
  · exact ⟨[t], htokens.symm, by simp [hopens, hcloses]⟩
  · exact ⟨[], by simp [htokens], rfl⟩

/-- A token is passed that ends a collection. -/
theorem reads_closing (hcloses : t.closes = true) : Reads (· = t) slack 1 advance := by
  have hopens := Token.opens_of_closes hcloses
  refine fun r hr => .ok ⟨rfl, rfl, ?_⟩
  rcases tokens_of_ahead hr with htokens | ⟨-, rfl⟩
  · exact ⟨[t], htokens.symm, by simp [hopens, hcloses]⟩
  · cases hcloses

/-- What is read behind a token that starts a collection, up to the one that ends it. -/
theorem reads_opening (hopens : t.opens = true) (hm : Reads Anything slack 1 m) :
    Reads (· = t) (slack - 2) 0 (advance *> m) := by
  have hcloses := Token.closes_of_opens hopens
  intro r hr
  rcases tokens_of_ahead hr with htokens | ⟨-, rfl⟩
  · have hinner := hm { r with tokens := r.tokens.drop 1 } trivial
    refine (hinner.imp fun x hx => ?_).imp_error fun u hu => ?_
    · obtain ⟨front, hfront, hcount⟩ := hx.tokens
      refine ⟨hx.trouble, hx.room, t :: front, ?_, ?_⟩
      · rw [htokens, List.cons_append, hfront]
      · rw [List.countP_cons_of_pos hopens, List.countP_cons_of_neg (by simp [hcloses]), hcount]
    · cases hu with
      | complaint c => exact .complaint c
      | trouble h => exact .trouble h
      | nesting hroom hfront hless =>
        refine .nesting hroom (htokens.symm ▸ (List.prefix_cons_inj t).mpr hfront) ?_
        rw [List.countP_cons_of_pos hopens, List.countP_cons_of_neg (by simp [hcloses])]
        omega
  · cases hopens

theorem within_eq (m : Reading α) (r : Reader) :
    within m r = r.room.enter (.error (.fault .tooDeep)) fun room =>
      m { r with room := room } >>= fun x => .ok (x.1, { x.2 with room := r.room }) := by
  unfold within
  obtain ⟨tokens, trouble, handles, nodes, anchors, room⟩ := r
  cases room with
  | none => rfl
  | some n => cases n <;> rfl

/-- What is read one collection further in, which a token has started or none was needed for. -/
theorem reads_within (slack : Int) (hm : Reads P slack ends m)
    (hstart : ∀ t, P t → 0 ≤ slack ∨ t.opens = true ∧ -2 ≤ slack) :
    Reads P (slack + 1) ends (within m) := by
  intro r hr
  rw [within_eq]
  refine Room.enter_cases (fun hroom => ?_) fun left hleft => ?_
  · rcases hstart _ hr with h | ⟨hopens, h⟩
    · exact .error (.nesting hroom List.nil_prefix (by simp; omega))
    · rcases tokens_of_ahead rfl with htokens | ⟨-, hend⟩
      · have hfront : [r.ahead] <+: r.tokens := htokens.symm ▸ List.prefix_append [r.ahead] _
        refine .error (.nesting hroom hfront ?_)
        simp [hopens, Token.closes_of_opens hopens]
        omega
      · rw [hend] at hopens
        cases hopens
  · refine ((hm { r with room := left } hr).imp_error fun t ht => ?_).bind fun x hx =>
      .ok ⟨hx.trouble, rfl, hx.tokens⟩
    cases ht with
    | complaint c => exact .complaint c
    | trouble h => exact .trouble h
    | nesting hroom hfront hless => exact .nesting (hleft _ hroom) hfront (by omega)

end Rules

/-! ## §3 Nodes and their properties -/

section Properties

variable {P : Token → Prop} {slack : Int}

theorem stays_add (node : Node) : Stays (add node) := fun _ => .ok ⟨rfl, rfl, rfl⟩

theorem stays_addEmpty : Stays addEmpty := stays_add _

theorem stays_replace (id : NodeId) (node : Node) : Stays (replace id node) :=
  stays_modify fun _ => ⟨rfl, rfl, rfl⟩

theorem stays_tagName (handle : Option String) (suffix : String) :
    Stays (tagName handle suffix) := by
  unfold tagName
  split
  · exact stays_pure _
  · refine stays_get.bind fun r => ?_
    split
    · exact stays_pure _
    · exact stays_reject _

theorem stays_checkAnchor (p : Properties) : Stays (checkAnchor p) := by
  unfold checkAnchor
  split
  · refine stays_get.bind fun r => ?_
    split
    · exact stays_reject _
    · exact stays_pure _
  · exact stays_pure _

theorem stays_addNode (p : Properties) (node : Node) : Stays (addNode p node) := by
  refine (stays_add node).bind fun id => ?_
  split
  · rename_i name _
    exact (stays_modify (f := fun r => { r with anchors := (name, id) :: r.anchors })
      fun _ => ⟨rfl, rfl, rfl⟩).bind fun _ => stays_pure _
  · exact stays_pure _

theorem stays_aliased (name : String) : Stays (aliased name) := by
  refine stays_get.bind fun r => ?_
  split
  · exact stays_pure _
  · exact stays_reject _

theorem reads_anchor? : Reads Anything slack 0 anchor? := by
  refine reads_peek fun t _ => ?_
  split
  · exact (reads_advance rfl rfl).stay fun _ => stays_pure _
  · exact (stays_pure _).reads _ _

theorem reads_tag? : Reads Anything slack 0 tag? := by
  refine reads_peek fun t _ => ?_
  split
  · exact (reads_advance rfl rfl).stay fun _ => stays_pure _
  · exact (stays_pure _).reads _ _

theorem stays_namedProperties (tag : Option (Option String × String)) (anchor : Option String) :
    Stays (do
      let name ← tag.mapM fun (handle, suffix) => tagName handle suffix
      return (⟨anchor, name⟩ : Properties)) := by
  cases tag with
  | none => exact stays_pure _
  | some tag =>
    exact ((stays_tagName tag.1 tag.2).bind fun _ => stays_pure _).bind fun _ => stays_pure _

theorem reads_properties : Reads Anything slack 0 properties := by
  refine reads_anchor?.bind fun before => reads_tag?.bind fun tag => ?_
  split
  · exact reads_anchor?.stay fun behind => stays_namedProperties tag _
  · exact (stays_namedProperties tag _).reads _ _

/-! ## §4 Collections -/

/-- A node is added, its parts are read, and it is given them. -/
theorem reads_filled {ends : Nat} {parts : Reading (List β)} (p : Properties) (empty : Node)
    (filled : List β → Node) (h : Reads P slack ends parts) : Reads P slack ends (do
      let id ← addNode p empty
      let ids ← parts
      replace id (filled ids)
      return id) :=
  (stays_addNode p empty).reads_bind fun _ => h.stay fun _ =>
    (stays_replace _ _).bind fun _ => stays_pure _

/-- A sequence that a token has started, up to the one that ends it. -/
theorem reads_startedSequence {t : Token} (hopens : t.opens = true) (p : Properties)
    {items : Reading (List NodeId)} (h : Reads Anything 1 1 items) :
    Reads (· = t) 0 0 (readSequence p (advance *> items)) := by
  have hparts : Reads (· = t) (-1) 0 (advance *> items) := reads_opening hopens h
  exact reads_within (-1) (reads_filled p _ _ hparts) fun _ hu => Or.inr ⟨hu ▸ hopens, by decide⟩

theorem reads_startedMapping {t : Token} (hopens : t.opens = true) (p : Properties)
    {entries : Reading (List (NodeId × NodeId))} (h : Reads Anything 1 1 entries) :
    Reads (· = t) 0 0 (readMapping p (advance *> entries)) := by
  have hparts : Reads (· = t) (-1) 0 (advance *> entries) := reads_opening hopens h
  exact reads_within (-1) (reads_filled p _ _ hparts) fun _ hu => Or.inr ⟨hu ▸ hopens, by decide⟩

/-- A sequence without a token of its own. -/
theorem reads_readSequence (p : Properties) {items : Reading (List NodeId)}
    (h : Reads P 0 0 items) : Reads P 1 0 (readSequence p items) :=
  reads_within 0 (reads_filled p _ _ h) fun _ _ => Or.inl (Int.le_refl 0)

/-- A mapping without a token of its own. -/
theorem reads_readMapping (p : Properties) {entries : Reading (List (NodeId × NodeId))}
    (h : Reads P 0 0 entries) : Reads P 1 0 (readMapping p entries) :=
  reads_within 0 (reads_filled p _ _ h) fun _ _ => Or.inl (Int.le_refl 0)

end Properties

/-! ## §5 Nodes from tokens -/

/-- What is read inside brackets behind the comma, which the first part has none of. -/
theorem reads_pastComma {next : Reading α} {P : Token → Prop} {slack : Int} {ends : Nat}
    (first : Bool) (h : Reads Anything slack ends next) : Reads P slack ends (do
    if !first then
      if (← peek) != .flowEntry then reject .unexpectedToken
      advance
    next) := by
  split
  · refine reads_peek fun t _ => ?_
    by_cases hcomma : t = .flowEntry
    · subst hcomma
      exact reads_unless _ ((reads_advance rfl rfl).bind fun _ => h)
    · rw [if_pos (bne_iff_ne.mpr hcomma)]
      exact reads_reject _ _
  · exact h.of_anything

/-- What a node may have passed without a token: a list that is not indented. -/
def slackOf (indentless : Bool) : Int := if indentless then 1 else 0

theorem slackOf_le (indentless : Bool) : slackOf indentless ≤ 1 := by
  cases indentless <;> decide

theorem zero_le_slackOf (indentless : Bool) : 0 ≤ slackOf indentless := by
  cases indentless <;> decide

mutual

theorem reads_read : ∀ (fuel : Nat) (block indentless : Bool),
    Reads Anything (slackOf indentless) 0 (read fuel block indentless)
  | 0, _, _ => by
    rw [read]
    exact (stays_reject _).reads _ _
  | fuel + 1, block, indentless => by
    rw [read]
    refine reads_peek fun t _ => ?_
    split
    · exact (reads_advance rfl rfl).stay fun _ => stays_aliased _
    · refine Reads.of_anything (reads_properties.bind fun p => reads_peek fun token _ =>
        (stays_checkAnchor p).reads_bind fun _ => ?_)
      split
      · exact (reads_advance rfl rfl).stay fun _ => stays_addNode _ _
      · exact (reads_startedSequence rfl p (reads_flowItems fuel true)).mono (zero_le_slackOf _)
      · exact (reads_startedMapping rfl p (reads_flowEntries fuel true)).mono (zero_le_slackOf _)
      · split
        · rename_i h
          obtain ⟨rfl, -⟩ := Bool.and_eq_true .. |>.mp h
          exact (reads_readSequence p (reads_indentlessItems fuel)).of_anything
        split
        · rename_i h
          obtain ⟨-, h⟩ := Bool.and_eq_true .. |>.mp h
          cases eq_of_beq h
          exact (reads_startedSequence rfl p (reads_blockItems fuel)).mono (zero_le_slackOf _)
        split
        · rename_i h
          obtain ⟨-, h⟩ := Bool.and_eq_true .. |>.mp h
          cases eq_of_beq h
          exact (reads_startedMapping rfl p (reads_blockEntries fuel)).mono (zero_le_slackOf _)
        split
        · exact (stays_addNode _ _).reads _ _
        · exact (stays_reject _).reads _ _

theorem reads_readUnless : ∀ (fuel : Nat) (block indentless : Bool) (ends : List Token),
    Reads Anything (slackOf indentless) 0 (readUnless fuel block indentless ends)
  | 0, _, _, _ => by
    rw [readUnless]
    exact (stays_reject _).reads _ _
  | fuel + 1, block, indentless, ends => by
    rw [readUnless]
    refine reads_peek fun t _ => ?_
    split
    · exact stays_addEmpty.reads _ _
    · exact (reads_read fuel block indentless).of_anything

theorem reads_blockItems : ∀ fuel : Nat, Reads Anything 1 1 (blockItems fuel)
  | 0 => by
    rw [blockItems]
    exact fun _ _ => .error (.complaint _)
  | fuel + 1 => by
    rw [blockItems]
    refine reads_peek fun t _ => ?_
    split
    · refine (reads_advance rfl rfl).bind fun _ => ?_
      refine ((reads_readUnless fuel true false _).mono (slackOf_le false)).bind fun _ => ?_
      exact (reads_blockItems fuel).stay fun _ => stays_pure _
    · exact (reads_closing rfl).stay fun _ => stays_pure _
    · exact fun _ _ => .error (.complaint _)

theorem reads_indentlessItems : ∀ fuel : Nat, Reads Anything 0 0 (indentlessItems fuel)
  | 0 => by
    rw [indentlessItems]
    exact (stays_reject _).reads _ _
  | fuel + 1 => by
    rw [indentlessItems]
    refine reads_peek fun t _ => ?_
    split
    · refine (reads_advance rfl rfl).bind fun _ => ?_
      refine (reads_readUnless fuel true false _).bind fun _ => ?_
      exact (reads_indentlessItems fuel).stay fun _ => stays_pure _
    · exact (stays_pure _).reads _ _

theorem reads_blockEntries : ∀ fuel : Nat, Reads Anything 1 1 (blockEntries fuel)
  | 0 => by
    rw [blockEntries]
    exact fun _ _ => .error (.complaint _)
  | fuel + 1 => by
    rw [blockEntries]
    refine reads_peek fun t _ => ?_
    split
    · refine (reads_advance rfl rfl).bind fun _ => (reads_readUnless fuel true true _).bind
        fun _ => (reads_blockValue fuel).bind fun _ => ?_
      exact (reads_blockEntries fuel).stay fun _ => stays_pure _
    · exact (reads_closing rfl).stay fun _ => stays_pure _
    · exact fun _ _ => .error (.complaint _)

theorem reads_blockValue : ∀ fuel : Nat, Reads Anything 1 0 (blockValue fuel)
  | 0 => by
    rw [blockValue]
    exact (stays_reject _).reads _ _
  | fuel + 1 => by
    rw [blockValue]
    refine reads_peek fun t _ => ?_
    split
    · rename_i h
      cases eq_of_beq h
      exact (reads_advance rfl rfl).bind fun _ => reads_readUnless fuel true true _
    · exact stays_addEmpty.reads _ _

theorem reads_flowItems : ∀ (fuel : Nat) (first : Bool), Reads Anything 1 1 (flowItems fuel first)
  | 0, _ => by
    rw [flowItems]
    exact fun _ _ => .error (.complaint _)
  | fuel + 1, first => by
    rw [flowItems]
    refine reads_peek fun t _ => ?_
    split
    · rename_i h
      cases eq_of_beq h
      exact (reads_closing rfl).stay fun _ => stays_pure _
    · refine reads_pastComma first (reads_peek fun t _ => ?_)
      split
      · exact (reads_closing rfl).stay fun _ => stays_pure _
      · refine (reads_advance rfl rfl).bind fun _ => Reads.bind (reads_readMapping _ ?_)
          fun _ => (reads_flowItems fuel false).stay fun _ => stays_pure _
        exact (reads_readUnless fuel false false _).bind fun _ => (reads_flowValue fuel _).stay
          fun _ => stays_pure _
      · exact ((reads_read fuel false false).mono (slackOf_le false)).of_anything.bind
          fun _ => (reads_flowItems fuel false).stay fun _ => stays_pure _

theorem reads_flowEntries : ∀ (fuel : Nat) (first : Bool),
    Reads Anything 1 1 (flowEntries fuel first)
  | 0, _ => by
    rw [flowEntries]
    exact fun _ _ => .error (.complaint _)
  | fuel + 1, first => by
    rw [flowEntries]
    refine reads_peek fun t _ => ?_
    split
    · rename_i h
      cases eq_of_beq h
      exact (reads_closing rfl).stay fun _ => stays_pure _
    · refine reads_pastComma first (reads_peek fun t _ => ?_)
      split
      · exact (reads_closing rfl).stay fun _ => stays_pure _
      · refine (reads_advance rfl rfl).bind fun _ => ?_
        refine ((reads_readUnless fuel false false _).mono (slackOf_le false)).bind fun _ => ?_
        refine ((reads_flowValue fuel _).mono (slackOf_le false)).bind fun _ => ?_
        exact (reads_flowEntries fuel false).stay fun _ => stays_pure _
      · refine ((reads_read fuel false false).mono (slackOf_le false)).of_anything.bind fun _ => ?_
        exact stays_addEmpty.reads_bind fun _ => (reads_flowEntries fuel false).stay
          fun _ => stays_pure _

theorem reads_flowValue : ∀ (fuel : Nat) (closing : Token),
    Reads Anything 0 0 (flowValue fuel closing)
  | 0, _ => by
    rw [flowValue]
    exact (stays_reject _).reads _ _
  | fuel + 1, closing => by
    rw [flowValue]
    refine reads_peek fun t _ => ?_
    split
    · rename_i h
      cases eq_of_beq h
      exact (reads_advance rfl rfl).bind fun _ => reads_readUnless fuel false false _
    · exact stays_addEmpty.reads _ _

end

/-! ## §6 Documents -/

theorem reads_directives : ∀ (fuel : Nat) (versioned : Bool) (handles : List (String × String)),
    Reads Anything 0 0 (directives fuel versioned handles)
  | 0, _, _ => (stays_pure _).reads _ _
  | fuel + 1, versioned, handles => by
    rw [directives]
    refine reads_peek fun t _ => ?_
    split
    · exact reads_unless _ (reads_unless _
        ((reads_advance rfl rfl).bind fun _ => reads_directives fuel true handles))
    · exact reads_unless _
        ((reads_advance rfl rfl).bind fun _ => reads_directives fuel versioned _)
    · exact (reads_advance rfl rfl).bind fun _ => reads_directives fuel versioned handles
    · exact (stays_pure _).reads _ _

theorem reads_skipDocumentEnds : ∀ fuel : Nat, Reads Anything 0 0 (skipDocumentEnds fuel)
  | 0 => (stays_pure _).reads _ _
  | fuel + 1 => by
    rw [skipDocumentEnds]
    refine reads_peek fun t _ => ?_
    split
    · rename_i h
      cases eq_of_beq h
      exact (reads_advance rfl rfl).bind fun _ => reads_skipDocumentEnds fuel
    · exact (stays_pure _).reads _ _

theorem reads_documentContent (fuel : Nat) : Reads Anything 0 0 (documentContent fuel) := by
  refine reads_peek fun t _ => ?_
  split
  · exact stays_addEmpty.reads _ _
  · exact (reads_read fuel true false).of_anything

theorem reads_documentStart (fuel : Nat) : Reads Anything 0 0 (documentStart fuel) := by
  refine (reads_directives fuel false []).bind fun handles => reads_peek fun t _ => ?_
  by_cases hstart : t = .documentStart
  · subst hstart
    exact reads_unless _ ((reads_advance rfl rfl).stay fun _ =>
      stays_modify (f := fun r => { r with handles := handles ++ usualHandles })
        fun _ => ⟨rfl, rfl, rfl⟩)
  · rw [if_pos (bne_iff_ne.mpr hstart)]
    exact reads_reject _ _

theorem reads_document : Reads Anything 0 0 document := by
  refine stays_get.reads_bind fun r => ?_
  refine reads_peek fun first _ => ?_
  split
  · exact (stays_pure _).reads _ _
  · have hend (root : NodeId) : Reads Anything 0 0 (do
        skipDocumentEnds (4 * r.tokens.length + 8)
        if (← peek) == .streamEnd then return some root
        documentStart (4 * r.tokens.length + 8)
        reject .severalDocuments) := by
      refine (reads_skipDocumentEnds _).bind fun _ => reads_peek fun t _ => ?_
      split
      · exact (stays_pure _).reads _ _
      · exact (reads_documentStart _).of_anything.stay fun _ => stays_reject _
    split
    · exact (reads_documentStart _).of_anything.bind fun _ => (reads_documentContent _).bind hend
    · exact (reads_read _ true false).of_anything.bind hend

end SchemaDoc.Yaml.Node

namespace SchemaDoc.Yaml

/-- **A fault met where nodes are read is the trouble behind the tokens, or the tokens start
collections inside one another, more than half as many as there is room for.** -/
theorem Document.ofTokens_fault {lexed : Lexer.Lexed} {room : Room} {f : Fault}
    (h : Document.ofTokens lexed room = .error (.fault f)) :
    lexed.trouble = some (.fault f) ∨
      f = .tooDeep ∧ ∃ n, room = some n ∧ NestsBeyond lexed.tokens n := by
  rcases bind_eq_error.mp h with h | ⟨x, -, h⟩
  · have hrefuses := (Node.reads_document
      { tokens := lexed.tokens, trouble := lexed.trouble, handles := Node.usualHandles,
        room := room } trivial).of_eq_error h
    cases hrefuses with
    | trouble h => exact Or.inl h
    | nesting hroom hfront hless =>
      exact Or.inr ⟨rfl, _, hroom, _, hfront, by omega⟩
  · cases h

end SchemaDoc.Yaml
