/-
SchemaDoc.Proofs.Uri.Relative — relative references below a directory.

A relative reference that leads down stays below the directory that its base
lies in, and what it adds there does not depend on the directory
(`exists_joined`): joining keeps the segments of the directory as they are and
goes on from the tail behind them. So does the way back from the URI to a path
(`toPath_below`), if the names of the directory are texts of characters.

§1 references taken apart, §2 URIs taken apart, §3 tails, §4 directories,
§5 joining, §6 paths.
-/
import SchemaDoc.Proofs.Uri.Percent
import SchemaDoc.Proofs.Uri.Unmarked

namespace SchemaDoc.Uri

/-! ## §1 References taken apart -/

/-- A reference without scheme and authority whose path starts below where it stands and has neither
segments that lead up nor escapes. -/
def isRelative (reference : String) : Bool :=
  match split reference.toList with
  | .error _ => false
  | .ok p => p.scheme.isEmpty && p.authority.isEmpty && p.path.head? != some '/'
      && (Text.cutAt '/' p.path).all fun s => !isDoubleDot s && !hasEscape s

/-- The names that the path of a reference leads along. -/
def pathNames (reference : String) : List String :=
  match split reference.toList with
  | .error _ => []
  | .ok p => Path.namesOf p.path

/-- Either a text has a scheme, whatever is given in place of one, or it is kept. -/
theorem cutScheme_cases (s : List Char) :
    (∃ scheme rest, scheme ≠ [] ∧ rest ⊆ s ∧ ∀ fallback, cutScheme fallback s = (scheme, rest)) ∨
      ∀ fallback, cutScheme fallback s = (fallback, s) := by
  unfold cutScheme
  split
  · rename_i before rest hcut
    split
    · rename_i hscheme
      refine Or.inl ⟨_, rest, ?_, ?_, fun _ => rfl⟩
      · intro he
        rw [List.map_eq_nil_iff.mp he] at hscheme
        cases hscheme
      · have hsub := Text.cutOnce_behind_subset ':' s
        rwa [hcut] at hsub
    · exact Or.inr fun _ => rfl
  · exact Or.inr fun _ => rfl

/-- What the parts of a text are made of. -/
structure Parts.Clean (p : Parts) : Prop where
  path : ∀ c ∈ p.path, isPathChar c = true
  query : ∀ c ∈ p.query, c ≠ '#' ∧ isDropped c = false
  fragment : ∀ c ∈ p.fragment, isDropped c = false

/-- The authority of a text without its scheme, and what follows. -/
def cutAuthority : List Char → List Char × List Char
  | '/' :: '/' :: rest => (rest.takeWhile (!endsAuthority ·), rest.dropWhile (!endsAuthority ·))
  | s => ([], s)

/-- The parts of a text behind its scheme. -/
def partsBehind (scheme s : List Char) : Except Malformed Parts :=
  let (authority, rest) := cutAuthority s
  let (before, fragment) := Text.cutOnce '#' rest
  let (path, query) := Text.cutOnce '?' before
  match bracketProblem? authority, characterProblem? authority with
  | some m, _ => .error m
  | none, some m => .error m
  | none, none => .ok ⟨scheme, authority, path, query.getD [], fragment.getD []⟩

theorem splitWith_eq (fallback s : List Char) : splitWith fallback s
    = partsBehind (cutScheme fallback ((s.dropWhile isLeading).filter (!isDropped ·))).1
        (cutScheme fallback ((s.dropWhile isLeading).filter (!isDropped ·))).2 := rfl

theorem cutAuthority_subset (s : List Char) : (cutAuthority s).2 ⊆ s := by
  unfold cutAuthority
  split
  · exact fun c hc => List.mem_cons_of_mem _ (List.mem_cons_of_mem _ (List.dropWhile_subset _ hc))
  · exact List.Subset.refl _

/-- The parts behind a scheme, whatever that is. -/
theorem partsBehind_eq_ok {scheme s : List Char} {p : Parts} (h : partsBehind scheme s = .ok p) :
    p.scheme = scheme ∧ (∀ other, partsBehind other s = .ok { p with scheme := other }) ∧
      ((∀ c ∈ s, isDropped c = false) → p.Clean) := by
  have hbefore := Text.cutOnce_before_subset '#' (cutAuthority s).2
  have hbehind := Text.cutOnce_behind_subset '#' (cutAuthority s).2
  have hnohash := Text.not_mem_cutOnce '#' (cutAuthority s).2
  have hsub := cutAuthority_subset s
  unfold partsBehind at h ⊢
  dsimp only at h ⊢
  split at h
  · cases h
  · cases h
  cases h
  refine ⟨rfl, fun _ => rfl, fun hclean => ⟨fun c hc => ?_, fun c hc => ?_,
    fun c hc => hclean c (hsub (hbehind hc))⟩⟩
  · have hc' := Text.cutOnce_before_subset '?' _ hc
    have hdropped := hclean c (hsub (hbefore hc'))
    have hquery : c ≠ '?' := fun he => Text.not_mem_cutOnce '?' _ (he ▸ hc)
    have hhash : c ≠ '#' := fun he => hnohash (he ▸ hc')
    simp [isPathChar, hdropped, hquery, hhash]
  · have hc' := Text.cutOnce_behind_subset '?' _ hc
    exact ⟨fun he => hnohash (he ▸ hc'), hclean c (hsub (hbefore hc'))⟩

/-- A reference without a scheme has the same other parts in place of any. -/
theorem splitWith_of_split {s : List Char} {p : Parts} (h : split s = .ok p) (hs : p.scheme = [])
    (scheme : List Char) : splitWith scheme s = .ok { p with scheme := scheme } ∧ p.Clean := by
  have hclean : ∀ c ∈ (s.dropWhile isLeading).filter (!isDropped ·), isDropped c = false :=
    fun c hc => by simpa using (List.mem_filter.mp hc).2
  rw [split, splitWith_eq] at h
  rw [splitWith_eq]
  generalize (s.dropWhile isLeading).filter (!isDropped ·) = text at h hclean ⊢
  obtain ⟨hscheme, hother, hparts⟩ := partsBehind_eq_ok h
  rcases cutScheme_cases text with ⟨found, rest, hne, -, hcut⟩ | hcut
  · rw [hcut, hs] at hscheme
    exact absurd hscheme.symm hne
  · rw [hcut] at hother hparts
    rw [hcut]
    exact ⟨hother scheme, hparts hclean⟩

/-! ## §2 URIs taken apart -/

/-- A query with its mark, which an empty one has not. -/
def queried (query : List Char) : List Char := if query.isEmpty then [] else '?' :: query

/-- The text of a file's URI without an authority. -/
def uriText (path query fragment : List Char) : List Char :=
  fileScheme ++ ':' :: '/' :: '/' :: (path ++ (queried query ++ marked fragment))

/-- The parts of a file's URI without an authority. -/
structure UriParts (path query fragment : List Char) : Prop where
  rooted : path.head? = some '/'
  single : ['/', '/'].isPrefixOf path = false
  clean : Parts.Clean ⟨fileScheme, [], path, query, fragment⟩

variable {path query fragment : List Char}

/-- The part before a query and the query are found again. -/
theorem cutOnce_queried {s : List Char} (h : '?' ∉ s) (query : List Char) :
    (Text.cutOnce '?' (s ++ queried query)).1 = s ∧
      (Text.cutOnce '?' (s ++ queried query)).2.getD [] = query := by
  cases query with
  | nil => simp [queried, Text.cutOnce_of_not_mem h]
  | cons c rest => simp [queried, Text.cutOnce_append h]

theorem not_mem_queried (h : ∀ c ∈ query, c ≠ '#' ∧ isDropped c = false) :
    '#' ∉ queried query ∧ ∀ c ∈ queried query, isDropped c = false := by
  unfold queried
  split
  · exact ⟨List.not_mem_nil, fun _ h => nomatch h⟩
  · refine ⟨?_, List.forall_mem_cons.mpr ⟨by decide, fun c hc => (h c hc).2⟩⟩
    rw [List.mem_cons, not_or]
    exact ⟨by decide, fun hm => (h _ hm).1 rfl⟩

/-- The parts are found again. -/
theorem splitWith_uriText (h : UriParts path query fragment) (scheme : List Char) :
    splitWith scheme (uriText path query fragment)
      = .ok ⟨fileScheme, [], path, query, fragment⟩ := by
  obtain ⟨hhash, hquery⟩ := not_mem_of_isPathChar h.clean.path
  obtain ⟨hqhash, hqdropped⟩ := not_mem_queried h.clean.query
  have hmarked : ∀ c ∈ marked fragment, isDropped c = false := by
    unfold marked
    split
    · exact fun _ h => nomatch h
    · exact List.forall_mem_cons.mpr ⟨by decide, h.clean.fragment⟩
  have hfilter : ((uriText path query fragment).dropWhile isLeading).filter (!isDropped ·)
      = uriText path query fragment := by
    show (uriText path query fragment).filter (!isDropped ·) = _
    have hall : ∀ c ∈ uriText path query fragment, isDropped c = false := by
      have hstart : ∀ c ∈ fileScheme ++ [':', '/', '/'], isDropped c = false := fun c hc =>
        not_isDropped_of_isPathChar (List.all_eq_true.mp (by decide) c hc)
      have hsplit : uriText path query fragment = (fileScheme ++ [':', '/', '/'])
          ++ (path ++ (queried query ++ marked fragment)) := rfl
      rw [hsplit]
      simp only [List.forall_mem_append]
      exact ⟨List.forall_mem_append.mp hstart, fun c hc =>
        not_isDropped_of_isPathChar (h.clean.path c hc), hqdropped, hmarked⟩
    exact List.filter_eq_self.mpr fun c hc => by rw [hall c hc]; rfl
  have hauthority : cutAuthority ('/' :: '/' :: (path ++ (queried query ++ marked fragment)))
      = ([], path ++ (queried query ++ marked fragment)) := by
    obtain ⟨rest, hrest⟩ := List.head?_eq_some_iff.mp h.rooted
    rw [hrest]
    rfl
  have hbefore : '#' ∉ path ++ queried query := by
    rw [List.mem_append, not_or]
    exact ⟨hhash, hqhash⟩
  obtain ⟨hcut, hfragment⟩ := cutOnce_marked hbefore fragment
  obtain ⟨hpath, hquery⟩ := cutOnce_queried hquery query
  rw [List.append_assoc] at hcut hfragment
  rw [splitWith_eq, hfilter, uriText, cutScheme_file, partsBehind, hauthority]
  simp only [hcut, hfragment, hpath, hquery]
  rfl

/-- The URI is put together again from its parts. -/
theorem toList_uriParts (h : UriParts path query fragment) :
    (Parts.mk fileScheme [] path query fragment).toList = uriText path query fragment := by
  have hbody : (!([] : List Char).isEmpty || (!fileScheme.isEmpty
      && schemeIn authoritySchemes fileScheme && !(['/', '/'].isPrefixOf path))) = true := by
    rw [h.single]
    decide +kernel
  simp only [Parts.toList, hbody, if_true, rooted_path (Or.inr h.rooted)]
  simp [fileScheme, uriText, queried, marked]

/-! ## §3 Tails -/

/-- What follows a directory in a URI. -/
structure Tail where
  segments : List (List Char)
  query : List Char

/-- A tail that stays below the directory. Only its last segment may be empty. -/
structure Tail.Inward (t : Tail) : Prop where
  ne_nil : t.segments ≠ []
  inward : ∀ s ∈ t.segments, Uri.Inward s
  filled : ∀ s ∈ t.segments.dropLast, s ≠ []
  query : ∀ c ∈ t.query, c ≠ '#' ∧ isDropped c = false

/-- The text of a tail with a fragment. -/
def Tail.text (t : Tail) (fragment : List Char) : String :=
  String.ofList (['/'].intercalate t.segments ++ (queried t.query ++ marked fragment))

/-- The names that segments stand for, their escapes resolved. -/
def namesIn (segments : List (List Char)) : List String :=
  ((segments.map resolved).filter fun s => !s.isEmpty && s != ['.']).map String.ofList

theorem namesIn_append (segments others : List (List Char)) :
    namesIn (segments ++ others) = namesIn segments ++ namesIn others := by
  simp [namesIn]

/-- Segments that stand for no name can be left out. -/
theorem namesIn_filter {p : List Char → Bool}
    (h : ∀ s, p s = false → s = [] ∨ s = ['.']) : ∀ segments : List (List Char),
      namesIn (segments.filter p) = namesIn segments
  | [] => rfl
  | s :: rest => by
    have hcons : namesIn (s :: rest) = namesIn [s] ++ namesIn rest := namesIn_append [s] rest
    have ih := namesIn_filter h rest
    cases hp : p s with
    | true =>
      have hkeep : namesIn (s :: rest.filter p) = namesIn [s] ++ namesIn (rest.filter p) :=
        namesIn_append [s] _
      rw [List.filter_cons_of_pos hp, hkeep, ih, hcons]
    | false =>
      rw [List.filter_cons_of_neg (by simp [hp]), ih, hcons]
      rcases h s hp with rfl | rfl <;> rfl

/-- The names that a tail leads along. -/
def Tail.names (t : Tail) : List String := namesIn t.segments

/-- None of them leads up. -/
theorem Tail.Inward.not_up {t : Tail} (ht : t.Inward) : ".." ∉ t.names := by
  intro h
  obtain ⟨_, hs, he⟩ := List.mem_map.mp h
  obtain ⟨s, hseg, rfl⟩ := List.mem_map.mp (List.mem_filter.mp hs).1
  refine (ht.inward s hseg).not_up ?_
  rw [← String.toList_ofList (l := resolved s), he]
  rfl

/-- The text of a tail has no mark of a fragment. -/
theorem Tail.Inward.unmarked {t : Tail} (ht : t.Inward) : '#' ∉ (t.text []).toList := by
  rw [Tail.text, String.toList_ofList, List.mem_append, List.mem_append, not_or, not_or]
  refine ⟨fun h => ?_, (not_mem_queried ht.query).1, List.not_mem_nil⟩
  rcases mem_intercalate h with h | ⟨s, hs, h⟩
  · cases h
  · exact (not_mem_of_isPathChar fun c hc => ((ht.inward s hs).chars c hc).1).1 h

/-! ## §4 Directories -/

/-- The URI of a directory up to its last slash. -/
def directoryUri (names : List String) : String :=
  String.ofList (fileScheme ++ ':' :: '/' :: '/' :: '/'
    :: names.flatMap fun n => escaped n ++ ['/'])

variable {names : List String} {t : Tail}

theorem rooted_append {segments : List (List Char)} (h : segments ≠ []) :
    ∀ dirs : List (List Char), rooted (dirs ++ segments)
      = '/' :: dirs.flatMap (· ++ ['/']) ++ ['/'].intercalate segments
  | [] => by
    rw [List.nil_append, rooted, List.intercalate_cons_of_ne_nil h]
    rfl
  | s :: rest => by
    have hne : rest ++ segments ≠ [] := List.append_ne_nil_of_right_ne_nil rest h
    have ih := rooted_append h rest
    rw [rooted, List.intercalate_cons_of_ne_nil hne] at ih
    rw [List.nil_append, List.singleton_append] at ih
    rw [List.cons_append, rooted, List.intercalate_cons_of_ne_nil (List.cons_ne_nil _ _),
      List.intercalate_cons_of_ne_nil hne, List.append_assoc, List.append_assoc,
      List.singleton_append, List.singleton_append, ih]
    simp

/-- The path of a tail in a directory. -/
def Tail.pathIn (names : List String) (t : Tail) : List Char :=
  rooted (names.map escaped ++ t.segments)

theorem toList_below (ht : t.Inward) (fragment : List Char) :
    (directoryUri names ++ t.text fragment).toList
      = uriText (t.pathIn names) t.query fragment := by
  rw [Tail.pathIn, rooted_append ht.ne_nil, uriText, directoryUri, Tail.text]
  simp [fileScheme, List.flatMap_map]

theorem names_of_mem_escaped (hn : ∀ n ∈ names, Path.Down n) : ∀ s ∈ names.map escaped, Names s :=
  List.forall_mem_map.mpr fun n hm => names_escaped (hn n hm)

theorem Tail.Inward.all (ht : t.Inward) (hn : ∀ n ∈ names, Path.Down n) :
    ∀ s ∈ names.map escaped ++ t.segments, Uri.Inward s := by
  refine List.forall_mem_append.mpr ⟨fun s hs => ?_, ht.inward⟩
  obtain ⟨n, hm, rfl⟩ := List.mem_map.mp hs
  exact inward_escaped (hn n hm)

/-- A path does not start as an authority does, if only its last segment may be empty. -/
theorem single_rooted : ∀ {segments : List (List Char)}, (∀ s ∈ segments.dropLast, s ≠ []) →
    (∀ s ∈ segments, '/' ∉ s) → ['/', '/'].isPrefixOf (rooted segments) = false
  | [], _, _ => rfl
  | [] :: next :: rest, h, _ => absurd rfl (h [] (List.mem_cons_self ..))
  | [[]], _, _ => rfl
  | (c :: s) :: rest, _, h => by
    have hc : '/' ≠ c := fun he => h _ (List.mem_cons_self ..) (he ▸ List.mem_cons_self ..)
    rw [rooted, List.intercalate_cons_of_ne_nil (List.cons_ne_nil _ _)]
    cases rest with
    | nil => simp [List.isPrefixOf, hc]
    | cons next rest => simp [List.intercalate_cons_cons, List.isPrefixOf, hc]

/-- A directory and a tail make the parts of a URI. -/
theorem uriParts_below (hn : ∀ n ∈ names, Path.Down n) (ht : t.Inward)
    (hf : ∀ c ∈ fragment, isDropped c = false) : UriParts (t.pathIn names) t.query fragment where
  rooted := by
    rw [Tail.pathIn, rooted_append ht.ne_nil]
    rfl
  single := by
    refine single_rooted (fun s hs => ?_) fun s hs h => ((ht.all hn s hs).chars _ h).2 rfl
    rw [List.dropLast_append_of_ne_nil ht.ne_nil, List.mem_append] at hs
    rcases hs with hs | hs
    · exact (names_of_mem_escaped hn s hs).ne_nil
    · exact ht.filled s hs
  clean := by
    refine ⟨fun c hc => ?_, ht.query, hf⟩
    rcases mem_intercalate hc with rfl | ⟨s, hs, hcs⟩
    · decide
    · rcases List.mem_cons.mp hs with rfl | hs
      · cases hcs
      · exact ((ht.all hn s hs).chars c hcs).1

/-! ## §5 Joining -/

/-- Segments of which none leads up are kept, but for those that mean the place itself. -/
theorem settleFrom_of_not_up : ∀ {segments : List (List Char)} (before : List (List Char)),
    (∀ s ∈ segments, isDoubleDot s = false) →
    settleFrom before segments = before.reverse ++ segments.filter (!isDot ·)
  | [], before, _ => by simp [settleFrom]
  | s :: rest, before, h => by
    obtain ⟨hs, hrest⟩ := List.forall_mem_cons.mp h
    rw [settleFrom, hs, if_neg Bool.false_ne_true]
    cases hdot : isDot s with
    | true => simp [hdot, settleFrom_of_not_up before hrest]
    | false => simp [hdot, settleFrom_of_not_up (s :: before) hrest]

/-- The segments of a tail that do not give way to those of a path. -/
def kept (segments : List (List Char)) : List (List Char) :=
  if segments.getLast? = some [] then segments else segments.dropLast

/-- The segments of a path behind those that are kept; none but the last is empty. -/
def behind (segments own : List (List Char)) : List (List Char) :=
  (kept segments ++ own.dropLast).filter (!·.isEmpty) ++ [own.getLastD []]

/-- The segments of a tail seen from another one. -/
def seenFrom (segments own : List (List Char)) : List (List Char) :=
  (behind segments own).filter (!isDot ·) ++ (if isDot (own.getLastD []) then [[]] else [])

theorem kept_subset (segments : List (List Char)) : kept segments ⊆ segments := by
  unfold kept
  split
  · exact List.Subset.refl _
  · exact List.dropLast_subset _

theorem getLastD_mem {own : List (List Char)} (h : own ≠ []) : own.getLastD [] ∈ own := by
  rw [List.getLastD_eq_getLast?, List.getLast?_eq_some_getLast h]
  exact List.getLast_mem h

theorem mem_behind {segments own : List (List Char)} (hown : own ≠ []) {s : List Char}
    (h : s ∈ behind segments own) : s ∈ segments ∨ s ∈ own := by
  rcases List.mem_append.mp h with h | h
  · rcases List.mem_append.mp (List.mem_filter.mp h).1 with h | h
    · exact Or.inl (kept_subset segments h)
    · exact Or.inr (List.dropLast_subset _ h)
  · exact Or.inr (List.mem_singleton.mp h ▸ getLastD_mem hown)

/-- A directory keeps its segments in front of those of any path. -/
theorem segmentsFrom_below (hn : ∀ n ∈ names, Path.Down n) (ht : t.Inward) {path : List Char}
    (hrel : path.head? ≠ some '/') :
    segmentsFrom (t.pathIn names) path
      = [] :: (names.map escaped ++ behind t.segments (Text.cutAt '/' path)) := by
  have hbase : Text.cutAt '/' (t.pathIn names) = [] :: (names.map escaped ++ t.segments) :=
    Text.cutAt_intercalate (List.cons_ne_nil _ _) (List.forall_mem_cons.mpr
      ⟨List.not_mem_nil, fun s hs h => ((ht.all hn s hs).chars _ h).2 rfl⟩)
  have hparts : (if ([] :: (names.map escaped ++ t.segments)).getLast? = some []
        then [] :: (names.map escaped ++ t.segments)
        else ([] :: (names.map escaped ++ t.segments)).dropLast)
      = [] :: (names.map escaped ++ kept t.segments) := by
    have hne : names.map escaped ++ t.segments ≠ [] :=
      List.append_ne_nil_of_right_ne_nil _ ht.ne_nil
    rw [List.getLast?_cons_of_ne_nil hne, List.getLast?_append_of_ne_nil _ ht.ne_nil, kept,
      List.dropLast_cons_of_ne_nil hne, List.dropLast_append_of_ne_nil ht.ne_nil]
    split <;> rfl
  obtain ⟨init, last, hown⟩ : ∃ init last, Text.cutAt '/' path = init ++ [last] :=
    ⟨_, _, (List.dropLast_append_getLast (Text.cutAt_ne_nil '/' path)).symm⟩
  have hfilled : (names.map escaped).filter (!·.isEmpty) = names.map escaped :=
    List.filter_eq_self.mpr fun s hs => by simpa using (names_of_mem_escaped hn s hs).ne_nil
  rw [segmentsFrom, if_neg hrel, hbase]
  simp only [hparts, hown, behind, List.cons_append]
  have hall : names.map escaped ++ kept t.segments ++ (init ++ [last])
      = (names.map escaped ++ (kept t.segments ++ init)) ++ [last] := by simp
  rw [hall, List.dropLast_concat, List.filter_append, hfilled, List.length_append,
    List.length_singleton, Nat.add_sub_cancel, List.drop_left]
  simp

/-- The tail of a path seen from another tail. -/
def Tail.seen (t : Tail) (path query : List Char) : Tail :=
  ⟨seenFrom t.segments (Text.cutAt '/' path), query⟩

/-- It leads along the names of some directory around the tail, and then along its own. -/
theorem exists_names_seen (t : Tail) (path query : List Char) :
    ∃ around, around <+: t.names ∧
      (t.seen path query).names = around ++ namesIn (Text.cutAt '/' path) := by
  have hempty : ∀ s : List Char, (!s.isEmpty) = false → s = [] ∨ s = ['.'] := fun s h =>
    Or.inl (by simpa using h)
  have hdot : ∀ s : List Char, (!isDot s) = false → s = [] ∨ s = ['.'] := fun s h =>
    Or.inr (by simpa [isDot] using h)
  have hkept : namesIn (kept t.segments) <+: t.names := by
    have hkept : kept t.segments <+: t.segments := by
      unfold kept
      split
      · exact List.prefix_rfl
      · exact List.dropLast_prefix _
    exact ((hkept.map _).filter _).map _
  have hlast : (Text.cutAt '/' path).dropLast ++ [(Text.cutAt '/' path).getLastD []]
      = Text.cutAt '/' path := by
    rw [List.getLastD_eq_getLast?, List.getLast?_eq_some_getLast (Text.cutAt_ne_nil '/' path)]
    exact List.dropLast_append_getLast (Text.cutAt_ne_nil '/' path)
  have htrail : namesIn (if isDot ((Text.cutAt '/' path).getLastD []) then [[]] else []) = [] := by
    split <;> rfl
  refine ⟨_, hkept, ?_⟩
  rw [Tail.names, Tail.seen, seenFrom, namesIn_append, htrail, List.append_nil, namesIn_filter hdot,
    behind, namesIn_append, namesIn_filter hempty, namesIn_append, List.append_assoc,
    ← namesIn_append, hlast]

theorem seenFrom_ne_nil (segments own : List (List Char)) : seenFrom segments own ≠ [] := by
  unfold seenFrom
  split
  · exact List.append_ne_nil_of_right_ne_nil _ (List.cons_ne_nil _ _)
  · rename_i hdot
    rw [List.append_nil]
    refine List.ne_nil_of_mem
      (List.mem_filter.mpr ⟨List.mem_append_right _ (List.mem_singleton_self _), ?_⟩)
    simpa using hdot

theorem inward_nil : Uri.Inward [] :=
  inward_of_not_hasEscape (fun _ h => nomatch h) rfl rfl

/-- A path of such segments stays below. -/
theorem Tail.Inward.seen (ht : t.Inward) {path query : List Char}
    (hpath : ∀ s ∈ Text.cutAt '/' path, Uri.Inward s)
    (hquery : ∀ c ∈ query, c ≠ '#' ∧ isDropped c = false) : (t.seen path query).Inward where
  ne_nil := seenFrom_ne_nil _ _
  inward := by
    intro s hs
    rcases List.mem_append.mp hs with hs | hs
    · rcases mem_behind (Text.cutAt_ne_nil '/' path) (List.mem_filter.mp hs).1 with hs | hs
      · exact ht.inward s hs
      · exact hpath s hs
    · split at hs
      · rw [List.mem_singleton.mp hs]
        exact inward_nil
      · cases hs
  filled := by
    have hsub : ∀ s ∈ (seenFrom t.segments (Text.cutAt '/' path)).dropLast,
        s ∈ (kept t.segments ++ (Text.cutAt '/' path).dropLast).filter (!·.isEmpty) := by
      intro s hs
      unfold seenFrom behind at hs
      split at hs
      · rename_i hdot
        rw [List.dropLast_concat, List.filter_append, List.filter_cons_of_neg (by rw [hdot]; decide),
          List.filter_nil, List.append_nil] at hs
        exact (List.mem_filter.mp hs).1
      · rename_i hdot
        rw [List.append_nil, List.filter_append, List.filter_cons_of_pos (by simpa using hdot),
          List.filter_nil, List.dropLast_concat] at hs
        exact (List.mem_filter.mp hs).1
    intro s hs
    simpa using (List.mem_filter.mp (hsub s hs)).2
  query := hquery

/-- **Joining keeps the directory** and goes on from the tail. -/
theorem joinPath_below (hn : ∀ n ∈ names, Path.Down n) (ht : t.Inward) {path : List Char}
    (hrel : path.head? ≠ some '/') (hpath : ∀ s ∈ Text.cutAt '/' path, Uri.Inward s)
    (query : List Char) : joinPath (t.pathIn names) path = (t.seen path query).pathIn names := by
  have hlast : ([] :: (names.map escaped ++ behind t.segments (Text.cutAt '/' path))).getLastD []
      = (Text.cutAt '/' path).getLastD [] := by
    rw [behind, ← List.append_assoc, ← List.cons_append, List.getLastD_concat]
  have hup : ∀ s ∈ [] :: (names.map escaped ++ behind t.segments (Text.cutAt '/' path)),
      isDoubleDot s = false := by
    refine List.forall_mem_cons.mpr
      ⟨rfl, List.forall_mem_append.mpr ⟨fun s hs => ?_, fun s hs => ?_⟩⟩
    · exact (names_of_mem_escaped hn s hs).not_doubleDot
    · rcases mem_behind (Text.cutAt_ne_nil '/' path) hs with hs | hs
      · exact (ht.inward s hs).not_doubleDot
      · exact (hpath s hs).not_doubleDot
  have hlastup : isDoubleDot ((Text.cutAt '/' path).getLastD []) = false :=
    (hpath _ (getLastD_mem (Text.cutAt_ne_nil '/' path))).not_doubleDot
  have hdirs : (names.map escaped).filter (!isDot ·) = names.map escaped :=
    List.filter_eq_self.mpr fun s hs => by simp [(names_of_mem_escaped hn s hs).not_dot]
  have hfull : (t.seen path query).pathIn names ≠ [] := by
    have hne : (t.seen path query).segments ≠ [] := seenFrom_ne_nil _ _
    rw [Tail.pathIn, rooted_append hne]
    exact List.cons_ne_nil _ _
  rw [joinPath, segmentsFrom_below hn ht hrel]
  simp only [hlast, hlastup, Bool.or_false, settleFrom_of_not_up [] hup, List.reverse_nil,
    List.nil_append]
  rw [List.filter_cons_of_pos (by rfl), List.filter_append, hdirs, List.cons_append,
    List.append_assoc, ← seenFrom]
  exact if_neg (by simpa [Tail.pathIn, rooted, Tail.seen] using hfull)

theorem subset_intercalate {s : List Char} : ∀ {segments : List (List Char)}, s ∈ segments →
    s ⊆ ['/'].intercalate segments
  | [t], h => by
    rw [List.mem_singleton.mp h, List.intercalate_singleton]
    exact List.Subset.refl t
  | t :: next :: rest, h => by
    rw [List.intercalate_cons_cons, List.append_assoc]
    rcases List.mem_cons.mp h with rfl | h
    · exact List.subset_append_left ..
    · exact List.Subset.trans (subset_intercalate h)
        (List.Subset.trans (List.subset_append_right ..) (List.subset_append_right ..))

/-- What a relative reference is made of. -/
theorem parts_of_isRelative {reference : String} (h : isRelative reference = true) :
    ∃ path query fragment, Parts.Clean ⟨[], [], path, query, fragment⟩ ∧
      path.head? ≠ some '/' ∧ (∀ s ∈ Text.cutAt '/' path, Uri.Inward s) ∧
      pathNames reference = namesIn (Text.cutAt '/' path) ∧
      ∀ scheme, splitWith scheme reference.toList = .ok ⟨scheme, [], path, query, fragment⟩ := by
  unfold isRelative at h
  split at h
  · cases h
  · rename_i p hp
    simp only [Bool.and_eq_true, List.isEmpty_iff, bne_iff_ne, List.all_eq_true,
      Bool.not_eq_true'] at h
    obtain ⟨⟨⟨hscheme, hauthority⟩, hrooted⟩, hsegments⟩ := h
    have hsplit := fun scheme => (splitWith_of_split hp hscheme scheme).1
    obtain ⟨-, hclean⟩ := splitWith_of_split hp hscheme []
    obtain ⟨scheme, authority, path, query, fragment⟩ := p
    cases hscheme
    cases hauthority
    have hstand : (Text.cutAt '/' path).map resolved = Text.cutAt '/' path :=
      (List.map_congr_left fun s hs => resolved_of_not_hasEscape (hsegments s hs).2).trans
        (List.map_id _)
    refine ⟨path, query, fragment, hclean, hrooted, fun s hs => ?_, ?_, hsplit⟩
    swap
    · rw [pathNames, hp, namesIn, hstand]
      rfl
    refine inward_of_not_hasEscape (fun c hc => ⟨?_, ?_⟩) (hsegments s hs).1 (hsegments s hs).2
    · refine hclean.path c ?_
      rw [← Text.intercalate_cutAt path]
      exact subset_intercalate hs hc
    · rintro rfl
      exact Text.not_mem_of_mem_cutAt hs hc

theorem exists_directoryUri : ∀ names : List String,
    ∃ s, (directoryUri names).toList = s ++ ['/'] := by
  intro names
  rw [directoryUri, String.toList_ofList]
  rcases names.eq_nil_or_concat with rfl | ⟨init, last, rfl⟩
  · exact ⟨_, (List.append_assoc (fileScheme ++ [':', '/', '/']) [] ['/']).symm⟩
  · refine ⟨fileScheme ++ ':' :: '/' :: '/' :: '/' :: ((init.flatMap fun n => escaped n ++ ['/'])
      ++ escaped last), ?_⟩
    simp

/-- The URI of a tail in a directory. -/
def Tail.uriIn (names : List String) (t : Tail) (fragment : List Char) : String :=
  directoryUri names ++ t.text fragment

theorem toList_uriIn (ht : t.Inward) (fragment : List Char) :
    (t.uriIn names fragment).toList = uriText (t.pathIn names) t.query fragment :=
  toList_below ht fragment

theorem uriText_ne_nil (path query fragment : List Char) : uriText path query fragment ≠ [] := by
  simp [uriText, fileScheme]

/-- A reference without a scheme, seen from a file. -/
theorem joinList_relative {base reference basePath baseQuery : List Char} (hfull : base ≠ [])
    (hbase : split base = .ok ⟨fileScheme, [], basePath, baseQuery, []⟩) (hne : reference ≠ [])
    (hreference : splitWith fileScheme reference = .ok ⟨fileScheme, [], path, query, fragment⟩) :
    joinList base reference = .ok (if path = []
      then Parts.mk fileScheme [] basePath (if query = [] then baseQuery else query) fragment
      else Parts.mk fileScheme [] (joinPath basePath path) query fragment).toList := by
  have hparameters : ∀ p : List Char, cutParameters fileScheme p = (p, []) := fun p => rfl
  have hkeep : ∀ p : List Char, withParameters p [] = p := fun p => rfl
  have hscheme : (fileScheme != fileScheme || !schemeIn hierarchicalSchemes fileScheme) = false := by
    decide +kernel
  have hauthority : schemeIn authoritySchemes fileScheme = true := by decide +kernel
  rw [joinList, if_neg (by simpa using hfull), if_neg (by simpa using hne), hbase, ok_bind]
  simp only [hreference, ok_bind, hparameters, hkeep, hscheme, hauthority, Bool.false_eq_true,
    if_false, if_true, List.isEmpty_nil, Bool.not_true, Bool.and_false, Bool.and_true,
    List.isEmpty_iff]
  split <;> rfl

/-- The tail of a reference's path and query seen from another tail. -/
def Tail.joined (t : Tail) (path query : List Char) : Tail :=
  if path = [] then ⟨t.segments, if query = [] then t.query else query⟩ else t.seen path query

theorem Tail.Inward.joined (ht : t.Inward) (hpath : ∀ s ∈ Text.cutAt '/' path, Uri.Inward s)
    (hquery : ∀ c ∈ query, c ≠ '#' ∧ isDropped c = false) : (t.joined path query).Inward := by
  unfold Tail.joined
  split
  · refine ⟨ht.ne_nil, ht.inward, ht.filled, ?_⟩
    dsimp only
    split
    · exact ht.query
    · exact hquery
  · exact ht.seen hpath hquery

/-- It leads along the names of some directory around the tail, and then along those of the path. -/
theorem exists_names_joined (t : Tail) (path query : List Char) :
    ∃ around, around <+: t.names ∧
      (t.joined path query).names = around ++ namesIn (Text.cutAt '/' path) := by
  unfold Tail.joined
  split
  · rename_i hnone
    subst hnone
    exact ⟨t.names, List.prefix_rfl, (List.append_nil _).symm⟩
  · exact exists_names_seen t path query

/-- **Joining a reference keeps the directory** of a file's URI. -/
theorem joinList_below (hn : ∀ n ∈ names, Path.Down n) (ht : t.Inward) {reference : List Char}
    (hclean : Parts.Clean ⟨[], [], path, query, fragment⟩) (hrel : path.head? ≠ some '/')
    (hpath : ∀ s ∈ Text.cutAt '/' path, Uri.Inward s)
    (hsplit : splitWith fileScheme reference = .ok ⟨fileScheme, [], path, query, fragment⟩) :
    joinList (uriText (t.pathIn names) t.query []) reference
      = .ok (uriText ((t.joined path query).pathIn names) (t.joined path query).query fragment) := by
  have hfull := uriText_ne_nil (t.pathIn names) t.query []
  by_cases hempty : reference = []
  · subst hempty
    cases hsplit
    exact if_neg (by simpa using hfull)
  · have hbase : split (uriText (t.pathIn names) t.query [])
        = .ok ⟨fileScheme, [], t.pathIn names, t.query, []⟩ :=
      splitWith_uriText (uriParts_below hn ht (by simp)) []
    have hjoined := uriParts_below hn (ht.joined hpath hclean.query) hclean.fragment
    rw [joinList_relative hfull hbase hempty hsplit, ← toList_uriParts hjoined]
    unfold Tail.joined
    split
    · rfl
    · rw [joinPath_below hn ht hrel hpath query]
      rfl

/-- **A relative reference stays below the directory**, with the same tail in every one: it leads
along the names of some directory around the base, and then along its own. -/
theorem exists_joined (ht : t.Inward) {reference : String} (hr : isRelative reference = true) :
    ∃ seen fragment, Tail.Inward seen ∧ (∀ c ∈ fragment, isDropped c = false) ∧
      (∃ around, around <+: t.names ∧ seen.names = around ++ pathNames reference) ∧
      ∀ names, (∀ n ∈ names, Path.Down n) →
        Reference.joined (t.uriIn names []) reference = .ok (seen.uriIn names fragment) := by
  obtain ⟨path, query, fragment, hclean, hrel, hpath, hnames, hsplit⟩ := parts_of_isRelative hr
  have hjoined := ht.joined hpath hclean.query
  refine ⟨t.joined path query, fragment, hjoined, hclean.fragment, ?_, fun names hn => ?_⟩
  · rw [hnames]
    exact exists_names_joined t path query
  · rw [Reference.joined, join, toList_uriIn ht,
      joinList_below hn ht hclean hrel hpath (hsplit fileScheme), ← toList_uriIn hjoined]
    simp [Except.map]

/-- A reference of only a fragment leads along no names. -/
theorem pathNames_fragment {reference : String} (h : reference.toList.head? = some '#') :
    pathNames reference = [] := by
  obtain ⟨s, hs⟩ := List.head?_eq_some_iff.mp h
  have hclean : ∀ c ∈ s.filter (!isDropped ·), isDropped c = false := fun c hc => by
    simpa using (List.mem_filter.mp hc).2
  have hsame : split ('#' :: s) = split ('#' :: s.filter (!isDropped ·)) := by
    have hstart : ∀ rest : List Char, (('#' :: rest).dropWhile isLeading).filter (!isDropped ·)
        = '#' :: rest.filter (!isDropped ·) := fun _ => rfl
    rw [split, split, splitWith_eq, splitWith_eq, hstart, hstart, List.filter_filter]
    simp
  rw [pathNames, hs, hsame, split, splitWith_fragment hclean]
  rfl

/-- The fragment of such a URI is cut off, and nothing else. -/
theorem cutFragment_uriIn (hn : ∀ n ∈ names, Path.Down n) (ht : t.Inward)
    (hf : ∀ c ∈ fragment, isDropped c = false) :
    cutFragment (t.uriIn names fragment) = .ok (t.uriIn names [], String.ofList fragment) := by
  have hparts := uriParts_below hn ht hf
  have hbare : String.ofList (uriText (t.pathIn names) t.query []) = t.uriIn names [] := by
    rw [← toList_uriIn ht, String.ofList_toList]
  have hkeep : ∀ p : List Char, cutParameters fileScheme p = (p, []) := fun p => rfl
  rw [cutFragment, toList_uriIn ht]
  cases fragment with
  | nil =>
    have hno : (uriText (t.pathIn names) t.query []).contains '#' = false := by
      have hpath := (not_mem_of_isPathChar hparts.clean.path).1
      have hquery := (not_mem_queried hparts.clean.query).1
      rw [List.contains_eq_mem, decide_eq_false_iff_not]
      simp [uriText, fileScheme, marked, hpath, hquery]
    simp only [hno, Bool.false_eq_true, if_false]
  | cons c rest =>
    have hhas : (uriText (t.pathIn names) t.query (c :: rest)).contains '#' = true := by
      rw [List.contains_eq_mem, decide_eq_true_eq]
      simp [uriText, marked]
    have hbareparts : UriParts (t.pathIn names) t.query [] :=
      uriParts_below hn ht (by simp)
    simp only [hhas, if_true]
    rw [split, splitWith_uriText hparts, ok_bind]
    simp only [hkeep, withParameters, List.isEmpty_nil, if_true]
    rw [toList_uriParts hbareparts, hbare]
    rfl

/-! ## §6 Paths -/

/-- A name of characters, which leads one step down. -/
structure Plain (name : String) : Prop extends Path.Down name where
  chars : ∃ cs, name.toList = Text.ofChars cs

theorem plain_of_ofChars {name : String} (cs : List Char) (h : name.toList = Text.ofChars cs)
    (hne : name ≠ "") (hslash : '/' ∉ name.toList) (hdot : name ≠ ".") (hdots : name ≠ "..") :
    Plain name where
  toDown := ⟨h ▸ Text.isName_ofChars cs, hne, hslash, hdot, hdots⟩
  chars := ⟨cs, h⟩

theorem Plain.resolved_escaped {name : String} (h : Plain name) :
    resolved (escaped name) = name.toList := by
  obtain ⟨cs, hcs⟩ := h.chars
  exact resolved_escaped_chars h.toDown hcs

theorem resolved_rooted (segments : List (List Char)) :
    resolved (rooted segments) = rooted (segments.map resolved) := by
  rw [rooted, resolved_intercalate, List.map_cons]
  rfl

theorem rootOf_of_single {s : List Char} (h : s.head? = some '/')
    (hsingle : ['/', '/'].isPrefixOf s = false) : Path.rootOf s = .slash := by
  obtain ⟨rest, rfl⟩ := List.head?_eq_some_iff.mp h
  cases rest with
  | nil => rfl
  | cons c rest =>
    have hc : c ≠ '/' := by
      rintro rfl
      simp [List.isPrefixOf] at hsingle
    simp [Path.rootOf, hc]

/-- Names that name something are not left out. -/
theorem filtered_names (h : ∀ n ∈ names, n ≠ "" ∧ n ≠ ".") :
    ((names.map String.toList).filter fun s => !s.isEmpty && s != ['.']).map String.ofList
      = names := by
  have hkeep : (names.map String.toList).filter (fun s => !s.isEmpty && s != ['.'])
      = names.map String.toList := by
    refine List.filter_eq_self.mpr (List.forall_mem_map.mpr fun n hn => ?_)
    have hdot : n.toList ≠ ['.'] := fun he => (h n hn).2 (String.toList_inj.mp he)
    simpa using ⟨(h n hn).1, hdot⟩
  rw [hkeep, List.map_map]
  exact (List.map_congr_left fun n _ => String.ofList_toList).trans (List.map_id names)

/-- **The path of a URI in a directory** is that of the directory with the names of the tail. -/
theorem toPath_below (hn : ∀ n ∈ names, Plain n) (ht : t.Inward) :
    toPath (t.pathIn names) = Path.absolute (names ++ t.names) := by
  have hdirs : (names.map escaped).map resolved = names.map String.toList := by
    rw [List.map_map]
    exact List.map_congr_left fun n hm => (hn n hm).resolved_escaped
  have hpath : resolved (t.pathIn names)
      = rooted (names.map String.toList ++ t.segments.map resolved) := by
    rw [Tail.pathIn, resolved_rooted, List.map_append, hdirs]
  have hunbroken : ∀ s ∈ names.map String.toList ++ t.segments.map resolved, '/' ∉ s := by
    refine List.forall_mem_append.mpr ⟨fun s hs => ?_, fun s hs => ?_⟩
    · obtain ⟨n, hm, rfl⟩ := List.mem_map.mp hs
      exact (hn n hm).unbroken
    · obtain ⟨s, hm, rfl⟩ := List.mem_map.mp hs
      exact (ht.inward s hm).unbroken
  have hne : t.segments.map resolved ≠ [] := by simpa using ht.ne_nil
  have hfilled : ∀ s ∈ (names.map String.toList ++ t.segments.map resolved).dropLast, s ≠ [] := by
    rw [List.dropLast_append_of_ne_nil hne, ← List.map_dropLast]
    refine List.forall_mem_append.mpr ⟨fun s hs => ?_, fun s hs => ?_⟩
    · obtain ⟨n, hm, rfl⟩ := List.mem_map.mp hs
      simpa using (hn n hm).ne_empty
    · obtain ⟨s, hm, rfl⟩ := List.mem_map.mp hs
      exact (ht.inward s (List.dropLast_subset _ hm)).resolved_ne_nil (ht.filled s hm)
  have hroot : Path.rootOf (rooted (names.map String.toList ++ t.segments.map resolved))
      = .slash := by
    refine rootOf_of_single ?_ (single_rooted hfilled hunbroken)
    rw [rooted_append hne]
    rfl
  have hcut : Text.cutAt '/' (rooted (names.map String.toList ++ t.segments.map resolved))
      = [] :: (names.map String.toList ++ t.segments.map resolved) :=
    Text.cutAt_intercalate (List.cons_ne_nil _ _)
      (List.forall_mem_cons.mpr ⟨List.not_mem_nil, hunbroken⟩)
  have hback := filtered_names fun n hm => ⟨(hn n hm).ne_empty, (hn n hm).not_dot⟩
  rw [toPath, Path.ofString, toList_unescape, String.toList_ofList, hpath, hroot, Path.namesOf, hcut,
    List.filter_cons_of_neg (by simp), List.filter_append, List.map_append, hback, Tail.names,
    namesIn, Path.absolute]

/-- The names of a tail that is made of names. -/
def tailOf (names : List String) : Tail := ⟨names.map escaped, []⟩

theorem inward_tailOf {way : List String} (hw : ∀ n ∈ way, Path.Down n) (hne : way ≠ []) :
    (tailOf way).Inward where
  ne_nil := by simpa [tailOf] using hne
  inward := by
    intro s hs
    obtain ⟨n, hm, rfl⟩ := List.mem_map.mp hs
    exact inward_escaped (hw n hm)
  filled := by
    intro s hs
    obtain ⟨n, hm, rfl⟩ := List.mem_map.mp (List.dropLast_subset _ hs)
    exact (names_escaped (hw n hm)).ne_nil
  query := fun _ h => nomatch h

/-- What stands between parts, put in front of them too. -/
theorem cons_intercalate {α : Type} (c : α) : ∀ {parts : List (List α)}, parts ≠ [] →
    c :: [c].intercalate parts = parts.flatMap (c :: ·)
  | [], h => absurd rfl h
  | [s], _ => by simp
  | s :: next :: rest, _ => by
    rw [List.intercalate_cons_cons, List.flatMap_cons,
      ← cons_intercalate c (List.cons_ne_nil next rest)]
    simp

/-- The bytes of a path: each name has a slash in front. -/
theorem encodeName_absolute (hne : names ≠ []) (h : ∀ n ∈ names, Text.Spelled n.toList) :
    Text.encodeName (Path.absolute names).toString
      = names.flatMap fun n => 0x2F :: Text.encodeName n := by
  have hempty : Text.Spelled [] := ⟨[], by simp, rfl⟩
  have htext : (Path.absolute names).toString
      = String.ofList ([] ++ '/' :: ("/".intercalate names).toList) := by
    simp [Path.toString, Path.absolute, ← String.toList_inj]
  rw [htext, Text.encodeName_slash hempty, String.ofList_toList, Text.encodeName_intercalate h]
  show 0x2F :: _ = _
  rw [cons_intercalate _ (by simpa using hne), List.flatMap_map]

/-- The URI of a path below a directory. -/
theorem ofPath_below {way : List String} (hn : ∀ n ∈ names, Path.Down n)
    (hw : ∀ n ∈ way, Path.Down n) (hne : way ≠ []) :
    ofPath (Path.absolute (names ++ way)) = .ok ((tailOf way).uriIn names []) := by
  have hall : ∀ n ∈ names ++ way, Path.Down n := List.forall_mem_append.mpr ⟨hn, hw⟩
  have hslash : ∀ bs : List UInt8, (0x2F :: bs).flatMap escapeByte = '/' :: bs.flatMap escapeByte :=
    fun _ => rfl
  have hescape : (Text.encodeName (Path.absolute (names ++ way)).toString).flatMap escapeByte
      = (tailOf way).pathIn names := by
    have hpath : (tailOf way).pathIn names
        = '/' :: ['/'].intercalate ((names ++ way).map escaped) := by
      rw [Tail.pathIn, tailOf, rooted, ← List.map_append,
        List.intercalate_cons_of_ne_nil (by simp [hne])]
      rfl
    rw [encodeName_absolute (by simp [hne]) fun n hm => (hall n hm).isName.spelled, hpath,
      cons_intercalate _ (by simp [hne]), List.flatMap_map, List.flatMap_assoc]
    exact List.flatMap_congr fun n _ => hslash _
  rw [ofPath_of_namable (fun n hm => (hall n hm).isName.namable) (by simp [Path.absolute]), escape,
    hescape]
  congr 1
  rw [← String.toList_inj, toList_uriIn (inward_tailOf hw hne)]
  simp [uriText, tailOf, fileScheme, queried, marked]

end SchemaDoc.Uri
