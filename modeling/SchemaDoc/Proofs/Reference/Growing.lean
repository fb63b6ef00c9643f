/-
SchemaDoc.Proofs.Reference.Growing — a document whose references lead on for ever.

The part `x` of the document gives itself a name, so the references in it are
looked up from the directory above and find the document again. The trail does
not know of that name: it holds the reference as seen from where the last one
was seen, one directory deeper each time. One node is come to under ever
longer URIs, and none of them twice.

§1 the document, §2 looking up, §3 the URIs on the trail, §4 leading on,
§5 the root.
-/
import SchemaDoc.Proofs.Reference.Asked
import SchemaDoc.Proofs.Uri.Join

namespace SchemaDoc.Reference

open Uri

/-! ## §1 The document -/

/-- The reference from the part to itself. -/
def onward : String := "s/r.json#/definitions/x"

/-- A part that names itself and refers to itself. -/
def selfNamed : Value :=
  .mapping [(.text "id", .text "../"),
    (.text "properties", .mapping [(.text "a", .mapping [(.text "$ref", .text onward)])])]

/-- A document that refers to such a part of it. -/
def growing : Value :=
  .mapping [(.text "$ref", .text "#/definitions/x"),
    (.text "definitions", .mapping [(.text "x", selfNamed)])]

/-- What is known at its root. -/
def growingRegistry : Registry := ({} : Registry).add "file:///s/r.json" ⟨.draft4, growing⟩

variable {r : Resolver}

/-! ## §2 Looking up -/

theorem inside_selfNamed (h : r.base = "file:///s/r.json") :
    r.inside ⟨.draft4, selfNamed⟩ = .ok (some { r with base := "file:///" }) := by
  have hname : (Resource.mk .draft4 selfNamed).name? = .ok (some "../") := rfl
  have hjoined : joined "file:///s/r.json" "../" = .ok "file:///" := rfl
  rw [Resolver.inside, hname, h, ok_bind]
  simp only [hjoined, ok_bind]
  rfl

/-- The pointer to the part passes its name. -/
theorem pointer_growing (h : r.base = "file:///s/r.json") :
    r.pointer ⟨.draft4, growing⟩ "/definitions/x"
      = .ok (selfNamed, { r with base := "file:///" }) := by
  have hsegments : Text.cutAt '/'
      (Uri.unescape (String.ofList ("/definitions/x".toList.drop 1))).toList
      = ["definitions".toList, "x".toList] := by decide +kernel
  have hfirst : Resolver.stepInto growing "definitions".toList
      = .ok (some (.mapping [(.text "x", selfNamed)], some "definitions")) := rfl
  have hsecond : Resolver.stepInto (.mapping [(.text "x", selfNamed)]) "x".toList
      = .ok (some (selfNamed, some "x")) := rfl
  have houter : Dialect.draft4.leadsToSchema true [some "definitions"] = false := by
    decide +kernel
  have hinner : Dialect.draft4.leadsToSchema true [some "definitions", some "x"] = true := by
    decide +kernel
  have hmapping : (Value.mapping [(.text "x", selfNamed)]).isMapping = true := rfl
  have hpart : selfNamed.isMapping = true := rfl
  rw [Resolver.pointer]
  simp only [hsegments, Resolver.follow, hfirst, hsecond, ok_bind, hmapping, hpart,
    List.nil_append, List.cons_append, houter, hinner, if_true, Bool.false_eq_true, if_false,
    inside_selfNamed h, orStop, mapError_ok]

/-- A resolver that knows the document and nothing else. -/
structure Knows (r : Resolver) (base : String) : Prop where
  registry : r.registry = growingRegistry
  base : r.base = base

/-- A reference to the part finds it, and is seen from the name that the part gives itself. -/
theorem lookUp_growing (disk : Disk) {base reference : String} (h : Knows r base) (p : Position)
    (ht : r.target reference = .ok ("file:///s/r.json", "/definitions/x")) :
    ∃ inner, r.lookUp disk p reference = .ok (selfNamed, inner) ∧ Knows inner "file:///" := by
  have hfetch : growingRegistry.fetch disk p "file:///s/r.json"
      = .ok (growingRegistry, ⟨.draft4, growing⟩) := rfl
  have hpointer : "/definitions/x".toList.head? = some '/' := rfl
  refine ⟨{ r.enter growingRegistry "file:///s/r.json" with base := "file:///" }, ?_, rfl, rfl⟩
  rw [Resolver.lookUp, ht, h.registry]
  simp only [orStop, mapError_ok, ok_bind, hfetch, hpointer, if_true]
  exact pointer_growing rfl

theorem target_onward (h : Knows r "file:///") :
    r.target onward = .ok ("file:///s/r.json", "/definitions/x") := by
  have hjoined : joined "file:///" onward = .ok "file:///s/r.json#/definitions/x" := rfl
  have hcut : cutFragment "file:///s/r.json#/definitions/x"
      = .ok ("file:///s/r.json", "/definitions/x") := rfl
  unfold Resolver.target
  rw [h.base, hjoined, ok_bind, hcut]
  rfl

/-! ## §3 The URIs on the trail -/

/-- The path of the document, seen so many directories deeper than the root. -/
def grownPath (n : Nat) : List Char := rooted (List.replicate n ['s'] ++ ["r.json".toList])

/-- The URI of the document or of a part of it, seen so. -/
def grownUri (n : Nat) (fragment : List Char) : String :=
  String.ofList (fileText [] (grownPath n) fragment)

/-- The pointer to the part. -/
def partPointer : List Char := "/definitions/x".toList

theorem names_s : Names ['s'] := ⟨by decide, by decide, by decide, by decide⟩

theorem names_file : Names "r.json".toList := ⟨by decide, by decide, by decide, by decide⟩

theorem names_replicate (n : Nat) : ∀ s ∈ List.replicate n ['s'], Names s := fun _ hs =>
  List.eq_of_mem_replicate hs ▸ names_s

theorem settled_grownPath (n : Nat) : Settled [] (grownPath n) := by
  have hdir : ['s'].all isNameChar = true := by decide +kernel
  have hfile : "r.json".toList.all isNameChar = true := by decide +kernel
  refine settled_rooted (names_replicate n) names_file fun s hs => ?_
  rcases List.mem_append.mp hs with hs | hs
  · rw [List.eq_of_mem_replicate hs]
    exact List.all_eq_true.mp hdir
  · rw [List.mem_singleton.mp hs]
    exact List.all_eq_true.mp hfile

theorem not_isDropped_partPointer : ∀ c ∈ partPointer, isDropped c = false := by
  have hall : partPointer.all (!isDropped ·) = true := by decide +kernel
  simpa using hall

/-- Seen from there, the reference leads one directory deeper. -/
theorem joined_onward (n : Nat) :
    joined (grownUri n []) onward = .ok (grownUri (n + 1) partPointer) := by
  have hsplit : splitWith fileScheme onward.toList
      = .ok ⟨fileScheme, [], ['/'].intercalate ([['s']] ++ ["r.json".toList]), [], partPointer⟩ :=
    rfl
  have hdeeper : List.replicate n ['s'] ++ ([['s']] ++ ["r.json".toList])
      = List.replicate (n + 1) ['s'] ++ ["r.json".toList] := by
    rw [List.replicate_succ', List.append_assoc]
  have hresult : Settled [] (rooted (List.replicate n ['s'] ++ ([['s']] ++ ["r.json".toList]))) := by
    rw [hdeeper]
    exact settled_grownPath (n + 1)
  have hjoin := joinList_names (names_replicate n) names_file (by simpa using names_s) names_file
    (settled_grownPath n).toFileParts hresult (by decide) hsplit
  rw [hdeeper] at hjoin
  rw [joined, Uri.join, grownUri, String.toList_ofList, grownPath, hjoin]
  rfl

theorem length_grownPath (n : Nat) : (grownPath n).length = 2 * n + 7 := by
  have hlength : ∀ n, (['/'].intercalate (List.replicate n ['s'] ++ ["r.json".toList])).length
      = 2 * n + 6 := by
    intro n
    induction n with
    | zero => rfl
    | succ n ih =>
      rw [List.replicate_succ, List.cons_append, List.intercalate_cons_of_ne_nil (by simp)]
      simp only [List.length_append, List.length_singleton, ih]
      omega
  rw [grownPath, rooted, List.intercalate_cons_of_ne_nil (by simp)]
  simp only [List.length_append, List.length_singleton, List.length_nil, hlength]
  omega

theorem grownUri_inj {m n : Nat} {fragment : List Char}
    (h : grownUri m fragment = grownUri n fragment) : m = n := by
  have h := congrArg (List.length ∘ String.toList) h
  simp only [Function.comp, grownUri, String.toList_ofList, fileText, List.length_append,
    List.length_cons, List.length_nil, length_grownPath] at h
  omega

/-! ## §4 Leading on -/

variable (disk : Disk) (earlier : Option String)

/-- A place of the part. -/
structure Growing (n : Nat) (here : Place) : Prop where
  knows : Knows here.resolver "file:///"
  document : here.document = grownUri n []
  trail : ∀ t ∈ here.trail, ∃ k, k ≤ n ∧ t = grownUri k partPointer

/-- The reference leads to the part again, under another URI. -/
theorem Growing.lead {n : Nat} {here : Place} (h : Growing n here) (p : Position) :
    ∃ there, here.lead disk earlier p onward = .ok (there, selfNamed) ∧ Growing (n + 1) there := by
  obtain ⟨inner, hlook, hknows⟩ := lookUp_growing disk h.knows p (target_onward h.knows)
  have hnew : here.trail.contains (grownUri (n + 1) partPointer) = false := by
    rw [List.contains_eq_mem, decide_eq_false_iff_not]
    intro hm
    obtain ⟨k, hk, he⟩ := h.trail _ hm
    have := grownUri_inj he
    omega
  have hcut := cutFragment_settled (settled_grownPath (n + 1)) not_isDropped_partPointer
  refine ⟨⟨inner, grownUri (n + 1) [], grownUri (n + 1) partPointer :: here.trail⟩, ?_, hknows,
    rfl, ?_⟩
  · rw [Place.lead, h.document, joined_onward]
    simp only [orFail, mapError_ok, ok_bind, hnew, Bool.false_eq_true, if_false, hlook]
    rw [grownUri, hcut]
    rfl
  · intro t ht
    rcases List.mem_cons.mp ht with rfl | ht
    · exact ⟨n + 1, Nat.le_refl _, rfl⟩
    · obtain ⟨k, hk, he⟩ := h.trail t ht
      exact ⟨k, Nat.le_succ_of_le hk, he⟩

theorem mem_asked_selfNamed (follow : Position → String → Except Failure Value) (p : Position) :
    (1 :: 2 :: p, onward) ∈ asked follow p selfNamed := by
  have hasked : ∃ beside, asked follow p selfNamed = (1 :: 2 :: p, onward) :: beside := ⟨_, rfl⟩
  obtain ⟨beside, hasked⟩ := hasked
  rw [hasked]
  exact List.mem_cons_self ..

/-- So no number of hops is enough at the part. -/
theorem Growing.expandAt_eq {n : Nat} {here : Place} (h : Growing n here) (hops : Nat)
    (p : Position) :
    expandAt disk earlier hops here p selfNamed = .error (.fault .tooDeep) := by
  induction hops generalizing n here p with
  | zero =>
    rw [expandAt_eq_inline]
    exact inline_of_unanswered ⟨_, mem_asked_selfNamed _ p, rfl⟩
  | succ hops ih =>
    obtain ⟨there, hlead, hthere⟩ := h.lead disk earlier (1 :: 2 :: p)
    rw [expandAt_eq_inline]
    refine inline_of_unanswered ⟨_, mem_asked_selfNamed _ p, ?_⟩
    rw [followAt, hlead, ok_bind]
    exact ih hthere _

/-! ## §5 The root -/

/-- The root of the document. -/
def growingRoot : Place := ⟨⟨growingRegistry, "file:///s/r.json", []⟩, "file:///s/r.json", []⟩

/-- The root leads to the part. -/
theorem lead_growingRoot (p : Position) : ∃ there,
    growingRoot.lead disk earlier p "#/definitions/x" = .ok (there, selfNamed) ∧
      Growing 1 there := by
  have htarget : growingRoot.resolver.target "#/definitions/x"
      = .ok ("file:///s/r.json", "/definitions/x") := rfl
  have hjoined : joined growingRoot.document "#/definitions/x" = .ok (grownUri 1 partPointer) := rfl
  have hnew : growingRoot.trail.contains (grownUri 1 partPointer) = false := rfl
  have hknown : Knows growingRoot.resolver "file:///s/r.json" := ⟨rfl, rfl⟩
  obtain ⟨inner, hlook, hknows⟩ := lookUp_growing disk hknown p htarget
  have hcut := cutFragment_settled (settled_grownPath 1) not_isDropped_partPointer
  refine ⟨⟨inner, grownUri 1 [], [grownUri 1 partPointer]⟩, ?_, hknows, rfl, fun t ht => ?_⟩
  · rw [Place.lead, hjoined]
    simp only [orFail, mapError_ok, ok_bind, hnew, Bool.false_eq_true, if_false, hlook]
    rw [grownUri, hcut]
    rfl
  · exact ⟨1, Nat.le_refl _, List.mem_singleton.mp ht⟩

/-- Nor is any at the root, whatever the disk holds. -/
theorem dereferenceWithin_growing (hops : Nat) :
    dereferenceWithin hops earlier disk growing (.absolute ["s"]) "r.json"
      = .error (.fault .tooDeep) := by
  have huri : rootUri disk (.absolute ["s"]) "r.json" = .ok "file:///s/r.json" := rfl
  have hplace : rootPlace "file:///s/r.json" growing = .ok growingRoot := rfl
  have hasked : ∀ follow, (rootPosition, "#/definitions/x") ∈ asked follow rootPosition growing :=
    fun follow => List.mem_cons_self ..
  rw [dereferenceWithin, huri]
  simp only [orFail, mapError_ok, ok_bind, hplace]
  rw [expandAt_eq_inline]
  refine inline_of_unanswered ⟨_, hasked _, ?_⟩
  cases hops with
  | zero => rfl
  | succ hops =>
    obtain ⟨there, hlead, hthere⟩ := lead_growingRoot disk earlier rootPosition
    rw [followAt, hlead, ok_bind]
    exact hthere.expandAt_eq disk earlier hops _

end SchemaDoc.Reference
