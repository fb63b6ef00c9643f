/-
SchemaDoc.Proofs.Reference.Nameless — documents that give themselves no names.

A document without names is known by the URI that it was read from and by
nothing else. A pointer in it leads to the same place by whatever resolver,
which it leaves as it was, and looking into it enters nothing but anchors of
its own, whatever else is known.

§1 values without names, §2 pointers, §3 looking inside.
-/
import SchemaDoc.Proofs.Reference.Found

namespace SchemaDoc.Reference

/-! ## §1 Values without names -/

/-- A value is a text. -/
def isText : Value → Bool
  | .text _ => true
  | _ => false

/-- No text stands under either keyword for names. -/
def isUnnamedPart : Value → Bool
  | .mapping entries =>
    (Entries.get? entries (.text "id")).all (!isText ·)
      && (Entries.get? entries (.text "$id")).all (!isText ·)
  | _ => true

/-- No part of a value gives itself a name, but for anchors. -/
abbrev Unnamed (v : Value) : Prop := Such isUnnamedPart v

theorem ofStructure_isUnnamedPart : OfStructure isUnnamedPart := fun _ => rfl

/-- No text stands under either keyword for names, and no dynamic anchor is set. -/
def isNamelessPart : Value → Bool
  | .mapping entries =>
    (Entries.get? entries (.text "id")).all (!isText ·)
      && (Entries.get? entries (.text "$id")).all (!isText ·)
      && (Entries.get? entries (.text "$dynamicAnchor")).isNone
  | _ => true

/-- No part of a value gives itself a name. -/
abbrev Nameless (v : Value) : Prop := Such isNamelessPart v

theorem ofStructure_isNamelessPart : OfStructure isNamelessPart := fun _ => rfl

variable {v : Value} {r : Resource}

theorem unnamed_of_nameless (hv : Nameless v) : Unnamed v := by
  have hsplit : isNamelessPart = fun u => isUnnamedPart u && isNamelessPart u := by
    funext u
    unfold isNamelessPart isUnnamedPart
    split <;> simp
  rw [Nameless, Such, hsplit, Value.every_and, Bool.and_eq_true] at hv
  exact hv.1

/-- The keywords for names. -/
def nameKeywords : List String := ["id", "$id"]

/-- What stands under a keyword for names is no text. -/
theorem yields_named {key : String} (hkey : key ∈ nameKeywords) (hv : Unnamed v) :
    Yields (fun found => ∀ w ∈ found, isText w = false) (lookUpGiven v key) := by
  have hself := Value.every_self (Value.every_bare hv)
  refine Yields.bind (Q := fun found => ∀ w ∈ found, isText w = false) ?_ fun found hfound =>
    yields_ok fun w hw => hfound w (Option.mem_filter_iff.mp hw).1
  unfold lookUp
  split
  · rename_i entries he
    simp only [he, isUnnamedPart, Bool.and_eq_true, Option.all_eq_true, Bool.not_eq_true'] at hself
    refine yields_ok fun w hw => ?_
    rcases List.mem_cons.mp hkey with rfl | hkey
    · exact hself.1 w hw
    · obtain rfl := List.mem_singleton.mp hkey
      exact hself.2 w hw
  · exact yields_error _

theorem yields_olderName {key : String} (hkey : key ∈ nameKeywords) (hv : Unnamed v) :
    Yields (fun found => ∀ w ∈ found, isText w = false) (olderName v key) := by
  have hnone : Yields (fun found => ∀ w ∈ found, isText w = false)
      (.ok none : Except Fault (Option Value)) := yields_ok fun _ h => nomatch h
  refine yields_bind fun inside => ?_
  split
  · exact hnone
  · refine (yields_named hkey hv).bind fun found hfound => ?_
    split
    · exact hnone
    · refine yields_bind fun s => ?_
      split
      · exact hnone
      · exact yields_ok hfound

theorem yields_rawName (hr : Unnamed r.contents) :
    Yields (fun found => ∀ w ∈ found, isText w = false) (rawName r) := by
  have hnone : Yields (fun found => ∀ w ∈ found, isText w = false)
      (.ok none : Except Fault (Option Value)) := yields_ok fun _ h => nomatch h
  unfold rawName
  split
  · exact yields_olderName (by decide) hr
  · exact yields_olderName (by decide) hr
  · split
    · exact hnone
    · exact yields_olderName (by decide) hr
  · split
    · exact hnone
    · exact yields_olderName (by decide) hr
  · split
    · exact hnone
    · exact yields_named (by decide) hr
  · split
    · exact hnone
    · exact yields_named (by decide) hr

/-- Only a text is a name. -/
theorem strippable_of_not_text (h : isText v = false) : ∃ f, strippable v = .error f := by
  unfold strippable
  split
  · cases h
  · exact ⟨_, rfl⟩
  · exact ⟨_, rfl⟩

/-- A resource without names has none. It may not admit the question. -/
theorem name?_of_unnamed (hr : Unnamed r.contents) :
    r.name? = .ok none ∨ ∃ f, r.name? = .error f := by
  unfold Resource.name?
  cases hraw : rawName r with
  | error f => exact Or.inr ⟨f, rfl⟩
  | ok found =>
    cases found with
    | none => exact Or.inl rfl
    | some w =>
      obtain ⟨f, hf⟩ := strippable_of_not_text (yields_rawName hr _ hraw w rfl)
      refine Or.inr ⟨f, ?_⟩
      rw [ok_bind]
      simp only [hf, error_bind]

/-- So it does not change the base of references. -/
theorem inside_of_unnamed (hr : Unnamed r.contents) :
    (∀ q : Resolver, q.inside r = .ok none) ∨ ∃ f, ∀ q : Resolver, q.inside r = .error f := by
  rcases name?_of_unnamed hr with hn | ⟨f, hn⟩
  · refine Or.inl fun q => ?_
    rw [Resolver.inside, hn]
    rfl
  · refine Or.inr ⟨f, fun q => ?_⟩
    rw [Resolver.inside, hn]
    rfl

/-- Its anchors are none that give way to others. -/
theorem yields_fixed (hr : Nameless r.contents) :
    Yields (fun found => ∀ a ∈ found, a.dynamic = false) r.anchors := by
  have hin {keyword : String} : Yields (fun found => ∀ a ∈ found, a.dynamic = false)
      (anchorInName r keyword) := by
    refine yields_bind fun found => ?_
    split
    · exact yields_ok fun _ h => nomatch h
    · refine yields_bind fun s => yields_ok fun a ha => ?_
      split at ha
      · rw [List.mem_singleton.mp ha]
      · cases ha
  have hunder {keyword : String} : Yields (fun found => ∀ a ∈ found, a.dynamic = false)
      (anchorUnder r keyword false) := by
    refine yields_bind fun found => ?_
    split
    · exact yields_ok fun _ h => nomatch h
    · refine yields_bind fun s => yields_ok fun a ha => ?_
      rw [List.mem_singleton.mp ha]
  have hdynamic : Yields (· = []) (anchorUnder r "$dynamicAnchor" true) := by
    have hself := Value.every_self (Value.every_bare hr)
    unfold anchorUnder lookUpGiven lookUp
    split
    · rename_i entries he
      simp only [he, isNamelessPart, Bool.and_eq_true, Option.isNone_iff_eq_none] at hself
      simp only [hself.2]
      exact yields_ok rfl
    · exact yields_error _
  unfold Resource.anchors
  split
  · exact hin
  · exact hin
  · exact yields_ok fun _ h => nomatch h
  · exact hin
  · exact hin
  · exact hunder
  · refine hunder.bind fun fixed hfixed => hdynamic.bind fun dynamic hd => yields_ok ?_
    rw [hd, List.append_nil]
    exact hfixed

/-! ## §2 Pointers -/

/-- A way through a document comes to the same by whatever resolver, which it leaves as it was. -/
def Rigid (way : Resolver → Except Stop (Value × Resolver)) : Prop :=
  (∃ w, ∀ q, way q = .ok (w, q)) ∨ ∃ e, ∀ q, way q = .error e

/-- A pointer in a document without names is such a way. -/
theorem rigid_follow {d : Dialect} {pointer : String} :
    ∀ {segments : List (List Char)} {names : List (Option String)} {v : Value}, Unnamed v →
      Rigid fun q => q.follow d pointer segments names v
  | [], _, v, _ => Or.inl ⟨v, fun _ => rfl⟩
  | segment :: rest, names, v, hv => by
    simp only [Resolver.follow]
    cases hs : Resolver.stepInto v segment with
    | error e => exact Or.inr ⟨e, fun _ => rfl⟩
    | ok found =>
      cases found with
      | none => exact Or.inr ⟨_, fun _ => rfl⟩
      | some found =>
        obtain ⟨w, name⟩ := found
        have hw : Unnamed w := yields_stepInto ofStructure_isUnnamedPart hv _ hs _ rfl
        simp only [ok_bind]
        split
        · rcases inside_of_unnamed (r := ⟨d, w⟩) hw with hi | ⟨f, hi⟩
          · simp only [hi]
            exact rigid_follow hw
          · simp only [hi]
            exact Or.inr ⟨_, fun _ => rfl⟩
        · exact rigid_follow hw

theorem rigid_pointer (hr : Unnamed r.contents) (pointer : String) :
    Rigid fun q => q.pointer r pointer := by
  simp only [Resolver.pointer]
  exact rigid_follow hr

/-! ## §3 Looking inside -/

namespace Registry

/-- A registry with the anchors of another one put before its own. -/
def under (g found : Registry) : Registry := { g with anchors := found.anchors ++ g.anchors }

/-- Looking into resources without names enters their anchors, and these do not depend on what is
known. -/
theorem openAll_frame {fuel : Nat} {g : Registry} {stack : List (String × Resource)}
    (h : ∀ e ∈ stack, Unnamed e.2.contents) :
    openAll fuel g stack = (openAll fuel {} stack).map g.under := by
  induction fuel generalizing g stack with
  | zero => rfl
  | succ fuel ih =>
    cases stack with
    | nil => rfl
    | cons e rest =>
      obtain ⟨uri, r⟩ := e
      obtain ⟨hr, hrest⟩ := List.forall_mem_cons.mp h
      rw [openAll, openAll]
      rcases name?_of_unnamed hr with hn | ⟨f, hn⟩
      · rw [hn]
        simp only [ok_bind, pure_eq_ok]
        cases r.anchors with
        | error f => rfl
        | ok anchors =>
          simp only [ok_bind]
          cases hi : r.inside with
          | error f => rfl
          | ok inside =>
            simp only [ok_bind]
            have hstack : ∀ e ∈ (inside.map fun r => (uri, r)).reverse ++ rest,
                Unnamed e.2.contents := by
              refine List.forall_mem_append.mpr ⟨fun e he => ?_, hrest⟩
              obtain ⟨q, hq, rfl⟩ := List.mem_map.mp (List.mem_reverse.mp he)
              exact yields_resources_inside ofStructure_isUnnamedPart hr _ hi q hq
            generalize (anchors.map fun a => ((uri, a.name), a)).reverse = entered
            rw [ih (g := ⟨g.resources, entered ++ g.anchors, g.unopened⟩) hstack,
              ih (g := ⟨[], entered ++ [], []⟩) hstack]
            cases openAll fuel {} ((inside.map fun r => (uri, r)).reverse ++ rest) with
            | error f => rfl
            | ok found => simp [Except.map, under]
      · rw [hn]
        rfl

/-- The anchors of a registry have one URI, and none gives way to others. -/
def AnchorsOf (uri : String) (g : Registry) : Prop :=
  ∀ e ∈ g.anchors, e.1.1 = uri ∧ e.2.dynamic = false

/-- What is found inside resources of one URI has this one. -/
theorem yields_openAll_anchors {uri : String} {fuel : Nat} {g : Registry}
    {stack : List (String × Resource)} (hg : AnchorsOf uri g)
    (h : ∀ e ∈ stack, e.1 = uri ∧ Nameless e.2.contents) :
    Yields (AnchorsOf uri) (openAll fuel g stack) := by
  induction fuel generalizing g stack with
  | zero => exact yields_ok hg
  | succ fuel ih =>
    cases stack with
    | nil => exact yields_ok hg
    | cons e rest =>
      obtain ⟨seen, r⟩ := e
      obtain ⟨⟨rfl, hr⟩, hrest⟩ := List.forall_mem_cons.mp h
      rw [openAll]
      rcases name?_of_unnamed (unnamed_of_nameless hr) with hn | ⟨f, hn⟩
      · rw [hn]
        simp only [ok_bind, pure_eq_ok]
        refine (yields_fixed hr).bind fun anchors hanchors => ?_
        refine (yields_resources_inside ofStructure_isNamelessPart hr).bind fun inside hinside =>
          ih ?_ ?_
        · refine List.forall_mem_append.mpr ⟨fun e he => ?_, hg⟩
          obtain ⟨a, ha, rfl⟩ := List.mem_map.mp (List.mem_reverse.mp he)
          exact ⟨rfl, hanchors a ha⟩
        · refine List.forall_mem_append.mpr ⟨fun e he => ?_, hrest⟩
          obtain ⟨q, hq, rfl⟩ := List.mem_map.mp (List.mem_reverse.mp he)
          exact ⟨rfl, hinside q hq⟩
      · rw [hn]
        exact yields_error _

end Registry

end SchemaDoc.Reference
