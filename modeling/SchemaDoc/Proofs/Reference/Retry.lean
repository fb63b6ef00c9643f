/-
SchemaDoc.Proofs.Reference.Retry — what becomes of the second attempt.

A schema whose references miss a file is tried again from its own directory.
The second attempt differs from one that stands alone in one respect only: a
reference that leads nowhere, for whatever reason, is laid to the file that
the first attempt missed (`dereferenceAfter_some`). `inlined_shows_alone_iff`
says when this can be seen, `inlined_blames_first_attempt` is the smallest
case: the file is there the second time, but it is empty.

§1 blaming a file, §2 the second attempt, §3 both attempts.
-/
import SchemaDoc.Proofs.Reference.Inline
import SchemaDoc.Resolve

namespace SchemaDoc

/-! ## §1 Blaming a file -/

/-- A failure laid to a file that was missed before, if a reference leads nowhere. -/
def Failure.blaming (missing : String) : Failure → Failure
  | .unresolved reference document _ => .missingReference reference document missing
  | f => f

/-- Blame shows exactly on references that lead nowhere. -/
theorem Failure.category_blaming_iff (missing : String) (f : Failure) :
    (f.blaming missing).category = f.category ↔
      ∀ reference document reason, f ≠ .unresolved reference document reason := by
  cases f <;> simp [blaming, category]

theorem Failure.blaming_eq_self {missing : String} {f : Failure}
    (h : ∀ reference document reason, f ≠ .unresolved reference document reason) :
    f.blaming missing = f := by
  cases f with
  | unresolved reference document reason => exact absurd rfl (h reference document reason)
  | _ => rfl

namespace Reference

theorem Stop.toFailure_some (missing reference document : String) (s : Stop) :
    s.toFailure reference document (some missing)
      = (s.toFailure reference document none).blaming missing := by
  cases s <;> rfl

/-! ## §2 The second attempt -/

theorem Place.lead_some (disk : Disk) (missing : String) (here : Place) (p : Position)
    (reference : String) :
    here.lead disk (some missing) p reference
      = (here.lead disk none p reference).mapError (Failure.blaming missing) := by
  have hstop : Stop.toFailure reference here.document (some missing)
      = Failure.blaming missing ∘ Stop.toFailure reference here.document none :=
    funext (Stop.toFailure_some missing reference here.document)
  simp only [lead, hstop, mapError_bind, orFail, mapError_mapError]
  congr 1
  funext target
  split
  · rfl
  · simp only [mapError_bind, mapError_mapError]
    rfl

theorem expandAt_some (disk : Disk) (missing : String) : ∀ (hops : Nat) (here : Place)
    (p : Position) (v : Value), expandAt disk (some missing) hops here p v
      = (expandAt disk none hops here p v).mapError (Failure.blaming missing)
  | 0, _, p, v => by
    simp only [expandAt]
    refine inline_mapError rfl (fun _ _ => ?_) p v
    rfl
  | hops + 1, here, p, v => by
    refine inline_mapError rfl (fun q r => ?_) p v
    rw [Place.lead_some, mapError_bind]
    congr 1
    funext led
    exact expandAt_some disk missing hops led.1 (0 :: q) led.2

/-- After a missed file a document means what it means alone, but for the blame. -/
theorem dereferenceAfter_some (missing : String) (disk : Disk) (document : Value) (base : Path)
    (name : String) : dereferenceAfter (some missing) disk document base name
      = (dereference disk document base name).mapError (Failure.blaming missing) := by
  simp only [dereference, dereferenceAfter, dereferenceWithin, expandAt_some, mapError_bind, orFail,
    mapError_mapError]
  rfl

/-- References are followed from a directory only if it can be resolved. -/
theorem resolve_of_missingReference {disk : Disk} {document : Value} {base : Path}
    {name reference seen missing : String}
    (h : dereference disk document base name = .error (.missingReference reference seen missing)) :
    ∃ directory, disk.resolve base = .ok directory := by
  cases hr : disk.resolve base with
  | ok directory => exact ⟨directory, rfl⟩
  | error f =>
    rw [dereference, dereferenceAfter, dereferenceWithin, rootUri, hr] at h
    simp [orFail] at h

end Reference

/-! ## §3 Both attempts -/

namespace Resolve

open Reference

/-- What a result shows: the value, or the class and the message of the failure. -/
def shown (x : Except Failure Value) : Except (FailureClass × String) Value :=
  x.mapError fun f => (f.category, f.message)

/-- A blamed result shows the same unless a reference leads nowhere. -/
theorem shown_blaming_iff (missing : String) (x : Except Failure Value) :
    shown (x.mapError (Failure.blaming missing)) = shown x ↔
      ∀ reference document reason, x ≠ .error (.unresolved reference document reason) := by
  cases x with
  | ok v => simp [shown]
  | error f =>
    constructor
    · intro h reference document reason hf
      simp only [shown, mapError_error, Except.error.injEq, Prod.mk.injEq] at h
      exact (f.category_blaming_iff missing).1 h.1 reference document reason (Except.error.inj hf)
    · intro h
      rw [mapError_error, Failure.blaming_eq_self fun reference document reason hf =>
        h reference document reason (congrArg _ hf)]

/-- The first attempt stands unless it misses a file. -/
theorem inlined_of_not_missing {disk : Disk} {base path : Path} {document : Value}
    (h : ∀ reference seen missing, dereference disk document base path.fileName
      ≠ .error (.missingReference reference seen missing)) :
    inlined disk base path document
      = .ofResult (dereference disk document base path.fileName) := by
  unfold inlined
  cases hd : dereference disk document base path.fileName with
  | ok v => rfl
  | error f =>
    cases f with
    | missingReference reference seen missing => exact absurd hd (h reference seen missing)
    | _ => rfl

/-- The first attempt stands if the schema lies in the base directory. -/
theorem inlined_of_same_directory {disk : Disk} {base path : Path} {document : Value}
    (h : disk.resolve base = .ok path.parent) :
    inlined disk base path document
      = .ofResult (dereference disk document base path.fileName) := by
  by_cases hm : ∃ reference seen missing, dereference disk document base path.fileName
      = .error (.missingReference reference seen missing)
  · obtain ⟨reference, seen, missing, hd⟩ := hm
    simp only [inlined, hd, missed?, h]
    show Logged.andThen (.ofResult (.ok path.parent)) _ = _
    simp only [Logged.andThen, Logged.ofResult, if_true, List.nil_append]
  · exact inlined_of_not_missing fun reference seen missing hd => hm ⟨reference, seen, missing, hd⟩

/-- A first attempt that misses a file gives way to a second one, which is told. -/
theorem inlined_of_missing {disk : Disk} {base path : Path} {document : Value}
    {reference seen missing : String}
    (hd : dereference disk document base path.fileName
      = .error (.missingReference reference seen missing))
    (hne : disk.resolve base ≠ .ok path.parent) :
    inlined disk base path document
      = ⟨[.retried path.toString (.missingReference reference seen missing)],
          (dereference disk document path.parent path.fileName).mapError
            (Failure.blaming missing)⟩ := by
  obtain ⟨directory, hr⟩ := resolve_of_missingReference hd
  have hp : path.parent ≠ directory := fun h => hne (h ▸ hr)
  simp only [inlined, hd, missed?, hr, dereferenceAfter_some]
  show Logged.andThen (.ofResult (.ok directory)) _ = _
  simp only [Logged.andThen, Logged.ofResult, if_neg hp]
  rfl

/-- **When the second attempt is one that stands alone.** The first attempt stands, and is the only
one, unless it misses a file and the schema lies elsewhere. Then there is a second one, which shows
what following the references from the schema's own directory shows, except when a reference leads
nowhere there: this is reported as the file that the first attempt missed. -/
theorem inlined_shows_alone_iff (disk : Disk) (base path : Path) (document : Value) :
    ((∀ reference seen missing, dereference disk document base path.fileName
          ≠ .error (.missingReference reference seen missing)) ∨
        disk.resolve base = .ok path.parent →
      inlined disk base path document
        = .ofResult (dereference disk document base path.fileName)) ∧
    ∀ reference seen missing, dereference disk document base path.fileName
        = .error (.missingReference reference seen missing) →
      disk.resolve base ≠ .ok path.parent →
      (inlined disk base path document).events
        = [.retried path.toString (.missingReference reference seen missing)] ∧
      (shown (inlined disk base path document).result
          = shown (dereference disk document path.parent path.fileName) ↔
        ∀ nowhere document' reason, dereference disk document path.parent path.fileName
          ≠ .error (.unresolved nowhere document' reason)) ∧
      ∀ nowhere document' reason, dereference disk document path.parent path.fileName
          = .error (.unresolved nowhere document' reason) →
        (inlined disk base path document).result
          = .error (.missingReference nowhere document' missing) := by
  refine ⟨fun h => h.elim inlined_of_not_missing inlined_of_same_directory,
    fun reference seen missing hd hne => ?_⟩
  rw [inlined_of_missing hd hne]
  refine ⟨rfl, shown_blaming_iff missing _, fun nowhere document' reason ha => ?_⟩
  rw [ha]
  rfl

/-- A disk with one file, in a directory of its own. -/
def diskWith (bytes : List UInt8) : Disk :=
  ⟨⟨[(["s"], .directory), (["s", "x.json"], .file bytes)]⟩, .absolute []⟩

/-- A schema that is what that file holds. -/
def schemaOfFile : Value := .mapping [(.text "$ref", .text "x.json")]

theorem resolve_diskWith (bytes : List UInt8) :
    (diskWith bytes).resolve (.absolute []) ≠ .ok (Path.absolute ["s", "root.json"]).parent := by
  have h : (diskWith bytes).resolve (.absolute []) = .ok (.absolute []) := rfl
  rw [h]
  intro he
  exact absurd (Except.ok.inj he) (by decide)

/-- The second attempt finds the file, which holds the number one. -/
theorem inlined_shows_alone_found :
    dereference (diskWith [0x31]) schemaOfFile (.absolute []) "root.json"
        = .error (.missingReference "x.json" "file:///root.json" "/x.json") ∧
      shown (inlined (diskWith [0x31]) (.absolute []) (.absolute ["s", "root.json"])
          schemaOfFile).result
        = shown (.ok (.integer 1)) :=
  ⟨rfl, ((inlined_shows_alone_iff (diskWith [0x31]) (.absolute []) (.absolute ["s", "root.json"])
    schemaOfFile).2 _ _ _ rfl (resolve_diskWith _)).2.1.2 fun _ _ _ h => nomatch h⟩

/-- The second attempt finds the file, which is empty; what is reported is the file that the first
attempt missed. -/
theorem inlined_blames_first_attempt :
    dereference (diskWith []) schemaOfFile (.absolute []) "root.json"
        = .error (.missingReference "x.json" "file:///root.json" "/x.json") ∧
      (diskWith []).resolve (.absolute []) ≠ .ok (Path.absolute ["s", "root.json"]).parent ∧
      (∃ reason, dereference (diskWith []) schemaOfFile (.absolute ["s"]) "root.json"
        = .error (.unresolved "x.json" "file:///s/root.json" reason)) ∧
      (inlined (diskWith []) (.absolute []) (.absolute ["s", "root.json"]) schemaOfFile).result
        = .error (.missingReference "x.json" "file:///s/root.json" "/x.json") ∧
      shown (inlined (diskWith []) (.absolute []) (.absolute ["s", "root.json"])
          schemaOfFile).result
        ≠ shown (dereference (diskWith []) schemaOfFile (.absolute ["s"]) "root.json") := by
  have hsecond : (inlined (diskWith []) (.absolute []) (.absolute ["s", "root.json"])
      schemaOfFile).result
      = .error (.missingReference "x.json" "file:///s/root.json" "/x.json") := rfl
  have halone : ∃ reason, dereference (diskWith []) schemaOfFile (.absolute ["s"]) "root.json"
      = .error (.unresolved "x.json" "file:///s/root.json" reason) := ⟨_, rfl⟩
  refine ⟨rfl, resolve_diskWith [], halone, hsecond, ?_⟩
  obtain ⟨reason, halone⟩ := halone
  rw [hsecond, halone]
  simp [shown, Failure.category]

end Resolve

end SchemaDoc
