/-
SchemaDoc.Log.Event — what happens on the way to a result.

A computation with a log ends in a result or a failure and tells what happened
until then. Nothing that is told has an influence on the result: whether and
how events are shown is decided elsewhere.

§1 events, §2 computations with a log.
-/
import SchemaDoc.Failure
import SchemaDoc.Log.Line

namespace SchemaDoc

/-! ## §1 Events -/

/-- Something worth telling. -/
inductive Event where
  /-- A command starts. -/
  | started (command directory : String)
  /-- A schema file is loaded. -/
  | loaded (path : String)
  /-- The references of a schema are followed anew from its own directory. -/
  | retried (path : String) (reason : Failure)
  /-- A tag is expanded into the fields of a schema. -/
  | expanded (tag schema : String) (fields : Nat)
  /-- A source file is gone through. -/
  | processed (path : String) (changed : Bool)
  deriving DecidableEq

/-- The line of the log that tells an event. -/
def Event.line : Event → Log.Line
  | .started command directory =>
    ⟨"debug", "cli", "start", [("cmd", .text command), ("base_dir", .text directory)]⟩
  | .loaded path => ⟨"debug", "schema", "loaded", [("path", .text path)]⟩
  | .retried path reason =>
    ⟨"info", "schema", "retry_from_schema_dir",
      [("path", .text path), ("reason", .text reason.message)]⟩
  | .expanded tag schema fields =>
    ⟨"debug", "apidoc", "expand",
      [("tag", .text tag), ("schema", .text schema), ("fields", .integer fields)]⟩
  | .processed path changed =>
    ⟨"info", "expand", "file", [("path", .text path), ("changed", .bool changed)]⟩

/-! ## §2 Computations with a log -/

/-- What happened, and what came of it. -/
structure Logged (α : Type) where
  events : List Event
  result : Except Failure α

namespace Logged

variable {α β : Type}

/-- A result without a history. -/
def ofResult (r : Except Failure α) : Logged α := ⟨[], r⟩

/-- One computation after another; a failure ends the history. -/
def andThen (x : Logged α) (f : α → Logged β) : Logged β :=
  match x.result with
  | .ok a => ⟨x.events ++ (f a).events, (f a).result⟩
  | .error e => ⟨x.events, .error e⟩

instance : Monad Logged where
  pure a := ofResult (.ok a)
  bind := andThen

/-- Tells an event. -/
def tell (e : Event) : Logged Unit := ⟨[e], .ok ()⟩

instance : MonadLift (Except Failure) Logged := ⟨ofResult⟩

@[simp] theorem pure_result (a : α) : (pure a : Logged α).result = .ok a := rfl

@[simp] theorem ofResult_result (r : Except Failure α) : (ofResult r).result = r := rfl

@[simp] theorem tell_result (e : Event) : (tell e).result = .ok () := rfl

/-- The result of one computation after another does not depend on what is told. -/
@[simp] theorem bind_result (x : Logged α) (f : α → Logged β) :
    (x >>= f).result = x.result.bind fun a => (f a).result := by
  show (andThen x f).result = _
  unfold andThen
  cases x.result <;> rfl

end Logged

end SchemaDoc
