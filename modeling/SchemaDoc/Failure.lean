/-
SchemaDoc.Failure — why a schema could not be documented.

A failure is a cause with the places it names. Its message is a headline,
followed in two cases by a detail in the words of the reader or of the lookup
that failed. Each cause belongs to one class, and the class fixes the exit
code and the kind that error reports carry.
-/
import SchemaDoc.Fault
import SchemaDoc.Json.Reader

namespace SchemaDoc

/-- The class of a failure. -/
inductive FailureClass where
  | load
  | resolution
  | missingReference
  | shape
  | composition
  /-- A source file that is not there. -/
  | source
  /-- A fault that no failure describes. -/
  | internal
  deriving DecidableEq

/-- The exit code of a class. -/
def FailureClass.exitCode : FailureClass → Nat
  | .load => 10
  | .resolution => 11
  | .missingReference => 11
  | .shape => 12
  | .composition => 13
  | .source => 10
  | .internal => 99

/-- The word for a class in error reports. -/
def FailureClass.kind : FailureClass → String
  | .load => "load_error"
  | .resolution => "resolution_error"
  | .missingReference => "resolution_error"
  | .shape => "shape_error"
  | .composition => "composition_unsupported"
  | .source => "load_error"
  | .internal => "internal_error"

/-- A cause of failure. -/
inductive Failure where
  /-- The schema file is not there. -/
  | missingFile (path : String)
  /-- A document of this origin is neither JSON nor YAML by its name. -/
  | unsupportedType (origin : String)
  /-- The text of a document is not in its format. -/
  | invalidContent (origin reason : String)
  /-- A reference leads to a file that is not there. -/
  | missingReference (reference base path : String)
  /-- A reference leads nowhere for another reason. -/
  | unresolved (reference base reason : String)
  /-- A reference leads back to itself. -/
  | circular (reference base : String)
  /-- The root of the schema is no object. -/
  | notObject
  /-- The schema does not conform to its dialect at a place. -/
  | invalidSchema (location reason : String)
  /-- The root composes several schemas. -/
  | composition
  /-- A source file is not there. -/
  | missingSource (path : String)
  /-- An operation met a value that it does not admit. -/
  | fault (f : Fault)
  deriving DecidableEq

namespace Failure

/-- The class of a cause. -/
def category : Failure → FailureClass
  | missingFile _ | unsupportedType _ | invalidContent _ _ => .load
  | missingReference .. => .missingReference
  | unresolved .. | circular .. => .resolution
  | notObject | invalidSchema _ _ => .shape
  | composition => .composition
  | missingSource _ => .source
  | fault _ => .internal

/-- The file that is not there. -/
def missedFile? : Failure → Option String
  | missingFile path => some path
  | missingReference _ _ path => some path
  | missingSource path => some path
  | _ => none

/-- The wording of a cause up to its detail. -/
def headline : Failure → String
  | missingFile path => "unable to load JSON schema - file not exists: " ++ path
  | unsupportedType origin => "unable to load JSON schema - file type not supported: " ++ origin
  | invalidContent origin _ =>
    "unable to load JSON schema - invalid content in " ++ origin ++ ": "
  | missingReference reference base path =>
    "unable to resolve $ref " ++ Text.quote reference ++ " from " ++ base ++ ": file not found "
      ++ path
  | unresolved reference base _ =>
    "unable to resolve $ref " ++ Text.quote reference ++ " from " ++ base ++ ": "
  | circular reference base => "circular $ref " ++ Text.quote reference ++ " from " ++ base
  | notObject => "expecting object on top of schema"
  | invalidSchema location reason => "invalid JSON schema at " ++ location ++ ": " ++ reason
  | composition =>
    "allOf composition is not supported: merge the schemas before referencing them"
  | missingSource path => "source file not found: " ++ path
  | fault f => f.message

/-- The detail that a reader or a lookup gave. -/
def detail : Failure → String
  | invalidContent _ reason => reason
  | unresolved _ _ reason => reason
  | _ => ""

/-- The whole message. -/
def message (f : Failure) : String := f.headline ++ f.detail

end Failure

/-- A computation that may meet a fault, as one that may fail. -/
def orFail {α : Type} (x : Except Fault α) : Except Failure α := x.mapError .fault

end SchemaDoc
