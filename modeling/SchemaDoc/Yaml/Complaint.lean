/-
SchemaDoc.Yaml.Complaint — why a text is no YAML document.

A complaint is about the characters of the text, about the order of its
tokens, about anchors, or about the value that a tag asks for. A fault is not
a complaint: it is a scalar whose tag promises a number or a date and whose
text is none.
-/
import SchemaDoc.Fault

namespace SchemaDoc.Yaml

/-- What is wrong with a document. -/
inductive Complaint where
  /-- A character that no YAML text holds. -/
  | badCharacter
  /-- A character that starts no token. -/
  | noToken
  /-- A simple key without its colon. -/
  | missingColon
  /-- A sequence entry, a key or a value where no block may start. -/
  | entryNotAllowed
  | keyNotAllowed
  | valueNotAllowed
  /-- A directive, name, tag or header that is not in its form. -/
  | badDirective
  | badName
  | badTag
  | badBlockHeader
  /-- A quoted text that does not end, or with an unknown escape. -/
  | unterminatedQuote
  | badEscape
  /-- A token that does not fit where it stands. -/
  | unexpectedToken
  /-- A directive given twice, or a version that is not understood. -/
  | repeatedDirective
  | badVersion
  /-- A tag with an unknown handle. -/
  | unknownHandle
  /-- A second document. -/
  | severalDocuments
  | repeatedAnchor
  | unknownAnchor
  /-- A tag that names no known type. -/
  | unknownTag
  /-- A node of another form than its tag asks for. -/
  | wrongForm
  /-- A key that cannot be looked up. -/
  | badKey
  deriving DecidableEq

/-- The wording of a complaint. -/
def Complaint.message : Complaint → String
  | badCharacter => "special characters are not allowed"
  | noToken => "found a character that cannot start any token"
  | missingColon => "could not find expected ':'"
  | entryNotAllowed => "sequence entries are not allowed here"
  | keyNotAllowed => "mapping keys are not allowed here"
  | valueNotAllowed => "mapping values are not allowed here"
  | badDirective => "found a malformed directive"
  | badName => "found a malformed anchor or alias"
  | badTag => "found a malformed tag"
  | badBlockHeader => "found a malformed block scalar header"
  | unterminatedQuote => "found unexpected end of a quoted scalar"
  | badEscape => "found unknown escape character"
  | unexpectedToken => "expected the node content or the end of a collection"
  | repeatedDirective => "found duplicate directive"
  | badVersion => "found incompatible YAML document (version 1.* is required)"
  | unknownHandle => "found undefined tag handle"
  | severalDocuments => "expected a single document in the stream"
  | repeatedAnchor => "found duplicate anchor"
  | unknownAnchor => "found undefined alias"
  | unknownTag => "could not determine a constructor for the tag"
  | wrongForm => "found a node of another kind than its tag"
  | badKey => "found unhashable key"

/-- Why a document has no value. -/
inductive Trouble where
  | complaint (c : Complaint)
  | fault (f : Fault)
  deriving DecidableEq

end SchemaDoc.Yaml
