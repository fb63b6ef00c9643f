/-
SchemaDoc.Fault — operations that a value of the wrong kind, or a text of the
wrong form, does not admit.

A schema document may hold anything anywhere, and nothing checks it before its
fields are read. A fault names the operation that failed and the kinds or
texts it met; `Fault.message` is its wording and `Fault.category` the sort of
failure. Faults are not part of the program's own error vocabulary: the
command line reports them as internal errors.
-/
import SchemaDoc.Text.Utf8
import SchemaDoc.Uri.Malformed
import SchemaDoc.Value.Basic

namespace SchemaDoc

/-- The sort of a fault. -/
inductive FaultCategory where
  /-- A value of the wrong kind. -/
  | type
  /-- A value of the right kind that is out of range or has the wrong form. -/
  | value
  /-- A value without the feature asked for. -/
  | attribute
  /-- A key that is not there. -/
  | key
  /-- A place beyond the end. -/
  | index
  /-- A number beyond the range of an operation. -/
  | overflow
  /-- A value that is too large to be held. -/
  | memory
  /-- A computation that does not come to an end. -/
  | depth
  /-- A limit that has no sort of its own. -/
  | limit
  /-- Bytes that encode no text. -/
  | decoding
  /-- A text that no bytes encode. -/
  | encoding
  /-- A file that is not there. -/
  | missingFile
  /-- A directory in place of a file. -/
  | directory
  /-- A file in place of a directory. -/
  | noDirectory
  /-- A name that no file can have. -/
  | longName
  deriving DecidableEq

/-- A failed operation. -/
inductive Fault where
  /-- Two values have no sum. -/
  | cannotAdd (left right : Kind)
  /-- A value cannot be extended by another. -/
  | cannotExtend (left right : Kind)
  /-- A text, sequence or run of bytes is joined only with its own kind. -/
  | cannotJoin (left right : Kind)
  | cannotSubtract (left right : Kind)
  | cannotMultiply (left right : Kind)
  /-- A text or sequence is repeated a whole number of times. -/
  | cannotRepeat (count : Kind)
  /-- An integer has no double near it. -/
  | beyondDoubles
  /-- An integer is no count. -/
  | beyondCounts
  /-- A text or run of bytes is repeated too often. -/
  | tooOften (kind : Kind)
  /-- A value is larger than anything that can be held. -/
  | tooLarge
  | noAttribute (kind : Kind) (name : String)
  /-- A value that holds no members was asked for one. -/
  | noMembers (kind : Kind)
  /-- Only texts occur inside texts. -/
  | notInText (kind : Kind)
  /-- Only bytes and small integers occur inside bytes. -/
  | notBytes (kind : Kind)
  /-- Only bytes stand at the start of bytes. -/
  | notLeading
  /-- An integer is no byte. -/
  | notByte
  /-- A value of this kind is no key. -/
  | unhashable (kind : Kind)
  /-- A value without parts was asked for one. -/
  | noParts (kind : Kind)
  /-- A value whose parts have no names was asked for one by name. -/
  | noNamedParts (kind : Kind)
  /-- A value without parts was asked for all of them. -/
  | notIterable (kind : Kind)
  /-- JSON has no notation for this kind. -/
  | notJson (kind : Kind)
  /-- JSON has no keys of this kind. -/
  | notJsonKey (kind : Kind)
  /-- The type of a field is none that a descriptor documents. -/
  | notLeaf (shown : String)
  /-- An integer has too many digits to be written, or to be read when a count is given. -/
  | tooManyDigits (count : Option Nat)
  /-- A text is no integer in the base. -/
  | notInteger (base : Nat) (shown : String)
  /-- A text is no number. -/
  | notNumber (shown : String)
  /-- A word is not among the known ones. -/
  | unknownWord (shown : String)
  /-- A number is the code of no character. -/
  | noCharacter
  /-- A number is too large to be looked at as the code of a character. -/
  | noCharacterCode
  /-- A text is empty where a sign or digit is read. -/
  | emptyText
  /-- A text has not the form of a timestamp. -/
  | notTimestamp
  /-- A timestamp is read from a value of another kind than a text. -/
  | noTimestampText (kind : Kind)
  | badDate (e : DateError)
  | badText (e : Text.DecodeError)
  /-- A byte stands where only ASCII is read. -/
  | notAscii (byte : UInt8) (position : Nat)
  /-- Halves of surrogate pairs, of which UTF-8 has none, stand from one place of a text to another,
  the second excluded. -/
  | notEncodable (first : Nat) (start stop : Nat)
  | malformedUri (e : Uri.Malformed)
  /-- No file is at a path. -/
  | noSuchFile (shown : String)
  /-- A directory is at a path. -/
  | isDirectory (shown : String)
  /-- A path leads through a file. -/
  | notDirectory (shown : String)
  /-- A path, or a name in it, has more bytes than a disk admits. -/
  | tooLongName (shown : String)
  /-- A path that is resolved or opened holds the character NUL. -/
  | nulInPath
  /-- A name is no relative path. -/
  | notPathName (kind : Kind)
  /-- A value is no path. -/
  | notPath (kind : Kind)
  /-- A pattern asks for too many repetitions. -/
  | tooManyRepetitions
  /-- A pattern looks further back than 31 bits can count. -/
  | tooFarBehind
  /-- A pattern chooses two alphabets. -/
  | clashingAlphabets
  /-- References lead on and on, a value is carried out that holds itself, or a document nests deeper
  than its reader has room for. A machine also gives up elsewhere on what ends but lies deeper than
  its stack; no function but the readers counts its own calls, so that is no fault of a walk. -/
  | tooDeep
  /-- JSON nests deeper than its reader has room for, where a value of this kind starts. -/
  | tooNested (kind : Kind)
  deriving DecidableEq

namespace Fault

/-- The wording of a fault. -/
def message : Fault → String
  | cannotAdd l r =>
    "unsupported operand type(s) for +: '" ++ l.label ++ "' and '" ++ r.label ++ "'"
  | cannotExtend l r =>
    "unsupported operand type(s) for +=: '" ++ l.label ++ "' and '" ++ r.label ++ "'"
  | cannotJoin .bytes r => "can't concat " ++ r.label ++ " to bytes"
  | cannotJoin l r =>
    "can only concatenate " ++ l.label ++ " (not \"" ++ r.label ++ "\") to " ++ l.label
  | cannotSubtract l r =>
    "unsupported operand type(s) for -: '" ++ l.label ++ "' and '" ++ r.label ++ "'"
  | cannotMultiply l r =>
    "unsupported operand type(s) for *: '" ++ l.label ++ "' and '" ++ r.label ++ "'"
  | cannotRepeat c => "can't multiply sequence by non-int of type '" ++ c.label ++ "'"
  | beyondDoubles => "int too large to convert to float"
  | beyondCounts => "cannot fit 'int' into an index-sized integer"
  | tooOften .bytes => "repeated bytes are too long"
  | tooOften _ => "repeated string is too long"
  | tooLarge => ""
  | noAttribute k name => "'" ++ k.label ++ "' object has no attribute '" ++ name ++ "'"
  | noMembers k => "argument of type '" ++ k.label ++ "' is not iterable"
  | notInText k => "'in <string>' requires string as left operand, not " ++ k.label
  | notBytes k => "a bytes-like object is required, not '" ++ k.label ++ "'"
  | notLeading => "startswith first arg must be bytes or a tuple of bytes, not str"
  | notByte => "byte must be in range(0, 256)"
  | unhashable k => "unhashable type: '" ++ k.label ++ "'"
  | noParts k => "'" ++ k.label ++ "' object is not subscriptable"
  | noNamedParts .text => "string indices must be integers, not 'str'"
  | noNamedParts .set => "'set' object is not subscriptable"
  | noNamedParts k => k.label ++ " indices must be integers or slices, not str"
  | notIterable k => "'" ++ k.label ++ "' object is not iterable"
  | notJson k => "Object of type " ++ k.shortLabel ++ " is not JSON serializable"
  | notJsonKey k => "keys must be str, int, float, bool or None, not " ++ k.label
  | notLeaf shown => "not a leaf schema type: " ++ shown
  | tooManyDigits none => "Exceeds the limit (4300 digits) for integer string conversion; "
      ++ "use sys.set_int_max_str_digits() to increase the limit"
  | tooManyDigits (some n) => "Exceeds the limit (4300 digits) for integer string conversion: "
      ++ "value has " ++ toString n ++ " digits; "
      ++ "use sys.set_int_max_str_digits() to increase the limit"
  | notInteger base shown =>
    "invalid literal for int() with base " ++ toString base ++ ": " ++ shown
  | notNumber shown => "could not convert string to float: " ++ shown
  | unknownWord shown => shown
  | noCharacter => "chr() arg not in range(0x110000)"
  | noCharacterCode => "Python int too large to convert to C int"
  | emptyText => "string index out of range"
  | notTimestamp => "'NoneType' object has no attribute 'groupdict'"
  | noTimestampText k => "expected string or bytes-like object, got '" ++ k.label ++ "'"
  | badDate e => e.message
  | badText e => e.message
  | notAscii b position => "'ascii' codec can't decode byte 0x" ++ Text.hexBytes [b]
      ++ " in position " ++ toString position ++ ": ordinal not in range(128)"
  | notEncodable first start stop =>
    if stop = start + 1 then "'utf-8' codec can't encode character '\\u"
      ++ String.ofList (Text.hex 4 first) ++ "' in position " ++ toString start
      ++ ": surrogates not allowed"
    else "'utf-8' codec can't encode characters in position " ++ toString start ++ "-"
      ++ toString (stop - 1) ++ ": surrogates not allowed"
  | malformedUri e => e.message
  | noSuchFile shown => "[Errno 2] No such file or directory: " ++ shown
  | isDirectory shown => "[Errno 21] Is a directory: " ++ shown
  | notDirectory shown => "[Errno 20] Not a directory: " ++ shown
  | tooLongName shown => "[Errno 36] File name too long: " ++ shown
  | nulInPath => "embedded null byte"
  | notPathName k =>
    "unsupported operand type(s) for /: 'PosixPath' and '" ++ k.label ++ "'"
  | notPath k => "expected str, bytes or os.PathLike object, not " ++ k.label
  | tooManyRepetitions => "the repetition number is too large"
  | tooFarBehind => "invalid SRE code"
  | clashingAlphabets => "ASCII and UNICODE flags are incompatible"
  | tooDeep => "maximum recursion depth exceeded"
  | tooNested k => "maximum recursion depth exceeded while decoding a JSON "
      ++ (if k = .mapping then "object" else "array") ++ " from a unicode string"

/-- The sort of a fault. -/
def category : Fault → FaultCategory
  | cannotAdd .. | cannotExtend .. | cannotJoin .. | cannotSubtract .. | cannotMultiply ..
  | cannotRepeat _ | noMembers _ | notInText _ | notBytes _ | notLeading | unhashable _ | noParts _
  | noNamedParts _ | notIterable _ | noTimestampText _
  | notJson _ | notJsonKey _ | notPathName _ | notPath _ => .type
  | beyondDoubles | beyondCounts | tooOften _ | noCharacterCode | tooManyRepetitions => .overflow
  | tooLarge => .memory
  | noAttribute .. | notTimestamp => .attribute
  | notByte | notLeaf _ | tooManyDigits _ | notInteger .. | notNumber _ | badDate _ | malformedUri _
  | nulInPath | noCharacter | clashingAlphabets => .value
  | unknownWord _ => .key
  | emptyText => .index
  | badText _ | notAscii .. => .decoding
  | notEncodable .. => .encoding
  | noSuchFile _ => .missingFile
  | isDirectory _ => .directory
  | notDirectory _ => .noDirectory
  | tooLongName _ => .longName
  | tooDeep | tooNested _ => .depth
  | tooFarBehind => .limit

end Fault

end SchemaDoc
