/-
SchemaDoc.Text.Utf8 — reading and writing UTF-8.

Decoding is strict and says where it fails: overlong forms, surrogates and
code points above U+10FFFF are not admitted, and a fault names the bytes of
the longest prefix that could still have begun a character.

A second decoder never fails and puts U+FFFD in the place of each fault.

Halves of surrogate pairs have no encoding. In the names of files some of them
stand for single bytes.

§1 reading, §2 writing.
-/
import SchemaDoc.Text.Code
import SchemaDoc.Text.Hex

namespace SchemaDoc.Text

/-! ## §1 Reading -/

/-- What is wrong with a run of bytes. -/
inductive DecodeReason where
  /-- No character starts with this byte. -/
  | badStart
  /-- The next byte does not continue the character. -/
  | badContinuation
  /-- The data end inside a character. -/
  | truncated
  deriving DecidableEq, Repr

/-- The place, the bytes and the reason of a decoding failure. -/
structure DecodeError where
  position : Nat
  bytes : List UInt8
  reason : DecodeReason
  deriving DecidableEq, Repr

/-- The wording of the reason. -/
def DecodeReason.message : DecodeReason → String
  | .badStart => "invalid start byte"
  | .badContinuation => "invalid continuation byte"
  | .truncated => "unexpected end of data"

/-- The wording of a decoding failure: one byte is shown, several are located. -/
def DecodeError.message (e : DecodeError) : String :=
  match e.bytes with
  | [b] => "'utf-8' codec can't decode byte 0x" ++ hexBytes [b] ++ " in position "
      ++ toString e.position ++ ": " ++ e.reason.message
  | bs => "'utf-8' codec can't decode bytes in position " ++ toString e.position ++ "-"
      ++ toString (e.position + bs.length - 1) ++ ": " ++ e.reason.message

/-- A character whose first bytes have been read. -/
structure OpenChar where
  /-- Where its first byte stands. -/
  start : Nat
  /-- The bytes read. -/
  bytes : List UInt8
  /-- The bits read. -/
  bits : Nat
  /-- The closed ranges of the bytes still to come: the next, then the others. -/
  next : UInt8 × UInt8
  later : List (UInt8 × UInt8)

/-- Any continuation byte. -/
def anyContinuation : UInt8 × UInt8 := (0x80, 0xBF)

/-- The character that a lead byte opens: its first bits and the ranges of the bytes to come. -/
def openChar (position : Nat) (b : UInt8) : Option OpenChar :=
  if 0xC2 ≤ b && b ≤ 0xDF then
    some ⟨position, [b], b.toNat % 32, anyContinuation, []⟩
  else if 0xE0 ≤ b && b ≤ 0xEF then
    let second := if b = 0xE0 then (0xA0, 0xBF) else if b = 0xED then (0x80, 0x9F)
      else anyContinuation
    some ⟨position, [b], b.toNat % 16, second, [anyContinuation]⟩
  else if 0xF0 ≤ b && b ≤ 0xF4 then
    let second := if b = 0xF0 then (0x90, 0xBF) else if b = 0xF4 then (0x80, 0x8F)
      else anyContinuation
    some ⟨position, [b], b.toNat % 8, second, [anyContinuation, anyContinuation]⟩
  else none

/-- A character, or the failure of a run of bytes in its place. -/
abbrev Item := Except DecodeError Char

/-- What a byte at the start of a character is: a character of its own, the start of a longer one,
or a failure. -/
def firstByte (position : Nat) (b : UInt8) : List Item × Option OpenChar :=
  if b < 0x80 then ([.ok (Char.ofNat b.toNat)], none)
  else match openChar position b with
    | none => ([.error ⟨position, [b], .badStart⟩], none)
    | some o => ([], some o)

/-- Everything that bytes encode, in order, from a position on and possibly inside a character. A
byte that does not continue a character starts the next one. -/
def scanFrom : Option OpenChar → Nat → List UInt8 → List Item
  | none, _, [] => []
  | some o, _, [] => [.error ⟨o.start, o.bytes, .truncated⟩]
  | none, position, b :: rest =>
    let (items, next) := firstByte position b
    items ++ scanFrom next (position + 1) rest
  | some o, position, b :: rest =>
    if o.next.1 ≤ b && b ≤ o.next.2 then
      let bits := o.bits * 64 + b.toNat % 64
      match o.later with
      | [] => .ok (Char.ofNat bits) :: scanFrom none (position + 1) rest
      | next :: later =>
        scanFrom (some ⟨o.start, o.bytes ++ [b], bits, next, later⟩) (position + 1) rest
    else
      let (items, next) := firstByte position b
      .error ⟨o.start, o.bytes, .badContinuation⟩ :: items ++ scanFrom next (position + 1) rest

/-- The characters of a list of items, or its first failure. -/
def collect : List Item → Except DecodeError (List Char)
  | [] => .ok []
  | .ok c :: rest => (collect rest).map (c :: ·)
  | .error e :: _ => .error e

/-- The text that bytes encode, or the first failure in them. -/
def decode (bs : List UInt8) : Except DecodeError String :=
  (collect (scanFrom none 0 bs)).map fun cs => String.ofList (ofChars cs)

/-- The text that bytes encode, with U+FFFD in the place of each failure. -/
def decodeLossy (bs : List UInt8) : String :=
  String.ofList (ofChars ((scanFrom none 0 bs).map fun
    | .ok c => c
    | .error _ => '\uFFFD'))

theorem scanFrom_ascii (position : Nat) (b : UInt8) (rest : List UInt8) (h : b < 0x80) :
    scanFrom none position (b :: rest)
      = .ok (Char.ofNat b.toNat) :: scanFrom none (position + 1) rest := by
  simp [scanFrom, firstByte, h]

/-! ## §2 Writing -/

/-- The bytes of a code point; a half of a surrogate pair has none. -/
def encodeCode (n : Nat) : List UInt8 :=
  if isHalf n then [] else String.utf8EncodeChar (Char.ofNat n)

/-- The bytes of a text. -/
def encode (s : String) : List UInt8 := (codes s.toList).flatMap encodeCode

/-- The first halves in a text, which keep it from being encoded. -/
def unencodable? (s : String) : Option Halves := halves? (fun _ => false) (codes s.toList)

/-- A half that stands for a byte in the names of files. -/
def standsForByte (n : Nat) : Bool := 0xDC80 ≤ n && n ≤ 0xDCFF

/-- The bytes of a text as a name of files. -/
def encodeName (s : String) : List UInt8 :=
  (codes s.toList).flatMap fun n =>
    if standsForByte n then [UInt8.ofNat (n - 0xDC00)] else encodeCode n

/-- The first halves in a text that keep it from being a name of files. -/
def unnamable? (s : String) : Option Halves := halves? standsForByte (codes s.toList)

end SchemaDoc.Text
