/-
SchemaDoc.Yaml.Base64 — bytes written in base 64.

Characters outside the alphabet are passed over, so that the text may be cut
into lines. Reading ends at the padding; a text that ends inside a group of
four without padding writes no bytes.
-/

namespace SchemaDoc.Yaml.Base64

/-- The six bits of a character of the alphabet. -/
def sextet? (c : Char) : Option Nat :=
  let n := c.toNat
  if 65 ≤ n && n ≤ 90 then some (n - 65)
  else if 97 ≤ n && n ≤ 122 then some (n - 71)
  else if 48 ≤ n && n ≤ 57 then some (n + 4)
  else if c = '+' then some 62
  else if c = '/' then some 63
  else none

/-- Reads on from a place in a group of four: the count of sextets read in it, the bits left over
and the pads seen since the last sextet. -/
def decodeFrom : Nat → Nat → Nat → List Char → Option (List UInt8)
  | place, _, _, [] => if place = 0 then some [] else none
  | place, bits, pads, c :: rest =>
    if c = '=' then
      if 2 ≤ place then
        if 4 ≤ place + pads + 1 then some [] else decodeFrom place bits (pads + 1) rest
      else decodeFrom place bits pads rest
    else match sextet? c with
      | none => decodeFrom place bits pads rest
      | some v =>
        match place with
        | 0 => decodeFrom 1 v 0 rest
        | 1 => (decodeFrom 2 (v % 16) 0 rest).map (UInt8.ofNat (bits * 4 + v / 16) :: ·)
        | 2 => (decodeFrom 3 (v % 4) 0 rest).map (UInt8.ofNat (bits * 16 + v / 4) :: ·)
        | _ => (decodeFrom 0 0 0 rest).map (UInt8.ofNat (bits * 64 + v) :: ·)

/-- The bytes that a text writes. -/
def decode? (s : List Char) : Option (List UInt8) := decodeFrom 0 0 0 s

end SchemaDoc.Yaml.Base64
