/-
SchemaDoc.Uri.Host — addresses between brackets.

The text between the brackets of an authority must be an address of IP
version 6, or of a future version marked by a leading `v`.

§1 version 4, §2 version 6, §3 the check.
-/
import SchemaDoc.Text.Cut
import SchemaDoc.Text.Hex
import SchemaDoc.Text.Quoted
import SchemaDoc.Uri.Malformed

namespace SchemaDoc.Uri

/-! ## §1 Version 4 -/

/-- A decimal number from 0 to 255 without leading zeros. -/
def isOctet (s : List Char) : Bool :=
  !s.isEmpty && s.length ≤ 3 && s.all Char.isDigit && (s.length == 1 || s.head? != some '0')
    && s.foldl (fun n c => 10 * n + (c.toNat - 48)) 0 ≤ 255

/-- An address of version 4. -/
def isVersion4 (s : List Char) : Bool :=
  let parts := Text.cutAt '.' s
  parts.length == 4 && parts.all isOctet

/-! ## §2 Version 6 -/

/-- One to four hexadecimal digits. -/
def isHextet (s : List Char) : Bool :=
  !s.isEmpty && s.length ≤ 4 && s.all fun c => (Text.hexValue? c).isSome

/-- The groups of an address, with those of a version 4 address at its end as two; the flag says
that this address is well-formed. -/
def hextetGroups (s : List Char) : List (List Char) × Bool :=
  let parts := Text.cutAt ':' s
  match parts.getLast? with
  | some last =>
    if last.contains '.' then (parts.dropLast ++ [['0'], ['0']], isVersion4 last)
    else (parts, true)
  | none => (parts, true)

/-- Eight groups, or fewer with one gap between two colons that stands for the missing ones. -/
def areHextets (groups : List (List Char)) : Bool :=
  let inner := (groups.drop 1).dropLast
  let gaps := inner.filter List.isEmpty
  if groups.length < 3 || 9 < groups.length || 1 < gaps.length then false
  else if gaps.isEmpty then groups.length == 8 && groups.all isHextet
  else
    let before := groups.take (1 + (inner.takeWhile (!·.isEmpty)).length)
    let after := groups.drop (before.length + 1)
    let high := if before.head? = some [] then before.drop 1 else before
    let low := if after.getLast? = some [] then after.dropLast else after
    (before.head? != some [] || high.isEmpty) && (after.getLast? != some [] || low.isEmpty)
      && high.length + low.length < 8 && high.all isHextet && low.all isHextet

/-- An address of version 6, with a zone behind a percent sign perhaps. -/
def isVersion6 (s : List Char) : Bool :=
  let (address, zone) := Text.cutOnce '%' s
  let zoneOk := match zone with
    | none => true
    | some z => !z.isEmpty && !z.contains '%'
  let enough := 3 ≤ (Text.cutAt ':' address).length
  let (groups, ok) := hextetGroups address
  zoneOk && enough && ok && areHextets groups

/-! ## §3 The check -/

/-- An address of a future version: hexadecimal digits, a point, and at least one character that is
no line feed. -/
def isFuture (s : List Char) : Bool :=
  match s with
  | 'v' :: rest =>
    let digits := rest.takeWhile fun c => (Text.hexValue? c).isSome
    match rest.drop digits.length with
    | '.' :: tail => !digits.isEmpty && !tail.isEmpty && !tail.contains '\n'
    | _ => false
  | _ => false

/-- What is wrong with the text between brackets. -/
def bracketedProblem? (host : List Char) : Option Malformed :=
  if host.head? = some 'v' then (if isFuture host then none else some .badFutureAddress)
  else if isVersion4 host then some .bracketedVersion4
  else if isVersion6 host then none
  else some (.notAddress (Text.quote (String.ofList host)))

end SchemaDoc.Uri
