/-
SchemaDoc.Pattern.Escape — backslashes and sets of characters.

A backslash makes a letter special and any other character plain; letters
without a special meaning are refused. Inside a set a backslash stands for a
character or a family of characters, outside also for a place or for the text
of an earlier group.

§1 characters by their codes, §2 escapes in sets, §3 sets, §4 escapes outside.
-/
import SchemaDoc.Pattern.State
import SchemaDoc.Text.Hex
import SchemaDoc.Text.Names
import SchemaDoc.Number.Reading

namespace SchemaDoc.Pattern

/-! ## §1 Characters by their codes -/

/-- An octal digit. -/
def isOctal (c : Char) : Bool := '0' ≤ c && c ≤ '7'

/-- A hexadecimal digit. -/
def isHex (c : Char) : Bool := (Text.hexValue? c).isSome

/-- The characters that have an escape of one letter. -/
def letterCode? : Char → Option Nat
  | 'a' => some 7
  | 'b' => some 8
  | 't' => some 9
  | 'n' => some 10
  | 'v' => some 11
  | 'f' => some 12
  | 'r' => some 13
  | '\\' => some 92
  | _ => none

/-- A letter that stands for digits, blanks or letters, or for all but them. -/
def isFamily (c : Char) : Bool := ['d', 'D', 's', 'S', 'w', 'W'].contains c

/-- Exactly a number of hexadecimal digits. -/
def hexCode (count : Nat) : Reading Nat := do
  let ds ← readUpTo count isHex
  require (ds.length == count)
  return (Text.readHex? ds).getD 0

/-- A character by its name. -/
def namedCode : Reading Nat := do
  expect '\x7b'
  match Text.Names.code? (← nameUntil '\x7d') with
  | some code => return code
  | none => refuse

/-- A character by its code in full; beyond 31 bits a code is not even looked at. -/
def fullCode : Reading Nat := do
  let n ← hexCode 8
  if n ≥ Nat.pow 2 31 then throw (.fault .noCharacterCode)
  require (n < 0x110000)
  return n

/-- The code behind a letter that announces one. -/
def announcedCode? : Char → Option (Reading Nat)
  | 'x' => some (hexCode 2)
  | 'u' => some (hexCode 4)
  | 'U' => some fullCode
  | 'N' => some namedCode
  | _ => none

/-- The value of octal digits. -/
def octalValue (ds : List Char) : Nat := ds.foldl
  (fun n d => 8 * n + (d.toNat - '0'.toNat)) 0

/-- The code of an octal escape, at most 255. -/
def octalCode (ds : List Char) : Reading Nat := do
  require (octalValue ds ≤ 255)
  return octalValue ds

/-! ## §2 Escapes in sets -/

/-- A member of a set: one character or a family of them. -/
inductive Member where
  | code (n : Nat)
  | family
  deriving DecidableEq

/-- The member that an escape in a set stands for. -/
def escapedMember (c : Char) : Reading Member := do
  if let some n := letterCode? c then return .code n
  if isFamily c then return .family
  if let some code := announcedCode? c then return .code (← code)
  if isOctal c then
    let more ← readUpTo 2 isOctal
    return .code (← octalCode (c :: more))
  require (!c.isAlphanum)
  return .code (Text.codeOf c)

/-! ## §3 Sets -/

/-- The member that a token stands for. -/
def memberOf : Token → Reading Member
  | .plain c => pure (.code (Text.codeOf c))
  | .escaped c => escapedMember c
  | .marked _ c => pure (.code (c.toNat + Text.markShift))
  | .dangling => refuse

/-- A range runs upwards, from a character to a character. -/
def isRange : Member → Member → Bool
  | .code low, .code high => low ≤ high
  | _, _ => false

/-- The members of a set up to its closing bracket; a bracket that comes first is a member. -/
def readSet : Nat → Bool → Reading Unit
  | 0, _ => refuse
  | fuel + 1, first => do
    match ← next with
    | none => refuse
    | some t =>
      if t = .plain ']' && !first then return ()
      let low ← memberOf t
      if ← accept '-' then
        match ← next with
        | none => refuse
        | some (.plain ']') => return ()
        | some u =>
          let high ← memberOf u
          require (isRange low high)
      readSet fuel false

/-- A set behind its opening bracket. -/
def charSet : Reading Unit := do
  let _ ← accept '^'
  readSet ((← get).rest.length + 1) true

/-! ## §4 Escapes outside of sets -/

/-- What a part is to a sign of repetition behind it. -/
inductive PartKind where
  /-- A place cannot be repeated. -/
  | place
  /-- A repetition cannot be repeated again. -/
  | repetition
  | other
  deriving DecidableEq

/-- A part of a sequence. -/
structure Part where
  kind : PartKind
  width : Width

/-- One character. -/
def unit : Part := ⟨.other, .one⟩

/-- The width of a closed group that may be named here: in a look-behind only groups before it. -/
def groupWidth (number : Nat) : Reading Width := do
  let s ← get
  match s.groups[number - 1]?.bind Group.width with
  | some w =>
    require (s.behind.all (number ≤ ·))
    return w
  | none => refuse

/-- A letter that stands for a place. -/
def isPlace (c : Char) : Bool := ['A', 'b', 'B', 'Z'].contains c

/-- The part behind a backslash and a digit other than zero: three octal digits are a character,
anything else is the text of a group. -/
def numberedPart (c : Char) : Reading Part := do
  match ← readUpTo 1 Char.isDigit with
  | [d] =>
    if isOctal c && isOctal d then
      match ← readUpTo 1 isOctal with
      | [e] =>
        let _ ← octalCode [c, d, e]
        return unit
      | _ => return ⟨.other, ← groupWidth (Decimal.ofDigits [c, d])⟩
    else return ⟨.other, ← groupWidth (Decimal.ofDigits [c, d])⟩
  | _ => return ⟨.other, ← groupWidth (Decimal.ofDigits [c])⟩

/-- The part that an escape outside of sets stands for. -/
def escapedPart (c : Char) : Reading Part := do
  if isPlace c then return ⟨.place, .empty⟩
  if isFamily c || (letterCode? c).isSome then return unit
  if let some code := announcedCode? c then
    let _ ← code
    return unit
  if c = '0' then
    let _ ← readUpTo 2 isOctal
    return unit
  if c.isDigit then return ← numberedPart c
  require (!c.isAlpha)
  return unit

end SchemaDoc.Pattern
