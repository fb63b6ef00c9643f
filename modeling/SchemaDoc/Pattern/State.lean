/-
SchemaDoc.Pattern.State — reading a regular expression token by token.

A pattern is read once from left to right. What the rules for its text depend
on is small: the tokens that are left, the groups opened so far with the
widths of those that are closed, and the letters switched on for the whole
pattern. A rule that is broken stops the reading.

§1 tokens, §2 widths, §3 the state, §4 moves.
-/
import SchemaDoc.Fault
import SchemaDoc.Text.Code
import SchemaDoc.Text.Identifier

namespace SchemaDoc.Pattern

/-! ## §1 Tokens -/

/-- A letter that stands for itself or behind a backslash. -/
inductive Token where
  | plain (c : Char)
  | escaped (c : Char)
  /-- The character behind the mark of a letter. -/
  | marked (behindBackslash : Bool) (c : Char)
  /-- A backslash with nothing behind it. -/
  | dangling
  deriving DecidableEq

/-- The characters of a token. -/
def Token.toList : Token → List Char
  | .plain c => [c]
  | .escaped c => ['\\', c]
  | .marked backslash c => (if backslash then ['\\'] else []) ++ [Text.mark, c]
  | .dangling => ['\\']

/-- The tokens of a text. -/
def tokens : List Char → List Token
  | [] => []
  | ['\\'] => [.dangling]
  | ['\\', c] => [.escaped c]
  | '\\' :: c :: d :: rest =>
    if c = Text.mark then .marked true d :: tokens rest else .escaped c :: tokens (d :: rest)
  | [c] => [.plain c]
  | c :: d :: rest =>
    if c = Text.mark then .marked false d :: tokens rest else .plain c :: tokens (d :: rest)

/-! ## §2 Widths -/

/-- How many characters a part of a pattern matches. -/
structure Width where
  least : Nat
  most : Nat
  deriving DecidableEq

namespace Width

/-- No bound: more than any text has. -/
def unbounded : Nat := Nat.pow 2 64

/-- One character. -/
def one : Width := ⟨1, 1⟩

/-- No character. -/
def empty : Width := ⟨0, 0⟩

/-- One part behind another. -/
def add (a b : Width) : Width :=
  ⟨min (a.least + b.least) unbounded, min (a.most + b.most) unbounded⟩

/-- One part or another. -/
def either (a b : Width) : Width := ⟨min a.least b.least, max a.most b.most⟩

/-- A part repeated; `none` for as often as one likes. -/
def times (w : Width) (low : Nat) (high : Option Nat) : Width :=
  let most := match high with
    | some n => w.most * n
    | none => if w.most = 0 then 0 else unbounded
  ⟨min (w.least * low) unbounded, min most unbounded⟩

end Width

/-! ## §3 The state -/

/-- Why reading stops. -/
inductive Stop where
  /-- The text is no pattern. -/
  | malformed
  /-- The text cannot be judged. -/
  | fault (f : Fault)

/-- A group that captures; its width is known when it is closed. -/
structure Group where
  name : Option (List Char)
  width : Option Width

/-- The state of a reading. -/
structure State where
  rest : List Token
  /-- The groups in the order of their opening; the first has the number 1. -/
  groups : List Group := []
  /-- In a look-behind: how many groups were open or closed before it. -/
  behind : Option Nat := none
  /-- The numbers of groups that conditions name. -/
  conditions : List Nat := []
  /-- The letters switched on for the whole pattern. -/
  letters : List Char := []
  /-- A part is repeated. -/
  repeats : Bool := false
  /-- The widths of what look-behinds match. -/
  behindWidths : List Width := []

/-- A step of a reading. -/
abbrev Reading := StateT State (Except Stop)

/-! ## §4 Moves -/

/-- Stops the reading. -/
def refuse {α : Type} : Reading α := throw .malformed

/-- Stops the reading unless a rule holds. -/
def require (holds : Bool) : Reading Unit := if holds then pure () else refuse

/-- The next token. -/
def peek : Reading (Option Token) := return (← get).rest.head?

/-- Goes on at a place. A backslash that has nothing behind it is refused as soon as it is next. -/
def moveTo (rest : List Token) : Reading Unit := do
  require (rest.head? ≠ some .dangling)
  modify fun s => { s with rest := rest }

/-- Moves over a token. -/
def advance : Reading Unit := do moveTo (← get).rest.tail

/-- The next token, moved over. -/
def next : Reading (Option Token) := do
  let t ← peek
  advance
  return t

/-- Moves over a character if it is next. -/
def accept (c : Char) : Reading Bool := do
  if (← peek) = some (.plain c) then
    advance
    return true
  return false

/-- Moves over a character that has to be next. -/
def expect (c : Char) : Reading Unit := do require (← accept c)

/-- The character of a plain token that satisfies a test. -/
def plainThat? (p : Char → Bool) : Token → Option Char
  | .plain c => if p c then some c else .none
  | _ => none

/-- The plain characters that satisfy a test, and the tokens behind them. -/
def spanPlain (p : Char → Bool) : List Token → List Char × List Token
  | [] => ([], [])
  | t :: rest => match plainThat? p t with
    | some c => (c :: (spanPlain p rest).1, (spanPlain p rest).2)
    | none => ([], t :: rest)

/-- At most a number of characters that satisfy a test. -/
def readUpTo (count : Nat) (p : Char → Bool) : Reading (List Char) := do
  let rest := (← get).rest
  let taken := (spanPlain p rest).1.take count
  moveTo (rest.drop taken.length)
  return taken

/-- All characters ahead that satisfy a test. -/
def readWhile (p : Char → Bool) : Reading (List Char) := do
  let (taken, rest) := spanPlain p (← get).rest
  moveTo rest
  return taken

/-- What stands before a mark, which is moved over too. -/
def readUntil (mark : Char) : Reading (List Token) := do
  let rest := (← get).rest
  let text := rest.takeWhile (· ≠ .plain mark)
  require (text.length < rest.length)
  moveTo (rest.drop (text.length + 1))
  return text

/-- A name that ends in a mark; it has at least one character. -/
def nameUntil (mark : Char) : Reading (List Char) := do
  let name ← readUntil mark
  require !name.isEmpty
  return name.flatMap Token.toList

end SchemaDoc.Pattern
