/-
SchemaDoc.Yaml.Token.Lexer — the tokens of a text in order.

Two things make YAML's tokens depend on what stands around them. Indentation
opens and closes blocks: a stack of columns says which are open, and tokens
for their starts and ends are put in. And a key is known only by the colon
behind it: the place of a token that may turn out to be a simple key is
remembered, one for each depth of brackets, until the colon comes, the line
ends, or 1024 characters have passed; the tokens before it are then put in at
that place.

A reader of tokens sees no token behind a place where one may still be put in.
So the tokens before a trouble are those that were settled when it was met.

§1 state, §2 indentation, §3 simple keys, §4 one token, §5 all tokens.
-/
import SchemaDoc.Yaml.Token

namespace SchemaDoc.Yaml

/-! ## §1 State -/

/-- A token that may turn out to start a simple key. -/
structure PendingKey where
  /-- The depth of brackets it stands at. -/
  depth : Nat
  /-- The count of tokens before it. -/
  place : Nat
  /-- Nothing but a key may stand here. -/
  required : Bool
  index : Nat
  line : Nat
  column : Nat

/-- The state between two tokens. -/
structure Lexer where
  cursor : Cursor
  /-- The tokens so far, the last one first. -/
  tokens : List Token := []
  /-- The count of the tokens so far. -/
  count : Nat := 0
  /-- The column of the innermost open block, or -1. -/
  indent : Int := -1
  /-- The columns of the blocks around it. -/
  outer : List Int := []
  /-- The depth of brackets. -/
  depth : Nat := 0
  /-- A simple key may start at the next token. -/
  keyAllowed : Bool := true
  pending : List PendingKey := []

namespace Lexer

/-- A step of the lexer. -/
abbrev Step := Except Trouble Lexer

/-- Adds a token at the end. -/
def push (l : Lexer) (t : Token) : Lexer :=
  { l with tokens := t :: l.tokens, count := l.count + 1 }

/-- Puts a token in behind a number of tokens. -/
def insertAt (l : Lexer) (place : Nat) (t : Token) : Lexer :=
  let after := l.count - place
  { l with
    tokens := l.tokens.take after ++ t :: l.tokens.drop after
    count := l.count + 1 }

/-- Moves the cursor. -/
def moveTo (l : Lexer) (c : Cursor) : Lexer := { l with cursor := c }

/-- The text stands inside brackets. -/
def inFlow (l : Lexer) : Bool := l.depth != 0

/-! ## §2 Indentation -/

/-- The count of the open blocks that are indented further than a column, and the blocks that stay
open. -/
def closedBlocks (column : Int) : Int → List Int → Nat × Int × List Int
  | indent, outer =>
    if column < indent then
      match outer with
      | [] => (1, -1, [])
      | o :: os =>
        let (closed, rest) := closedBlocks column o os
        (closed + 1, rest)
    else (0, indent, outer)
termination_by _ outer => outer.length

/-- Closes the blocks that end before a column; brackets keep them open. -/
def unwind (l : Lexer) (column : Int) : Lexer :=
  if l.inFlow then l
  else
    let (closed, indent, outer) := closedBlocks column l.indent l.outer
    { l with
      indent := indent
      outer := outer
      tokens := List.replicate closed .blockEnd ++ l.tokens
      count := l.count + closed }

/-- A column that is indented further opens a block. -/
def opens (l : Lexer) (column : Nat) : Bool := l.indent < column

/-- The lexer inside a block that starts at a column. -/
def openBlock (l : Lexer) (column : Nat) : Lexer :=
  { l with indent := column, outer := l.indent :: l.outer }

/-! ## §3 Simple keys -/

/-- Forgets the pending keys that the text has left behind; a required one is an error. -/
def dropStale (l : Lexer) : Step :=
  let stale := fun (k : PendingKey) =>
    k.line != l.cursor.line || 1024 < l.cursor.index - k.index
  if l.pending.any fun k => stale k && k.required then refuse .missingColon
  else .ok { l with pending := l.pending.filter fun k => !stale k }

/-- Forgets the pending key at this depth; a required one is an error. -/
def dropPending (l : Lexer) : Step :=
  if l.pending.any fun k => k.depth == l.depth && k.required then refuse .missingColon
  else .ok { l with pending := l.pending.filter fun k => k.depth != l.depth }

/-- Remembers that the next token may start a simple key. -/
def savePending (l : Lexer) : Step :=
  if !l.keyAllowed then .ok l
  else do
    let c := l.cursor
    let required := !l.inFlow && l.indent == (c.column : Int)
    let l ← l.dropPending
    let key : PendingKey := ⟨l.depth, l.count, required, c.index, c.line, c.column⟩
    return { l with pending := key :: l.pending }

/-! ## §4 One token -/

/-- Moves to the next token over blanks, comments and line breaks. Outside brackets a line break
allows a simple key. -/
def toNextToken : Nat → Lexer → Lexer
  | 0, l => l
  | fuel + 1, l =>
    let c := (l.cursor.skipWhile (· == ' ')).skipComment
    match c.lineBreak? with
    | some (_, c) =>
      toNextToken fuel { l with cursor := c, keyAllowed := l.keyAllowed || !l.inFlow }
    | none => l.moveTo c

/-- A token of a fixed number of characters. -/
def take (l : Lexer) (width : Nat) (t : Token) : Lexer :=
  (l.push t).moveTo (l.cursor.skip width)

/-- A directive or a document marker: it ends every block. -/
def endAll (l : Lexer) : Step := do
  let l ← (l.unwind (-1)).dropPending
  return { l with keyAllowed := false }

/-- An opening bracket. -/
def openFlow (l : Lexer) (t : Token) : Step := do
  let l ← l.savePending
  return { l with depth := l.depth + 1, keyAllowed := true }.take 1 t

/-- A closing bracket, which needs an open one. -/
def closeFlow (l : Lexer) (t : Token) : Step := do
  let l ← l.dropPending
  if l.depth = 0 then throw (.complaint .unexpectedToken)
  return { l with depth := l.depth - 1, keyAllowed := false }.take 1 t

/-- A comma inside brackets. -/
def flowEntry (l : Lexer) : Step := do
  let l ← { l with keyAllowed := true }.dropPending
  return l.take 1 .flowEntry

/-- The hyphen of a sequence entry. -/
def blockEntry (l : Lexer) : Step := do
  if !l.inFlow && !l.keyAllowed then throw (.complaint .entryNotAllowed)
  let column := l.cursor.column
  let l := if !l.inFlow && l.opens column then (l.openBlock column).push .blockSequenceStart else l
  let l ← { l with keyAllowed := true }.dropPending
  return l.take 1 .blockEntry

/-- The question mark of a key. -/
def explicitKey (l : Lexer) : Step := do
  if !l.inFlow && !l.keyAllowed then throw (.complaint .keyNotAllowed)
  let column := l.cursor.column
  let l := if !l.inFlow && l.opens column then (l.openBlock column).push .blockMappingStart else l
  let l ← { l with keyAllowed := !l.inFlow }.dropPending
  return l.take 1 .key

/-- The colon of a value. It turns the pending key at its depth into a key. -/
def value (l : Lexer) : Step := do
  match l.pending.find? fun k => k.depth == l.depth with
  | some k =>
    let l := { l with pending := l.pending.filter fun k => k.depth != l.depth }
    let l := l.insertAt k.place .key
    let l := if !l.inFlow && l.opens k.column then
        (l.openBlock k.column).insertAt k.place .blockMappingStart
      else l
    return { l with keyAllowed := false }.take 1 .value
  | none =>
    if !l.inFlow && !l.keyAllowed then throw (.complaint .valueNotAllowed)
    let column := l.cursor.column
    let l := if !l.inFlow && l.opens column then (l.openBlock column).push .blockMappingStart else l
    let l ← { l with keyAllowed := !l.inFlow }.dropPending
    return l.take 1 .value

/-- A token that may start a simple key but leaves no room for another. -/
def keyLike (l : Lexer) (scan : Cursor → Except Trouble (Token × Cursor)) : Step := do
  let l ← l.savePending
  let (t, c) ← scan l.cursor
  return ({ l with keyAllowed := false }.push t).moveTo c

/-- A block scalar, behind which a simple key may start. -/
def blockScalar (l : Lexer) (folded : Bool) : Step := do
  let l ← { l with keyAllowed := true }.dropPending
  let (t, c) ← scanBlock folded l.indent l.cursor
  return (l.push t).moveTo c

/-- A plain scalar. -/
def plain (l : Lexer) : Step := do
  let l ← l.savePending
  let (t, keyAllowed, c) := scanPlain l.inFlow (l.indent + 1) l.cursor
  return ({ l with keyAllowed := keyAllowed }.push t).moveTo c

/-- A plain scalar starts here: not with an indicator, unless the indicator is part of a word. -/
def startsPlain (l : Lexer) : Bool :=
  let c := l.cursor
  !(isGapEnd c.peek || "-?:,[]\x7b\x7d#&*!|>'\"%@`".toList.contains c.peek)
    || (!isGapEnd (c.peekAt 1)
      && (c.peek == '-' || (!l.inFlow && (c.peek == '?' || c.peek == ':'))))

/-- The name of an alias or an anchor as a token. -/
def scanNamed (make : String → Token) (c : Cursor) : Except Trouble (Token × Cursor) := do
  let (name, c) ← scanName c
  return (make name, c)

/-- The next token, the end of the text excepted. -/
def token (l : Lexer) : Step :=
  let c := l.cursor
  let ch := c.peek
  let gapNext := isGapEnd (c.peekAt 1)
  if ch == '%' && c.column == 0 then do
    let l ← l.endAll
    let (t, c) ← scanDirective l.cursor
    return (l.push t).moveTo c
  else if c.column == 0 && c.atMarker '-' then do
    let l ← l.endAll
    return l.take 3 .documentStart
  else if c.column == 0 && c.atMarker '.' then do
    let l ← l.endAll
    return l.take 3 .documentEnd
  else if ch == '[' then l.openFlow .flowSequenceStart
  else if ch == '\x7b' then l.openFlow .flowMappingStart
  else if ch == ']' then l.closeFlow .flowSequenceEnd
  else if ch == '\x7d' then l.closeFlow .flowMappingEnd
  else if ch == ',' then l.flowEntry
  else if ch == '-' && gapNext then l.blockEntry
  else if ch == '?' && (l.inFlow || gapNext) then l.explicitKey
  else if ch == ':' && (l.inFlow || gapNext) then l.value
  else if ch == '*' then l.keyLike (scanNamed .alias)
  else if ch == '&' then l.keyLike (scanNamed .anchor)
  else if ch == '!' then l.keyLike scanTag
  else if ch == '|' && !l.inFlow then l.blockScalar false
  else if ch == '>' && !l.inFlow then l.blockScalar true
  else if ch == '\'' then l.keyLike (scanQuoted false)
  else if ch == '"' then l.keyLike (scanQuoted true)
  else if l.startsPlain then l.plain
  else refuse .noToken

/-! ## §5 All tokens -/

/-- The tokens before which none can be put in any more. -/
def settled (l : Lexer) : List Token :=
  l.tokens.reverse.take (l.pending.foldl (fun least k => min least k.place) l.count)

/-- The lexer at the next token, blocks that end before it being closed. -/
def atNext (fuel : Nat) (l : Lexer) : Step := do
  let l ← (toNextToken fuel l).dropStale
  return l.unwind l.cursor.column

/-- The tokens of a text up to the first trouble, if there is one. -/
structure Lexed where
  tokens : List Token
  trouble : Option Trouble

/-- Reads tokens to the end of the text; each but the last one takes a character at least. -/
def toEnd : Nat → Lexer → Lexed
  | 0, l => ⟨l.settled, none⟩
  | fuel + 1, l =>
    match l.dropStale with
    | .error t => ⟨l.settled, some t⟩
    | .ok l => match l.atNext (fuel + 1) with
      | .error t => ⟨l.settled, some t⟩
      | .ok next =>
        if next.cursor.peek == '\x00' then
          match next.endAll with
          | .error t => ⟨l.settled, some t⟩
          | .ok last => ⟨(last.push .streamEnd).tokens.reverse, none⟩
        else match next.token with
          | .error t => ⟨l.settled, some t⟩
          | .ok next => toEnd fuel next

end Lexer

/-- A byte order mark before a text is passed over. -/
def startOf (s : List Char) : Cursor :=
  let c : Cursor := { rest := s, size := s.length }
  if s.head? = some '\uFEFF' then c.step else c

/-- The tokens of a text, the end of the text being the last. A character that no text holds is met
before all of them. -/
def tokens (s : List Char) : Lexer.Lexed :=
  if s.all isAdmitted then
    let start : Lexer := { cursor := startOf s }
    start.toEnd (s.length + 2)
  else ⟨[], some (.complaint .badCharacter)⟩

end SchemaDoc.Yaml
