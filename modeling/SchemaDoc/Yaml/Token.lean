/-
SchemaDoc.Yaml.Token — the tokens of a YAML text and the scalars in it.

§1 tokens, §2 names and tags, §3 directives, §4 quoted scalars, §5 plain
scalars, §6 block scalars. Each reader takes a cursor and gives back what it
has read with the cursor behind it; loops are bound by the text that is left.
-/
import SchemaDoc.Json.Reader
import SchemaDoc.Yaml.Complaint
import SchemaDoc.Yaml.Cursor

namespace SchemaDoc.Yaml

/-! ## §1 Tokens -/

inductive Token where
  | version (major : Nat)
  | handle (handle replacement : String)
  | otherDirective
  | documentStart
  | documentEnd
  | streamEnd
  | blockSequenceStart
  | blockMappingStart
  | blockEnd
  | flowSequenceStart
  | flowSequenceEnd
  | flowMappingStart
  | flowMappingEnd
  | key
  | value
  | blockEntry
  | flowEntry
  | alias (name : String)
  | anchor (name : String)
  | tag (handle : Option String) (suffix : String)
  | scalar (text : String) (plain : Bool)
  deriving DecidableEq

/-- Refuses the text. -/
def refuse {α : Type} (c : Complaint) : Except Trouble α := .error (.complaint c)

/-! ## §2 Names and tags -/

/-- The characters that may follow the name of an anchor. -/
def endsName (c : Char) : Bool := isGapEnd c || "?:,]\x7d%@`".toList.contains c

/-- The name of an anchor or alias behind its indicator. -/
def scanName (c : Cursor) : Except Trouble (String × Cursor) :=
  let (name, c) := c.step.takeWhile isNameChar
  if name.isEmpty || !endsName c.peek then refuse .badName else .ok (String.ofList name, c)

/-- A tag handle: an exclamation mark, or a name between two. -/
def scanHandle (c : Cursor) : Except Trouble (String × Cursor) :=
  if c.peek != '!' then refuse .badTag
  else if c.peekAt 1 == ' ' then .ok ("!", c.step)
  else
    let (name, c) := c.step.takeWhile isNameChar
    if c.peek != '!' then refuse .badTag
    else .ok (String.ofList (['!'] ++ name ++ ['!']), c.step)

/-- The bytes of a run of percent escapes. -/
def scanEscapedBytes : Nat → Cursor → Except Trouble (List UInt8 × Cursor)
  | 0, c => .ok ([], c)
  | fuel + 1, c =>
    if c.peek != '%' then .ok ([], c)
    else match Text.readHex? [c.peekAt 1, c.peekAt 2] with
      | none => refuse .badTag
      | some n => do
        let (bs, c) ← scanEscapedBytes fuel (c.skip 3)
        return (UInt8.ofNat n :: bs, c)

/-- A character of a tag other than an escape. -/
def isTagChar (c : Char) : Bool := c.isAlphanum || "-;/?:@&=+$,_.!~*'()[]".toList.contains c

/-- The characters of a tag with its escapes resolved. -/
def scanTagText : Nat → Cursor → Except Trouble (List Char × Cursor)
  | 0, c => .ok ([], c)
  | fuel + 1, c =>
    if c.peek == '%' then do
      let (bs, c) ← scanEscapedBytes c.size c
      match Text.decode bs with
      | .error _ => refuse .badTag
      | .ok s =>
        let (more, c) ← scanTagText fuel c
        return (s.toList ++ more, c)
    else if isTagChar c.peek then do
      let ch := c.peek
      let (more, c) ← scanTagText fuel c.step
      return (ch :: more, c)
    else .ok ([], c)

/-- The characters of a tag, of which there must be one at least. -/
def scanTagUri (c : Cursor) : Except Trouble (String × Cursor) := do
  if !(c.peek == '%' || isTagChar c.peek) then throw (.complaint .badTag)
  let (cs, c) ← scanTagText (c.size + 1) c
  return (String.ofList cs, c)

/-- A tag: between angle brackets as it stands, or behind a handle. -/
def scanTag (c : Cursor) : Except Trouble (Token × Cursor) := do
  let next := c.peekAt 1
  let (token, c) ←
    if next == '<' then do
      let (suffix, c) ← scanTagUri (c.skip 2)
      if c.peek != '>' then throw (.complaint .badTag)
      pure (Token.tag none suffix, c.step)
    else if isGapEnd next then pure (Token.tag none "!", c.step)
    else if (c.step.rest.takeWhile (!isSpaceEnd ·)).contains '!' then do
      let (handle, c) ← scanHandle c
      let (suffix, c) ← scanTagUri c
      pure (Token.tag (some handle) suffix, c)
    else do
      let (suffix, c) ← scanTagUri c.step
      pure (Token.tag (some "!") suffix, c)
  if !isSpaceEnd c.peek then throw (.complaint .badTag)
  return (token, c)

/-! ## §3 Directives -/

/-- The rest of a line that holds at most a comment. -/
def scanIgnoredLine (problem : Complaint) (c : Cursor) : Except Trouble Cursor :=
  let c := (c.skipWhile (· == ' ')).skipComment
  if !isLineEnd c.peek then refuse problem
  else match c.lineBreak? with
    | some (_, c) => .ok c
    | none => .ok c

/-- The number of a version. -/
def scanVersionNumber (c : Cursor) : Except Trouble (Nat × Cursor) :=
  let (ds, c) := c.takeWhile Json.isDigit
  if ds.isEmpty then refuse .badDirective
  else if Decimal.maxDigits < ds.length then .error (.fault (.tooManyDigits (some ds.length)))
  else .ok (Decimal.ofDigits ds, c)

/-- The value of a version directive. -/
def scanVersion (c : Cursor) : Except Trouble (Token × Cursor) := do
  let (major, c) ← scanVersionNumber (c.skipWhile (· == ' '))
  if c.peek != '.' then throw (.complaint .badDirective)
  let (_, c) ← scanVersionNumber c.step
  if !isSpaceEnd c.peek then throw (.complaint .badDirective)
  return (.version major, c)

/-- The value of a directive that gives a tag handle its meaning. -/
def scanHandleDirective (c : Cursor) : Except Trouble (Token × Cursor) := do
  let (handle, c) ← scanHandle (c.skipWhile (· == ' '))
  if c.peek != ' ' then throw (.complaint .badDirective)
  let (replacement, c) ← scanTagUri (c.skipWhile (· == ' '))
  if !isSpaceEnd c.peek then throw (.complaint .badDirective)
  return (.handle handle replacement, c)

/-- A directive with its line. Unknown directives are passed over. -/
def scanDirective (c : Cursor) : Except Trouble (Token × Cursor) := do
  let (name, c) := c.step.takeWhile isNameChar
  if name.isEmpty || !isSpaceEnd c.peek then throw (.complaint .badDirective)
  let (token, c) ←
    if name = "YAML".toList then scanVersion c
    else if name = "TAG".toList then scanHandleDirective c
    else pure (Token.otherDirective, c.skipWhile (!isLineEnd ·))
  let c ← scanIgnoredLine .badDirective c
  return (token, c)

/-! ## §4 Quoted scalars -/

/-- The character of a one-letter escape. -/
def unescape? (c : Char) : Option Char :=
  ([('0', '\x00'), ('a', '\x07'), ('b', '\x08'), ('t', '\t'), ('\t', '\t'), ('n', '\n'),
    ('v', '\x0b'), ('f', '\x0c'), ('r', '\r'), ('e', '\x1b'), (' ', ' '), ('"', '"'),
    ('\\', '\\'), ('/', '/'), ('N', '\x85'), ('_', '\xa0'), ('L', '\u2028'),
    ('P', '\u2029')] : List (Char × Char)).lookup c

/-- The count of digits behind the letter of an escape by number. -/
def escapeWidth? (c : Char) : Option Nat :=
  ([('x', 2), ('u', 4), ('U', 8)] : List (Char × Nat)).lookup c

/-- The letter that an escape by number writes. Halves of surrogate pairs stay apart. -/
def letterOfCode (n : Nat) : Except Trouble (List Char) :=
  if n < 0x110000 then .ok (Text.spell n)
  else if n < 0x80000000 then .error (.fault .noCharacter)
  else .error (.fault .noCharacterCode)

/-- Empty lines inside a quoted scalar, as their breaks; a document marker may not stand there. -/
def scanQuotedBreaks : Nat → Cursor → Except Trouble (List Char × Cursor)
  | 0, c => .ok ([], c)
  | fuel + 1, c =>
    if c.atDocumentMarker then refuse .unterminatedQuote
    else
      let c := c.skipWhile fun ch => ch == ' ' || ch == '\t'
      match c.lineBreak? with
      | some (ch, c) => do
        let (more, c) ← scanQuotedBreaks fuel c
        return (ch :: more, c)
      | none => .ok ([], c)

/-- A run of blanks inside a quoted scalar. A single line break is read as a space, further ones
as they are. -/
def scanQuotedSpaces (c : Cursor) : Except Trouble (List Char × Cursor) := do
  let (blanks, c) := c.takeWhile fun ch => ch == ' ' || ch == '\t'
  if c.peek == '\x00' then throw (.complaint .unterminatedQuote)
  match c.lineBreak? with
  | some (ch, c) =>
    let (breaks, c) ← scanQuotedBreaks (c.size + 1) c
    let first := if ch != '\n' then [ch] else if breaks.isEmpty then [' '] else []
    return (first ++ breaks, c)
  | none => return (blanks, c)

/-- The parts of a quoted scalar up to its closing quote or to the next blank. -/
def scanQuotedWord (double : Bool) : Nat → Cursor → Except Trouble (List Char × Cursor)
  | 0, c => .ok ([], c)
  | fuel + 1, c => do
    let ch := c.peek
    if ch == '\'' && !double then
      if c.peekAt 1 == '\'' then
        let (more, c) ← scanQuotedWord double fuel (c.skip 2)
        return ('\'' :: more, c)
      else return ([], c)
    else if ch == '"' && double then return ([], c)
    else if ch == '\\' && double then
      let letter := c.peekAt 1
      match unescape? letter, escapeWidth? letter with
      | some e, _ =>
        let (more, c) ← scanQuotedWord double fuel (c.skip 2)
        return (e :: more, c)
      | none, some width =>
        match Text.readHex? ((List.range width).map fun i => c.peekAt (2 + i)) with
        | none => refuse .badEscape
        | some n =>
          let e ← letterOfCode n
          let (more, c) ← scanQuotedWord double fuel (c.skip (2 + width))
          return (e ++ more, c)
      | none, none =>
        match c.step.lineBreak? with
        | some (_, c) =>
          let (breaks, c) ← scanQuotedBreaks (c.size + 1) c
          let (more, c) ← scanQuotedWord double fuel c
          return (breaks ++ more, c)
        | none => refuse .badEscape
    else if isGapEnd ch then return ([], c)
    else
      let (more, c) ← scanQuotedWord double fuel c.step
      return (ch :: more, c)

/-- The words of a quoted scalar and the blanks between them, up to the closing quote. -/
def scanQuotedWords (double : Bool) : Nat → Cursor → Except Trouble (List Char × Cursor)
  | 0, c => .ok ([], c)
  | fuel + 1, c => do
    let (word, c) ← scanQuotedWord double (c.size + 1) c
    if c.peek == (if double then '"' else '\'') then return (word, c.step)
    else
      let (blanks, c) ← scanQuotedSpaces c
      let (more, c) ← scanQuotedWords double fuel c
      return (word ++ blanks ++ more, c)

/-- A quoted scalar. -/
def scanQuoted (double : Bool) (c : Cursor) : Except Trouble (Token × Cursor) := do
  let (text, c) ← scanQuotedWords double (c.size + 1) c.step
  return (.scalar (String.ofList text) false, c)

/-! ## §5 Plain scalars -/

/-- A run of blanks inside a plain scalar, whether a line ended in it, and whether a document marker
ended the scalar. -/
structure PlainGap where
  text : List Char
  brokeLine : Bool
  atMarker : Bool

/-- Empty lines inside a plain scalar; the flag says that a document marker ends them. -/
def scanPlainBreaks : Nat → Cursor → List Char × Bool × Cursor
  | 0, c => ([], false, c)
  | fuel + 1, c =>
    let c := c.skipWhile (· == ' ')
    match c.lineBreak? with
    | some (ch, c) =>
      if c.atDocumentMarker then ([ch], true, c)
      else
        let (more, marker, c) := scanPlainBreaks fuel c
        (ch :: more, marker, c)
    | none => ([], false, c)

/-- The blanks behind a word of a plain scalar. -/
def scanPlainGap (c : Cursor) : PlainGap × Cursor :=
  let (blanks, c) := c.takeWhile (· == ' ')
  match c.lineBreak? with
  | some (ch, c) =>
    if c.atDocumentMarker then (⟨[], true, true⟩, c)
    else
      let (breaks, marker, c) := scanPlainBreaks (c.size + 1) c
      let first := if ch != '\n' then [ch] else if breaks.isEmpty then [' '] else []
      (⟨first ++ breaks, true, marker⟩, c)
  | none => (⟨blanks, false, false⟩, c)

/-- The characters that end a plain word inside brackets. -/
def isFlowMark (c : Char) : Bool := ",[]\x7b\x7d".toList.contains c

/-- The word at the start of a text: a colon ends it before a gap, brackets and the like inside
flow collections only. -/
def plainWord (inFlow : Bool) : List Char → List Char
  | [] => []
  | ch :: rest =>
    let next := rest.headD '\x00'
    if isGapEnd ch
      || (ch == ':' && (isGapEnd next || (inFlow && isFlowMark next)))
      || (inFlow && (isFlowMark ch || ch == '?')) then []
    else ch :: plainWord inFlow rest

/-- The words of a plain scalar: the text so far, the gap before the next word, and whether a key
may start behind the scalar. -/
def scanPlainWords (inFlow : Bool) (indent : Int) :
    Nat → List Char → Bool → Cursor → List Char × Bool × Cursor
  | 0, _, keyAllowed, c => ([], keyAllowed, c)
  | fuel + 1, gap, keyAllowed, c =>
    if c.peek == '#' then ([], keyAllowed, c)
    else
      let word := plainWord inFlow c.rest
      if word.isEmpty then ([], keyAllowed, c)
      else
        let (next, c) := scanPlainGap (c.skip word.length)
        let here := gap ++ word
        if next.atMarker || next.text.isEmpty || c.peek == '#'
            || (!inFlow && (c.column : Int) < indent) then
          (here, next.brokeLine, c)
        else
          let (more, keyAllowed, c) := scanPlainWords inFlow indent fuel next.text next.brokeLine c
          (here ++ more, keyAllowed, c)

/-- A plain scalar, and whether a key may start behind it because a line has ended. -/
def scanPlain (inFlow : Bool) (indent : Int) (c : Cursor) : Token × Bool × Cursor :=
  let (text, keyAllowed, c) := scanPlainWords inFlow indent (c.size + 1) [] false c
  (.scalar (String.ofList text) true, keyAllowed, c)

/-! ## §6 Block scalars -/

/-- What becomes of the line breaks at the end of a block scalar. -/
inductive Chomp where
  | clip
  | strip
  | keep
  deriving DecidableEq

/-- The sign that chooses how to chomp. -/
def chompOf? (c : Char) : Option Chomp :=
  if c = '+' then some .keep else if c = '-' then some .strip else none

/-- The digit of an indentation indicator; zero is refused. -/
def indentDigit (c : Cursor) : Except Trouble (Option Nat × Cursor) :=
  if c.peek == '0' then refuse .badBlockHeader
  else if Json.isDigit c.peek then .ok (some (c.peek.toNat - 48), c.step)
  else .ok (none, c)

/-- The indicators of a block scalar, in either order. -/
def scanBlockHeader (c : Cursor) : Except Trouble (Chomp × Option Nat × Cursor) := do
  let (chomp, increment, c) ← match chompOf? c.peek with
    | some chomp => do
      let (increment, c) ← indentDigit c.step
      pure (chomp, increment, c)
    | none => do
      let (increment, c) ← indentDigit c
      match increment, chompOf? c.peek with
      | some _, some chomp => pure (chomp, increment, c.step)
      | _, _ => pure (Chomp.clip, increment, c)
  if !isSpaceEnd c.peek then throw (.complaint .badBlockHeader)
  return (chomp, increment, c)

/-- The empty lines before a block scalar and the widest indentation in them and on its first
line. -/
def scanBlockIndentation : Nat → Nat → Cursor → List Char × Nat × Cursor
  | 0, widest, c => ([], widest, c)
  | fuel + 1, widest, c =>
    if c.peek == ' ' then
      let c := c.skipWhile (· == ' ')
      scanBlockIndentation fuel (max widest c.column) c
    else match c.lineBreak? with
      | some (ch, c) =>
        let (more, widest, c) := scanBlockIndentation fuel widest c
        (ch :: more, widest, c)
      | none => ([], widest, c)

/-- Moves over the spaces of an indentation, but not beyond it. -/
def skipIndent (indent : Nat) (c : Cursor) : Cursor :=
  c.skip (min (indent - c.column) (c.rest.takeWhile (· == ' ')).length)

/-- The empty lines between the lines of a block scalar. -/
def scanBlockBreaks (indent : Nat) : Nat → Cursor → List Char × Cursor
  | 0, c => ([], c)
  | fuel + 1, c =>
    let c := skipIndent indent c
    match c.lineBreak? with
    | some (ch, c) =>
      let (more, c) := scanBlockBreaks indent fuel c
      (ch :: more, c)
    | none => ([], c)

/-- The lines of a block scalar from its first one on, given the breaks before it. Folding reads a
single break between two lines that start with no blank as a space. -/
def scanBlockLines (folded : Bool) (chomp : Chomp) (indent : Nat) :
    Nat → List Char → Cursor → List Char × Cursor
  | 0, _, c => ([], c)
  | fuel + 1, breaks, c =>
    let startsBlank := c.peek == ' ' || c.peek == '\t'
    let (text, c) := c.takeWhile (!isLineEnd ·)
    let (lineBreak, c) := match c.lineBreak? with
      | some (ch, c) => ([ch], c)
      | none => ([], c)
    let (next, c) := scanBlockBreaks indent (c.size + 1) c
    if c.column = indent && c.peek != '\x00' then
      let joint :=
        if folded && lineBreak = ['\n'] && !startsBlank && c.peek != ' ' && c.peek != '\t' then
          (if next.isEmpty then [' '] else [])
        else lineBreak
      let (more, c) := scanBlockLines folded chomp indent fuel next c
      (breaks ++ text ++ joint ++ more, c)
    else
      let tail := match chomp with
        | .strip => []
        | .clip => lineBreak
        | .keep => lineBreak ++ next
      (breaks ++ text ++ tail, c)

/-- A block scalar below a line of the given indentation. -/
def scanBlock (folded : Bool) (parent : Int) (c : Cursor) : Except Trouble (Token × Cursor) := do
  let (chomp, increment, c) ← scanBlockHeader c.step
  let c ← scanIgnoredLine .badBlockHeader c
  let least := (max (parent + 1) 1).toNat
  let (breaks, indent, c) := match increment with
    | some n =>
      let indent := least + n - 1
      let (breaks, c) := scanBlockBreaks indent (c.size + 1) c
      (breaks, indent, c)
    | none =>
      let (breaks, widest, c) := scanBlockIndentation (c.size + 1) 0 c
      (breaks, max least widest, c)
  if c.column = indent && c.peek != '\x00' then
    let (text, c) := scanBlockLines folded chomp indent (c.size + 1) breaks c
    return (.scalar (String.ofList text) false, c)
  else
    let text := if chomp = .keep then breaks else []
    return (.scalar (String.ofList text) false, c)

end SchemaDoc.Yaml
