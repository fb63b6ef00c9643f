/-
SchemaDoc.Pattern.Syntax — which texts are regular expressions.

A pattern is a choice of sequences. The rules that go beyond brackets: only a
part that is neither a place nor a repetition can be repeated; a group is
named once, and only after it is closed; a look-behind has one width; letters
that hold for the whole pattern stand at its very start.

§1 repetition, §2 letters, §3 groups and sequences, §4 whole patterns.
-/
import SchemaDoc.Pattern.Escape

namespace SchemaDoc.Pattern

/-! ## §1 Repetition -/

/-- Counts of repetitions are below this bound. -/
def maxCount : Nat := 4294967295

/-- A count of repetitions. -/
def count (ds : List Char) : Reading Nat := do
  if ds.length > 4300 then throw (.fault (.tooManyDigits (some ds.length)))
  let n := Decimal.ofDigits ds
  if n < maxCount then return n
  throw (.fault .tooManyRepetitions)

/-- The least and greatest count of a repetition in braces, behind the opening one. Without the
form of a repetition the brace stands for itself, and the reading goes on behind it. -/
def counts? : Reading (Option (Nat × Option Nat)) := do
  if (← peek) = some (.plain '\x7d') then return none
  let start ← get
  let low ← readWhile Char.isDigit
  let high ← if ← accept ',' then readWhile Char.isDigit else pure low
  if !(← accept '\x7d') then
    set start
    return none
  let least ← if low.isEmpty then pure 0 else count low
  if high.isEmpty then return some (least, none)
  let most ← count high
  require (least ≤ most)
  return some (least, some most)

/-- The counts that a sign of repetition stands for. -/
def repetition? (sign : Char) : Reading (Option (Nat × Option Nat)) :=
  match sign with
  | '?' => pure (some (0, some 1))
  | '*' => pure (some (0, none))
  | '+' => pure (some (1, none))
  | _ => counts?

/-- The parts of a sequence, the last one first, after its last part is repeated. -/
def repeatLast (parts : List Part) (low : Nat) (high : Option Nat) : Reading (List Part) := do
  match parts with
  | ⟨.other, width⟩ :: before =>
    if !(← accept '?') then let _ ← accept '+'
    modify fun s => { s with repeats := true }
    return ⟨.repetition, width.times low high⟩ :: before
  | _ => refuse

/-! ## §2 Letters -/

/-- The letters that can be switched on. -/
def isLetter (c : Char) : Bool := ['i', 'm', 's', 'x', 'a', 't', 'u'].contains c

/-- The letters that choose an alphabet; they exclude each other. -/
def isAlphabet (c : Char) : Bool := c == 'a' || c == 'u'

/-- Letters for a group, or for the whole pattern. -/
inductive Letters where
  | whole
  | group (added removed : List Char)

/-- The rules for letters that are switched on together. -/
def fit (letters : List Char) : Bool :=
  letters.all isLetter && !(letters.contains 'a' && letters.contains 'u')

/-- The letters behind a minus sign. -/
def removedLetters : Reading (List Char) := do
  let letters ← readWhile isLetter
  require (!letters.isEmpty && !letters.any isAlphabet)
  expect ':'
  return letters

/-- The letters of a group, from the first of them. -/
def letters : Reading Letters := do
  let added ← readWhile isLetter
  require (fit added)
  if ← accept ')' then
    require (!added.isEmpty)
    modify fun s => { s with letters := s.letters ++ added }
    return .whole
  require (!added.contains 't')
  if ← accept '-' then
    let removed ← removedLetters
    require (!removed.contains 't' && !added.any removed.contains)
    return .group added removed
  expect ':'
  return .group added []

/-! ## §3 Groups and sequences -/

/-- What stands behind the opening of a group. -/
inductive Opening where
  /-- Nothing to match: a comment, or letters for the whole pattern. -/
  | nothing
  /-- The letters for the whole pattern. -/
  | letters
  /-- A part that is complete. -/
  | part (p : Part)
  /-- A group that captures. -/
  | capture (name : Option (List Char))
  /-- A group that does not capture, with letters of its own. -/
  | plain (added removed : List Char)
  /-- A look-ahead or look-behind. -/
  | look (behind : Bool)
  /-- A choice that depends on a group. -/
  | condition

/-- The group of a name. -/
def named? (name : List Char) : Reading (Option Nat) := do
  let groups := (← get).groups
  return (groups.findIdx? fun g => g.name = some name).map (· + 1)

/-- Numbers of groups are below this bound. -/
def maxGroups : Nat := 1073741823

/-- A comment goes on to its closing bracket. -/
def comment : Reading Unit := do
  let _ ← readUntil ')'

/-- The group that a condition names, by name or number. -/
def conditionGroup : Reading Unit := do
  let name ← nameUntil ')'
  let number ←
    if Text.isIdentifier name then
      match ← named? name with
      | some n => pure n
      | none => refuse
    else
      match Reading.integer 10 (String.ofList name) with
      | .ok n =>
        require (0 < n && n < maxGroups)
        modify fun s => { s with conditions := n.toNat :: s.conditions }
        pure n.toNat
      | .error _ => refuse
  if (← get).behind.isSome then
    let _ ← groupWidth number

/-- The opening of a group, behind its bracket. -/
def opening : Reading Opening := do
  if !(← accept '?') then return .capture none
  match ← peek with
  | some (.plain 'P') =>
    advance
    if ← accept '<' then
      let name ← nameUntil '>'
      require (Text.isIdentifier name)
      require (← named? name).isNone
      return .capture (some name)
    expect '='
    let name ← nameUntil ')'
    require (Text.isIdentifier name)
    match ← named? name with
    | some n => return .part ⟨.other, ← groupWidth n⟩
    | none => refuse
  | some (.plain ':') => advance; return .plain [] []
  | some (.plain '>') => advance; return .plain [] []
  | some (.plain '#') => advance; comment; return .nothing
  | some (.plain '=') => advance; return .look false
  | some (.plain '!') => advance; return .look false
  | some (.plain '<') =>
    advance
    if !(← accept '=') then expect '!'
    return .look true
  | some (.plain '(') => advance; conditionGroup; return .condition
  | some (.plain _) => match ← letters with
    | .whole => return .letters
    | .group added removed => return .plain added removed
  | _ => refuse

/-- Blanks that a pattern with the letter x passes over. -/
def isLayout (c : Char) : Bool :=
  c == ' ' || c == '\t' || c == '\n' || c == '\r' || c == '\x0b' || c == '\x0c'

/-- Moves behind the comment of a line. -/
def lineComment : Reading Unit := do
  match (← get).rest.dropWhile fun t => t ≠ .plain '\n' && t ≠ .dangling with
  | .plain _ :: rest => moveTo rest
  | rest => moveTo rest

/-- Blanks and comments count for nothing. -/
def isFree : Reading Bool := return (← get).letters.contains 'x'

/-- Opens a group that captures; the answer is its number less one. -/
def openGroup (name : Option (List Char)) : Reading Nat := do
  let s ← get
  set { s with groups := s.groups ++ [Group.mk name none] }
  return s.groups.length

/-- Closes a group. -/
def closeGroup (index : Nat) (width : Width) : Reading Unit :=
  modify fun s => { s with
    groups := s.groups.modify index fun g => { g with width := some width } }

/-- The width of a sequence. -/
def totalWidth (parts : List Part) : Width := parts.foldr (fun p w => w.add p.width) .empty

mutual

/-- A choice of sequences. -/
def choice : Nat → Bool → Bool → Bool → Reading Width
  | 0, _, _, _ => refuse
  | fuel + 1, free, outer, first => do
    let width ← sequence fuel free outer first []
    if ← accept '|' then
      let free ← if outer then isFree else pure free
      return width.either (← choice fuel free outer false)
    return width

/-- A sequence of parts up to a bar, a closing bracket or the end; the parts so far come last one
first. -/
def sequence : Nat → Bool → Bool → Bool → List Part → Reading Width
  | 0, _, _, _, _ => refuse
  | fuel + 1, free, outer, first, parts => do
    match ← peek with
    | none => return totalWidth parts
    | some (.plain '|') => return totalWidth parts
    | some (.plain ')') => return totalWidth parts
    | some .dangling => refuse
    | some (.marked ..) =>
      advance
      sequence fuel free outer first (unit :: parts)
    | some (.escaped c) =>
      advance
      sequence fuel free outer first ((← escapedPart c) :: parts)
    | some (.plain c) =>
      advance
      if free && isLayout c then
        sequence fuel free outer first parts
      else if free && c = '#' then
        lineComment
        sequence fuel free outer first parts
      else if c = '[' then
        charSet
        sequence fuel free outer first (unit :: parts)
      else if c = '^' || c = '$' then
        sequence fuel free outer first (⟨.place, .empty⟩ :: parts)
      else if c = '?' || c = '*' || c = '+' || c = '\x7b' then
        match ← repetition? c with
        | some (low, high) => sequence fuel free outer first (← repeatLast parts low high)
        | none => sequence fuel free outer first (unit :: parts)
      else if c = '(' then
        match ← opening with
        | .nothing => sequence fuel free outer first parts
        | .letters =>
          require (outer && first && parts.isEmpty)
          sequence fuel (← isFree) outer first parts
        | .part p => sequence fuel free outer first (p :: parts)
        | o => sequence fuel free outer first ((← group fuel free o) :: parts)
      else sequence fuel free outer first (unit :: parts)

/-- A group up to its closing bracket. -/
def group : Nat → Bool → Opening → Reading Part
  | 0, _, _ => refuse
  | fuel + 1, free, o => do
    match o with
    | .capture name =>
      let index ← openGroup name
      let width ← choice fuel free false false
      expect ')'
      closeGroup index width
      return ⟨.other, width⟩
    | .plain added removed =>
      let width ← choice fuel ((free || added.contains 'x') && !removed.contains 'x') false false
      expect ')'
      return ⟨.other, width⟩
    | .look behind =>
      let outside := (← get).behind
      if behind then
        modify fun s => { s with behind := some (outside.getD s.groups.length) }
      let width ← choice fuel free false false
      modify fun s => { s with behind := outside }
      expect ')'
      if behind then modify fun s => { s with behindWidths := width :: s.behindWidths }
      return ⟨.other, .empty⟩
    | .condition =>
      let yes ← sequence fuel free false false []
      if ← accept '|' then
        let no ← sequence fuel free false false []
        expect ')'
        return ⟨.other, yes.either no⟩
      expect ')'
      return ⟨.other, ⟨0, yes.most⟩⟩
    | _ => refuse

end

/-! ## §4 Whole patterns -/

/-- A look-behind matches texts of one length, which is below the bound of counts. -/
def Width.isFixed (w : Width) : Bool := w.least = w.most && w.least < maxCount

/-- The rules that hold for a pattern as a whole. -/
def whole (fuel : Nat) : Reading Unit := do
  moveTo (← get).rest
  let _ ← choice fuel false true true
  let s ← get
  if s.letters.contains 'a' && s.letters.contains 'u' then throw (.fault .clashingAlphabets)
  require s.rest.isEmpty
  require (s.conditions.all (· ≤ s.groups.length))
  require (!(s.letters.contains 't' && s.repeats))
  require (s.behindWidths.all Width.isFixed)
  if s.behindWidths.any (·.least ≥ Nat.pow 2 31) then throw (.fault .tooFarBehind)

/-- Whether a text is a pattern; a text that cannot be judged is a fault. -/
def judge (text : String) : Except Fault Bool :=
  let ts := tokens text.toList
  match (whole (4 * ts.length + 4)).run { rest := ts } with
  | .ok _ => .ok true
  | .error .malformed => .ok false
  | .error (.fault f) => .error f

end SchemaDoc.Pattern
