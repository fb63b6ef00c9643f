/-
SchemaDoc.Command.Grammar — how a command line is taken apart.

A grammar knows options and at most one operand. A word that starts with a
hyphen is an option of the grammar, written in full or by an unambiguous
beginning, with its value behind an equals sign or in the next word; a word
that starts with a hyphen and is none is left over, unless it looks like a
negative number or holds a blank. Behind a double hyphen every word is an
argument. Every word has its role before any of them takes effect, so an
ambiguous option is refused first.

§1 grammars, §2 what stops the reading, §3 the roles of words, §4 the operand,
§5 options, §6 reading.
-/
import SchemaDoc.Text.Letters
import SchemaDoc.Text.Quoted

namespace SchemaDoc.Command

/-! ## §1 Grammars -/

/-- What an option takes or does. -/
inductive Effect where
  /-- It is set. -/
  | set
  /-- It takes a value, out of some if there are any. -/
  | value (choices : List String)
  /-- It asks for help. -/
  | help
  /-- It asks for the version. -/
  | version
  deriving DecidableEq

/-- An option. -/
structure Switch where
  names : List String
  effect : Effect
  /-- The name of the option that it cannot stand beside. -/
  rival : Option String := none
  deriving DecidableEq

/-- All names of an option. -/
def Switch.label (s : Switch) : String := "/".intercalate s.names

/-- How many words an operand takes. -/
inductive Extent where
  | one
  | many
  /-- The first word is one of the choices, and all that follows belongs to it. -/
  | command (choices : List String)
  deriving DecidableEq

/-- An operand: what stands without an option before it. It has to be there. -/
structure Operand where
  name : String
  extent : Extent

/-- A grammar: the program it is for, how it is used, its options and its operand. -/
structure Grammar where
  program : String
  usage : String
  help : String
  switches : List Switch
  operand : Option Operand

/-! ## §2 What stops the reading -/

/-- A mistake in a command line. -/
inductive Misuse where
  | ambiguous (given : String) (names : List String)
  | badChoice (label given : String) (choices : List String)
  | noValue (label : String)
  | needlessValue (label given : String)
  | rivals (label other : String)
  | missing (name : String)
  | leftOver (words : List String)

/-- A list of words in quotes. -/
def quoted (words : List String) : String := ", ".intercalate (words.map Text.quote)

/-- The wording of a mistake. -/
def Misuse.message : Misuse → String
  | .ambiguous given names =>
    "ambiguous option: " ++ given ++ " could match " ++ ", ".intercalate names
  | .badChoice label given choices =>
    "argument " ++ label ++ ": invalid choice: " ++ Text.quote given ++ " (choose from "
      ++ quoted choices ++ ")"
  | .noValue label => "argument " ++ label ++ ": expected one argument"
  | .needlessValue label given =>
    "argument " ++ label ++ ": ignored explicit argument " ++ Text.quote given
  | .rivals label other => "argument " ++ label ++ ": not allowed with argument " ++ other
  | .missing name => "the following arguments are required: " ++ name
  | .leftOver words => "unrecognized arguments: " ++ " ".intercalate words

/-- Why the reading of a command line ends before its end. -/
inductive Stop where
  | misuse (grammar : Grammar) (m : Misuse)
  | help (grammar : Grammar)
  | version

/-! ## §3 The roles of words -/

/-- An option in a command line: what it is, if it is known, and what stands behind its name in the
same word. -/
structure Found where
  switch : Option Switch
  explicit : Option String := none

/-- The role of a word. -/
inductive Role where
  | option (f : Found)
  | argument
  /-- The double hyphen behind which there are no options. -/
  | divider

/-- A word with its role. -/
structure Word where
  text : String
  role : Role

namespace Grammar

/-- The option of a name. -/
def named? (g : Grammar) (name : String) : Option Switch :=
  g.switches.find? fun s => s.names.contains name

/-- The names that start with a text, with their options. -/
def startingWith (g : Grammar) (start : List Char) : List (String × Switch) :=
  g.switches.flatMap fun s =>
    (s.names.filter fun n => start.isPrefixOf n.toList).map fun n => (n, s)

/-- A text cut at its first equals sign. -/
def cutEquals (s : String) : String × Option String :=
  let cs := s.toList
  match cs.dropWhile (· != '=') with
  | [] => (s, none)
  | _ :: rest => (String.ofList (cs.takeWhile (· != '=')), some (String.ofList rest))

/-- The readings of a word as the beginning of an option: of a long one up to an equals sign, or of
a short one with a value behind its letter. -/
def abbreviated (g : Grammar) (word : String) : List (String × Found) :=
  match word.toList with
  | '-' :: '-' :: _ =>
    let (start, explicit) := cutEquals word
    (g.startingWith start.toList).map fun (n, s) => (n, ⟨some s, explicit⟩)
  | '-' :: c :: rest =>
    match g.named? (String.ofList ['-', c]) with
    | some s => [(String.ofList ['-', c], ⟨some s, some (String.ofList rest)⟩)]
    | none => []
  | _ => []

/-- Digits of any script, at least one. -/
def isDigits (s : List Char) : Bool := !s.isEmpty && s.all fun c => (Text.digitValue? c).isSome

/-- A hyphen and a number, with or without a fraction. -/
def isNegativeNumber : List Char → Bool
  | '-' :: rest =>
    let rest := if rest.getLast? = some '\n' then rest.dropLast else rest
    let whole := rest.takeWhile (· != '.')
    isDigits rest || (match rest.dropWhile (· != '.') with
      | _ :: fraction => isDigits fraction && (whole.isEmpty || isDigits whole)
      | [] => false)
  | _ => false

/-- The role of a word before any double hyphen. -/
def roleOf (g : Grammar) (word : String) : Except Stop Role :=
  match word.toList with
  | '-' :: _ :: _ =>
    match g.named? word with
    | some s => .ok (.option ⟨some s, none⟩)
    | none =>
      let (name, explicit) := cutEquals word
      match explicit, g.named? name with
      | some value, some s => .ok (.option ⟨some s, some value⟩)
      | _, _ => match g.abbreviated word with
        | [(_, found)] => .ok (.option found)
        | [] =>
          if isNegativeNumber word.toList || word.toList.contains ' ' then .ok .argument
          else .ok (.option ⟨none, none⟩)
        | several => .error (.misuse g (.ambiguous word (several.map Prod.fst)))
  | _ => .ok .argument

/-- Words with their roles. -/
def withRoles (g : Grammar) : List String → Except Stop (List Word)
  | [] => .ok []
  | word :: rest =>
    if word = "--" then .ok (⟨word, .divider⟩ :: rest.map fun w => ⟨w, .argument⟩)
    else do
      let role ← g.roleOf word
      let others ← g.withRoles rest
      return ⟨word, role⟩ :: others

end Grammar

/-! ## §4 The operand -/

namespace Word

def isOption (w : Word) : Bool := match w.role with
  | .option _ => true
  | _ => false

def isArgument (w : Word) : Bool := match w.role with
  | .argument => true
  | _ => false

def isDivider (w : Word) : Bool := match w.role with
  | .divider => true
  | _ => false

end Word

/-- The words at the start that an operand takes, and those behind them. It needs an argument;
dividers around its arguments are taken along. -/
def Extent.split? (e : Extent) (words : List Word) : Option (List Word × List Word) :=
  let before := words.takeWhile Word.isDivider
  match words.dropWhile Word.isDivider with
  | [] => none
  | w :: rest =>
    if !w.isArgument then none
    else match e with
      | .one =>
        some (before ++ w :: rest.takeWhile Word.isDivider, rest.dropWhile Word.isDivider)
      | .many =>
        some (before ++ w :: rest.takeWhile (!·.isOption), rest.dropWhile (!·.isOption))
      | .command _ => some (words, [])

/-- The values of an operand's words: a first double hyphen is dropped, unless the words belong to a
command. -/
def Extent.values (e : Extent) (words : List Word) : List String :=
  let texts := words.map Word.text
  match e with
  | .command _ => texts
  | _ => texts.erase "--"

/-! ## §5 Options -/

/-- What a command line gives. -/
structure Given where
  /-- The options in their order, with their values. -/
  options : List (Switch × Option String) := []
  /-- The values of the operand. -/
  operand : Option (List String) := none
  /-- The words that belong to nothing. -/
  leftOver : List String := []

namespace Given

/-- An option is given. -/
def has (g : Given) (name : String) : Bool := g.options.any fun (s, _) => s.names.contains name

/-- The last value given for an option. -/
def value? (g : Given) (name : String) : Option String :=
  (g.options.reverse.findSome? fun (s, v) => if s.names.contains name then some v else none).join

/-- Words that belong to nothing. -/
def leave (g : Given) (words : List String) : Given := { g with leftOver := g.leftOver ++ words }

end Given

namespace Grammar

/-- Gives an option: its value is one of its choices, and its rival is not there. -/
def give (g : Grammar) (given : Given) (s : Switch) (value : Option String) :
    Except Stop Given := do
  match s.effect, value with
  | .value choices, some v =>
    if !choices.isEmpty && !choices.contains v then
      throw (.misuse g (.badChoice s.label v choices))
  | _, _ => pure ()
  match s.rival with
  | some other => if given.has other then throw (.misuse g (.rivals s.label other))
  | none => pure ()
  match s.effect with
  | .help => throw (.help g)
  | .version => throw .version
  | _ => return { given with options := given.options ++ [(s, value)] }

/-- The refusal of a value behind an option that takes none. -/
def needless (g : Grammar) (s : Switch) (value : List Char) : Stop :=
  .misuse g (.needlessValue s.label (String.ofList value))

/-- The options in a word with something behind the name of the first one: those that stand before
the last, the last one, and its value if it is there. Behind a short option that takes no value
stand the letters of others. -/
def shared (g : Grammar) (short : Bool) (s : Switch) :
    List Char → Except Stop (List Switch × Switch × Option String)
  | [] => match s.effect with
    | .value _ => .ok ([], s, some "")
    | _ => .error (g.needless s [])
  | c :: rest => match s.effect with
    | .value _ => .ok ([], s, some (String.ofList (c :: rest)))
    | _ =>
      if !short then .error (g.needless s (c :: rest))
      else match g.named? (String.ofList ['-', c]), rest with
        | none, _ => .error (g.needless s (c :: rest))
        | some next, [] => .ok ([s], next, none)
        | some next, d :: rest => do
          let (before, last, value) ← g.shared short next (d :: rest)
          return (s :: before, last, value)

/-- A word is a short option with something behind its letter. -/
def isShort (word : String) : Bool := match word.toList with
  | '-' :: c :: _ => c != '-'
  | _ => false

/-- The option at the end of a word, and the words behind it. It may take one of them for its
value. A double hyphen in its own word is no value. -/
def lastOption (g : Grammar) (given : Given) (s : Switch) (value : Option String)
    (rest : List Word) : Except Stop (Given × List Word) :=
  match s.effect, value, rest with
  | .value _, none, w :: rest' =>
    if w.isArgument then do
      let given ← g.give given s (some w.text)
      return (given, rest')
    else .error (.misuse g (.noValue s.label))
  | .value _, none, [] => .error (.misuse g (.noValue s.label))
  | _, _, _ => do
    let given ← g.give given s (value.filter (· != "--"))
    return (given, rest)

/-- Gives the options that a word holds; the words behind it may hold the value of the last. -/
def takeOption (g : Grammar) (given : Given) (word : String) (f : Found) (rest : List Word) :
    Except Stop (Given × List Word) :=
  match f.switch with
  | none => .ok (given.leave [word], rest)
  | some s => match f.explicit with
    | none => g.lastOption given s none rest
    | some text => do
      let (before, last, value) ← g.shared (isShort word) s text.toList
      let given ← before.foldlM (fun acc s => g.give acc s none) given
      g.lastOption given last value rest

/-! ## §6 Reading -/

/-- The operand takes words at the start, if it is not there yet and they are enough. -/
def takeOperand? (g : Grammar) (given : Given) (words : List Word) :
    Option (Except Stop Given × List Word) :=
  match g.operand, given.operand with
  | some o, none => (o.extent.split? words).map fun (taken, rest) =>
    let values := o.extent.values taken
    let given := { given with operand := some values }
    match o.extent, values.head? with
    | .command choices, some name =>
      if choices.contains name then (.ok given, rest)
      else (.error (.misuse g (.badChoice o.name name choices)), rest)
    | _, _ => (.ok given, rest)
  | _, _ => none

/-- Goes through words, at most a number of steps. -/
def readWords (g : Grammar) : Nat → Given → List Word → Except Stop Given
  | 0, given, _ => .ok given
  | steps + 1, given, words =>
    match words with
    | [] => .ok given
    | ⟨text, .option f⟩ :: rest => do
      let (given, rest) ← g.takeOption given text f rest
      g.readWords steps given rest
    | words =>
      match g.takeOperand? given words with
      | some (taken, rest) => do
        let given ← taken
        g.readWords steps given rest
      | none =>
        let extra := (words.takeWhile (!·.isOption)).map Word.text
        g.readWords steps (given.leave extra) (words.dropWhile (!·.isOption))

/-- What a command line gives in a grammar, the operand among it. -/
def read (g : Grammar) (words : List String) : Except Stop Given := do
  let words ← g.withRoles words
  let given ← g.readWords (2 * words.length + 1) {} words
  match g.operand, given.operand with
  | some o, none => throw (.misuse g (.missing o.name))
  | _, _ => return given

end Grammar

end SchemaDoc.Command
