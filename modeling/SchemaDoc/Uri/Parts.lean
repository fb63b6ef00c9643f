/-
SchemaDoc.Uri.Parts — the parts of a URI reference.

A reference is cut into scheme, authority, path, query and fragment. Blanks
and control characters before it, and tabs and line ends anywhere, are not
part of it. An absent part is the empty text: a query or fragment that is
present but empty is dropped when the parts are put together again.

§1 characters, §2 cutting, §3 putting together.
-/
import SchemaDoc.Uri.Host

namespace SchemaDoc.Uri

/-! ## §1 Characters -/

/-- A character that may stand in a scheme. -/
def isSchemeChar (c : Char) : Bool := c.isAlphanum || c == '+' || c == '-' || c == '.'

/-- A control character or a space, passed over at the start. -/
def isLeading (c : Char) : Bool := c.toNat ≤ 0x20

/-- A character that is dropped anywhere. -/
def isDropped (c : Char) : Bool := c == '\t' || c == '\r' || c == '\n'

/-- The characters that compatibility normalisation turns into a text with a delimiter. -/
def unstable : List Char := [
  '\u2047', '\u2048', '\u2049', '\u2100', '\u2101', '\u2105', '\u2106', '\u2a74', '\ufe13',
  '\ufe16', '\ufe55', '\ufe56', '\ufe5f', '\ufe6b', '\uff03', '\uff0f', '\uff1a', '\uff1f',
  '\uff20']

/-! ## §2 Cutting -/

/-- The parts of a reference. -/
structure Parts where
  scheme : List Char
  authority : List Char
  path : List Char
  query : List Char
  fragment : List Char
  deriving DecidableEq

/-- The scheme of a text in lower case and the text behind its colon; a text without one has the
given scheme. -/
def cutScheme (fallback s : List Char) : List Char × List Char :=
  match Text.cutOnce ':' s with
  | (before, some rest) =>
    if (before.head?.map Char.isAlpha).getD false && before.all isSchemeChar then
      (before.map Char.toLower, rest)
    else (fallback, s)
  | (_, none) => (fallback, s)

/-- The delimiters that end an authority. -/
def endsAuthority (c : Char) : Bool := c == '/' || c == '?' || c == '#'

/-- An authority without the user before its last at sign. -/
def withoutUser (authority : List Char) : List Char :=
  (authority.reverse.takeWhile (· != '@')).reverse

/-- What is wrong with the host of an authority that has brackets: nothing stands before the opening
one, and behind the closing one only a port. -/
def hostProblem? (authority : List Char) : Option Malformed :=
  let host := withoutUser authority
  match Text.cutOnce '[' host with
  | (before, some behind) =>
    let (address, rest) := Text.cutOnce ']' behind
    if !before.isEmpty then some .unbalancedBrackets
    else match rest with
      | some (c :: _) => if c = ':' then bracketedProblem? address else some .unbalancedBrackets
      | _ => bracketedProblem? address
  | (_, none) => bracketedProblem? (Text.cutOnce ':' host).1

/-- What is wrong with an authority's brackets. -/
def bracketProblem? (authority : List Char) : Option Malformed :=
  let opened := authority.contains '['
  let closed := authority.contains ']'
  if opened != closed then some .unbalancedBrackets
  else if opened then hostProblem? authority
  else none

/-- What is wrong with an authority's characters. -/
def characterProblem? (authority : List Char) : Option Malformed :=
  if authority.any unstable.contains then some (.unstableAuthority (String.ofList authority))
  else none

/-- The parts of a reference. A reference without a scheme has the given one. -/
def splitWith (scheme : List Char) (s : List Char) : Except Malformed Parts :=
  let s := (s.dropWhile isLeading).filter (!isDropped ·)
  let (scheme, s) := cutScheme scheme s
  let (authority, s) := match s with
    | '/' :: '/' :: rest =>
      (rest.takeWhile (!endsAuthority ·), rest.dropWhile (!endsAuthority ·))
    | s => ([], s)
  let (s, fragment) := Text.cutOnce '#' s
  let (path, query) := Text.cutOnce '?' s
  match bracketProblem? authority, characterProblem? authority with
  | some m, _ => .error m
  | none, some m => .error m
  | none, none => .ok ⟨scheme, authority, path, query.getD [], fragment.getD []⟩

/-- The parts of a reference. -/
def split (s : List Char) : Except Malformed Parts := splitWith [] s

/-! ## §3 Putting together -/

/-- The schemes whose references have an authority. -/
def authoritySchemes : List String := [
  "", "ftp", "http", "gopher", "nntp", "telnet", "imap", "wais", "file", "mms", "https", "shttp",
  "snews", "prospero", "rtsp", "rtspu", "rsync", "svn", "svn+ssh", "sftp", "nfs", "git",
  "git+ssh", "ws", "wss"]

/-- A scheme is in a list of schemes. -/
def schemeIn (schemes : List String) (scheme : List Char) : Bool :=
  schemes.contains (String.ofList scheme)

/-- The reference with these parts. An empty authority is written in schemes that have one, unless
the path starts as an authority does. -/
def Parts.toList (p : Parts) : List Char :=
  let body :=
    if !p.authority.isEmpty || (!p.scheme.isEmpty && schemeIn authoritySchemes p.scheme
        && !(['/', '/'].isPrefixOf p.path)) then
      let path := if !p.path.isEmpty && p.path.head? != some '/' then '/' :: p.path else p.path
      ['/', '/'] ++ p.authority ++ path
    else p.path
  (if p.scheme.isEmpty then [] else p.scheme ++ [':']) ++ body
    ++ (if p.query.isEmpty then [] else '?' :: p.query)
    ++ (if p.fragment.isEmpty then [] else '#' :: p.fragment)

end SchemaDoc.Uri
