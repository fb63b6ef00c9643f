/-
SchemaDoc.Files.Path — names of files.

A path is read into its names: empty names and single dots mean nothing and
are dropped, double dots stay until the path is resolved. Resolving is
lexical: a double dot takes the name before it away, and none is left at the
root. A name that no file can have is met on the way, before a double dot
takes it away.

§1 paths, §2 names, §3 resolving.
-/
import SchemaDoc.Fault
import SchemaDoc.Text.Cut

namespace SchemaDoc

/-! ## §1 Paths -/

/-- Where a path starts. Exactly two slashes are a root of their own until the path is resolved. -/
inductive PathRoot where
  | relative
  | slash
  | doubleSlash
  deriving DecidableEq

/-- A path as its start and its names. -/
structure Path where
  root : PathRoot
  names : List String
  deriving DecidableEq

namespace Path

/-- The names between slashes that mean something. -/
def namesOf (s : List Char) : List String :=
  ((Text.cutAt '/' s).filter fun part => !part.isEmpty && part != ['.']).map String.ofList

/-- The start of a path by its leading slashes. -/
def rootOf : List Char → PathRoot
  | '/' :: '/' :: '/' :: _ => .slash
  | '/' :: '/' :: _ => .doubleSlash
  | '/' :: _ => .slash
  | _ => .relative

/-- The path that a text writes. -/
def ofString (s : String) : Path := ⟨rootOf s.toList, namesOf s.toList⟩

/-- The path of names below the root. -/
def absolute (names : List String) : Path := ⟨.slash, names⟩

def isAbsolute (p : Path) : Bool := p.root != .relative

/-- The text of a path; a relative path without names is a dot. -/
def toString (p : Path) : String :=
  let body := "/".intercalate p.names
  match p.root with
  | .relative => if p.names.isEmpty then "." else body
  | .slash => "/" ++ body
  | .doubleSlash => "//" ++ body

instance : ToString Path := ⟨toString⟩

/-- The second path from the first one on; an absolute path stands alone. -/
def join (p q : Path) : Path :=
  if q.isAbsolute then q else ⟨p.root, p.names ++ q.names⟩

/-! ## §2 Names -/

/-- The last name, or nothing. -/
def fileName (p : Path) : String := p.names.getLast?.getD ""

/-- The path without its last name. -/
def parent (p : Path) : Path := ⟨p.root, p.names.dropLast⟩

/-- The last name from its last dot on, if characters stand on both sides of it. -/
def suffix (p : Path) : String :=
  let name := p.fileName.toList
  let tail := name.reverse.takeWhile (· != '.')
  let before := name.length - tail.length
  if tail.isEmpty || before ≤ 1 then "" else String.ofList ('.' :: tail.reverse)

/-! ## §3 Resolving -/

/-- Names with every double dot carried out; the names before are given in reverse. -/
def settleFrom : List String → List String → List String
  | before, [] => before.reverse
  | before, name :: rest =>
    if name = ".." then settleFrom before.tail rest else settleFrom (name :: before) rest

/-- Names with every double dot carried out. -/
def settle (names : List String) : List String := settleFrom [] names

/-- Why a text names no files: it has halves that stand for no byte, or the character NUL. -/
def textFault? (s : String) : Option Fault :=
  match Text.unnamable? s with
  | some h => some (.notEncodable h.first h.start h.stop)
  | none => if s.toList.contains '\x00' then some .nulInPath else none

/-- Why a path names no file. -/
def fault? (p : Path) : Option Fault := textFault? p.toString

/-- Names with every double dot carried out, each of them being looked at with those before it; the
names before are given in reverse. -/
def resolveFrom : List String → List String → Except Fault (List String)
  | before, [] => .ok before.reverse
  | before, name :: rest =>
    if name = ".." then resolveFrom before.tail rest
    else match (absolute (name :: before).reverse).fault? with
      | some f => .error f
      | none => resolveFrom (name :: before) rest

/-- What resolving gives is what carrying out the double dots gives. -/
theorem eq_settleFrom_of_resolveFrom {before names found : List String}
    (h : resolveFrom before names = .ok found) : found = settleFrom before names := by
  fun_induction resolveFrom before names with
  | case1 before => exact (Except.ok.inj h).symm
  | case2 before rest ih => simpa [settleFrom] using ih h
  | case3 => cases h
  | case4 before name rest hne _ ih => simpa [settleFrom, hne] using ih h

/-- The absolute path without double dots that a path means in a working directory. -/
def resolve (p workingDirectory : Path) : Except Fault Path :=
  (resolveFrom [] (workingDirectory.join p).names).map absolute

end Path

end SchemaDoc
