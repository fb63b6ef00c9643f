/-
SchemaDoc.Files.Tree — a tree of files held in memory.

A tree lists its files and directories by the names that lead to them from the
root, which is always there. A path is followed name by name: a name below
what is no directory leads nowhere, even if a double dot follows. Names and
paths have no more bytes than a disk admits.

§1 trees, §2 following a path, §3 reading, §4 changing, §5 disks.
-/
import SchemaDoc.Files.Path
import SchemaDoc.Text.Quoted

namespace SchemaDoc

/-! ## §1 Trees -/

/-- A file with its bytes, or a directory. -/
inductive Entry where
  | file (bytes : List UInt8)
  | directory
  deriving DecidableEq

/-- Why a path leads to no entry. -/
inductive Obstacle where
  /-- A name is not there. -/
  | missing
  /-- A file stands where names go on. -/
  | file
  /-- A name or the whole path has too many bytes. -/
  | tooLong
  deriving DecidableEq

/-- The entries of a tree by their names from the root. -/
structure Tree where
  entries : List (List String × Entry) := []

namespace Tree

/-- The entry at a place. -/
def at? (t : Tree) (names : List String) : Option Entry :=
  if names.isEmpty then some .directory else t.entries.lookup names

/-! ## §2 Following a path -/

/-- How many bytes a name may have. -/
def maxName : Nat := 255

/-- The place where names lead from a place on. -/
def follow (t : Tree) : List String → List String → Except Obstacle (List String)
  | here, [] => .ok here
  | here, name :: rest => match t.at? here with
    | none => .error .missing
    | some (.file _) => .error .file
    | some .directory =>
      if name = ".." then t.follow here.dropLast rest
      else if (Text.encodeName name).length > maxName then .error .tooLong
      else t.follow (here ++ [name]) rest

/-- The entry of an absolute path. -/
def entry (t : Tree) (p : Path) : Except Obstacle Entry := do
  let place ← t.follow [] p.names
  match t.at? place with
  | some e => return e
  | none => throw .missing

/-! ## §3 Reading -/

/-- The files of a tree with their places. -/
def files (t : Tree) : List (List String × List UInt8) :=
  t.entries.filterMap fun (names, e) => match e with
    | .file bs => some (names, bs)
    | .directory => none

/-- The count of the bytes in all files. -/
def weight (t : Tree) : Nat := t.files.foldl (fun n file => n + file.2.length) 0

/-! ## §4 Changing -/

/-- Puts an entry at a place, in place of what was there. -/
def put (t : Tree) (names : List String) (e : Entry) : Tree :=
  if t.entries.any (·.1 == names) then
    ⟨t.entries.map fun entry => if entry.1 == names then (names, e) else entry⟩
  else ⟨t.entries ++ [(names, e)]⟩

/-- The tree with a directory and those that it lies in. -/
def withDirectories (t : Tree) (names : List String) : Tree :=
  ((List.range (names.length + 1)).drop 1).foldl
    (fun t n => if (t.at? (names.take n)).isSome then t else t.put (names.take n) .directory) t

/-- The tree with a file, and the directories that it lies in. -/
def withFile (t : Tree) (names : List String) (bytes : List UInt8) : Tree :=
  (t.withDirectories names.dropLast).put names (.file bytes)

/-- The tree with other bytes in the file at an absolute path. -/
def write (t : Tree) (p : Path) (bytes : List UInt8) : Tree :=
  match t.follow [] p.names with
  | .ok names => t.put names (.file bytes)
  | .error _ => t

/-- The tree without what lies at a place and below it. -/
def without (t : Tree) (names : List String) : Tree :=
  ⟨t.entries.filter fun (ns, _) => !names.isPrefixOf ns⟩

end Tree

/-! ## §5 Disks -/

/-- A tree of files seen from a working directory. -/
structure Disk where
  tree : Tree
  workingDirectory : Path

namespace Disk

/-- The absolute path that a path means. -/
def full (d : Disk) (p : Path) : Path := d.workingDirectory.join p

/-- How many bytes a path may have as it is given. -/
def maxPath : Nat := 4095

/-- The entry at a path. -/
def entry (d : Disk) (p : Path) : Except Obstacle Entry :=
  if (Text.encodeName p.toString).length > maxPath then .error .tooLong else d.tree.entry (d.full p)

/-- The bytes of the file at a path, if there is one; a path that is too long cannot be asked. -/
def bytes? (d : Disk) (p : Path) : Except Fault (Option (List UInt8)) :=
  if p.fault?.isSome then .ok none
  else match d.entry p with
  | .ok (.file bs) => .ok (some bs)
  | .error .tooLong => .error (.tooLongName (Text.quote p.toString))
  | _ => .ok none

/-- There is a file at a path. -/
def isFile (d : Disk) (p : Path) : Except Fault Bool := (d.bytes? p).map Option.isSome

/-- The bytes of the file at a path, which has to be there. -/
def openFile (d : Disk) (p : Path) : Except Fault (List UInt8) :=
  let shown := Text.quote p.toString
  match p.fault?, d.entry p with
  | some f, _ => .error f
  | none, .ok (.file bs) => .ok bs
  | none, .ok .directory => .error (.isDirectory shown)
  | none, .error .missing => .error (.noSuchFile shown)
  | none, .error .file => .error (.notDirectory shown)
  | none, .error .tooLong => .error (.tooLongName shown)

/-- The disk with other bytes in the file at a path. -/
def write (d : Disk) (p : Path) (bytes : List UInt8) : Disk :=
  { d with tree := d.tree.write (d.full p) bytes }

/-- A path resolved from the working directory. -/
def resolve (d : Disk) (p : Path) : Except Fault Path := p.resolve d.workingDirectory

end Disk

end SchemaDoc
